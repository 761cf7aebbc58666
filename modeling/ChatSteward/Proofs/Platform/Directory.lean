import ChatSteward.Platform.Directory
import ChatSteward.Proofs.Event.Envelopes

/-!
# Events and the directory in JSON text

What is written for chats, their members and users is restored, as it is for the envelopes of
events, whatever strings they hold and however many there are of them. An envelope is written
without its empty strings and without an event that is absent. So a text that is read is written
again as one that is read alike, and different things are written differently.

## Main results

* `ChatSummary.restores`, `ChatMember.restores`, `ChatInfo.restores`, `User.restores` — what is
  written is restored
* `events_and_directory_round_trip` — envelopes, listings of chats and users, and chats
-/

namespace ChatSteward.Platform

open Json (Decoder Field Record Value)

/-! ## Chats -/

/-- Every chat of a listing is restored from its fields. -/
theorem ChatSummary.restores (depth : Nat) (chat : ChatSummary) :
    ChatSummary.record.decoder.Restores (depth + 1) chat.json chat := by
  have htext (s : String) := Decoder.restores_text depth s
  have hassigns : ChatSummary.record.Assigns depth
      [("chat_id", .text chat.chatId), ("name", .text chat.name),
        ("description", .text chat.description), ("owner_open_id", .text chat.ownerOpenId)] _ :=
    .cons rfl ((htext _).map _) <| .cons rfl ((htext _).map _) <| .cons rfl ((htext _).map _) <|
      .cons rfl ((htext _).map _) .nil
  have hadmits : ChatSummary.record.Admits ["chat_id", "name", "description", "owner_open_id"] :=
    ⟨by decide, rfl⟩
  have hcommutes : ChatSummary.record.fields.Pairwise Field.Commutes := by
    simp only [ChatSummary.record, List.pairwise_cons, List.forall_mem_cons, List.Pairwise.nil,
      List.not_mem_nil, false_implies, implies_true, and_true]
    and_intros
    all_goals exact Field.commutes_of_set fun _ _ _ => rfl
  exact Record.restores_of_assigns hassigns hadmits hcommutes

/-- Every member of a chat is restored from its fields. -/
theorem ChatMember.restores (depth : Nat) (member : ChatMember) :
    ChatMember.record.decoder.Restores (depth + 1) member.json member := by
  have hassigns : ChatMember.record.Assigns depth
      [("open_id", .text member.openId), ("user_id", .text member.userId)] _ :=
    .cons rfl ((Decoder.restores_text depth member.openId).map _)
      (.cons rfl ((Decoder.restores_text depth member.userId).map _) .nil)
  have hadmits : ChatMember.record.Admits ["open_id", "user_id"] := ⟨by decide, rfl⟩
  have hcommutes : ChatMember.record.fields.Pairwise Field.Commutes :=
    List.pairwise_pair.mpr (Field.commutes_of_set fun _ _ _ => rfl)
  exact Record.restores_of_assigns hassigns hadmits hcommutes

/-- Every chat is restored from its fields and its members. -/
theorem ChatInfo.restores (depth : Nat) (chat : ChatInfo) :
    ChatInfo.record.decoder.Restores (depth + 3) chat.json chat := by
  have htext (s : String) := Decoder.restores_text (depth + 2) s
  have hmembers : ChatMember.record.decoder.list.Restores (depth + 2)
      (.array (chat.members.map ChatMember.json)) chat.members :=
    Decoder.restores_list fun member _ => ChatMember.restores depth member
  have hassigns : ChatInfo.record.Assigns (depth + 2)
      [("chat_id", .text chat.chatId), ("name", .text chat.name),
        ("description", .text chat.description), ("owner_open_id", .text chat.ownerOpenId),
        ("members", .array (chat.members.map ChatMember.json))] _ :=
    .cons rfl ((htext _).map _) <| .cons rfl ((htext _).map _) <| .cons rfl ((htext _).map _) <|
      .cons rfl ((htext _).map _) <| .cons rfl (hmembers.map _) .nil
  have hadmits : ChatInfo.record.Admits
      ["chat_id", "name", "description", "owner_open_id", "members"] := ⟨by decide, rfl⟩
  have hcommutes : ChatInfo.record.fields.Pairwise Field.Commutes := by
    simp only [ChatInfo.record, List.pairwise_cons, List.forall_mem_cons, List.Pairwise.nil,
      List.not_mem_nil, false_implies, implies_true, and_true]
    and_intros
    all_goals exact Field.commutes_of_set fun _ _ _ => rfl
  exact Record.restores_of_assigns hassigns hadmits hcommutes

/-! ## Users -/

/-- Every profile is restored from its fields. -/
theorem User.restores (depth : Nat) (user : User) :
    User.record.decoder.Restores (depth + 1) user.json user := by
  have htext (s : String) := Decoder.restores_text depth s
  have hassigns : User.record.Assigns depth
      [("open_id", .text user.openId), ("name", .text user.name),
        ("en_name", .text user.enName), ("email", .text user.email)] _ :=
    .cons rfl ((htext _).map _) <| .cons rfl ((htext _).map _) <| .cons rfl ((htext _).map _) <|
      .cons rfl ((htext _).map _) .nil
  have hadmits : User.record.Admits ["open_id", "name", "en_name", "email"] := ⟨by decide, rfl⟩
  have hcommutes : User.record.fields.Pairwise Field.Commutes := by
    simp only [User.record, List.pairwise_cons, List.forall_mem_cons, List.Pairwise.nil,
      List.not_mem_nil, false_implies, implies_true, and_true]
    and_intros
    all_goals exact Field.commutes_of_set fun _ _ _ => rfl
  exact Record.restores_of_assigns hassigns hadmits hcommutes

end ChatSteward.Platform

namespace ChatSteward

open Event (Envelope)
open Platform (ChatInfo ChatSummary User)

/-- Envelopes, listings of users and of chats, and chats with their members: everything that is
written is read back, although an envelope is written without its empty strings and without an
event that is absent. What a text is read as is written as a text that is read alike. -/
theorem events_and_directory_round_trip :
    Json.RoundTrips Envelope.ofBody Envelope.json ∧
    Json.RoundTrips User.record.decoder.list.decode (fun users => .array (users.map User.json)) ∧
    Json.RoundTrips ChatSummary.record.decoder.list.decode
      (fun chats => .array (chats.map ChatSummary.json)) ∧
    Json.RoundTrips ChatInfo.record.decoder.decode ChatInfo.json ∧
    ∀ envelope : Envelope, ∃ members, envelope.json = .object members ∧
      "type" ∈ members.map (·.1) ∧
      ("challenge" ∈ members.map (·.1) ↔ envelope.challenge ≠ "") ∧
      ("token" ∈ members.map (·.1) ↔ envelope.token ≠ "") ∧
      ("uuid" ∈ members.map (·.1) ↔ envelope.uuid ≠ "") ∧
      ("event" ∈ members.map (·.1) ↔ envelope.event ≠ none) :=
  ⟨Json.roundTrips_of_restored Envelope.ofBody_written, Json.roundTrips_list User.restores,
    Json.roundTrips_list ChatSummary.restores,
    Json.roundTrips_of_restored fun chat => (chat.restores 124).decode, Envelope.written_keys⟩

end ChatSteward
