import ChatSteward.Event.Envelope
import ChatSteward.Proofs.Json.Restoring

/-!
# Envelopes in JSON text

What is written for an envelope is restored as the envelope, whatever its strings are and be there
an event in it or not. Empty strings are left out when an envelope is written, and so is an absent
event; they are what an envelope starts with when it is read.

## Main results

* `Message.restores` — events
* `Envelope.restores`, `Envelope.ofBody_written` — envelopes
* `Envelope.written_keys` — which members of an envelope are written
-/

namespace ChatSteward.Event

open Json

theorem Message.record_commutes : record.fields.Pairwise Field.Commutes := by
  simp only [record, List.pairwise_cons, List.forall_mem_cons, List.Pairwise.nil,
    List.not_mem_nil, false_implies, implies_true, and_true]
  -- no two of the fields set the same part
  and_intros
  all_goals exact Field.commutes_of_set fun _ _ _ => rfl

/-- Every event is restored from its fields. -/
theorem Message.restores (depth : Nat) (message : Message) :
    Message.record.decoder.Restores (depth + 1) message.json message := by
  have htext (s : String) := Decoder.restores_text depth s
  have hassigns : Message.record.Assigns depth
      [("type", .text message.event), ("msg_type", .text message.kind),
        ("chat_type", .text message.chatKind), ("open_chat_id", .text message.openChatId),
        ("chat_id", .text message.chatId), ("open_id", .text message.openId),
        ("user_open_id", .text message.userOpenId), ("open_message_id", .text message.messageId),
        ("text", .text message.text), ("text_without_at_bot", .text message.textWithoutBot),
        ("is_mention", .boolean message.mentionsBot)] _ :=
    .cons rfl ((htext _).map _) <| .cons rfl ((htext _).map _) <| .cons rfl ((htext _).map _) <|
      .cons rfl ((htext _).map _) <| .cons rfl ((htext _).map _) <| .cons rfl ((htext _).map _) <|
      .cons rfl ((htext _).map _) <| .cons rfl ((htext _).map _) <| .cons rfl ((htext _).map _) <|
      .cons rfl ((htext _).map _) <|
      .cons rfl ((Decoder.restores_boolean depth message.mentionsBot).map _) .nil
  have hadmits : Message.record.Admits
      ["type", "msg_type", "chat_type", "open_chat_id", "chat_id", "open_id", "user_open_id",
        "open_message_id", "text", "text_without_at_bot", "is_mention"] :=
    ⟨by decide, rfl⟩
  exact Record.restores_of_assigns hassigns hadmits Message.record_commutes

namespace Envelope

theorem record_commutes : record.fields.Pairwise Field.Commutes := by
  simp only [record, List.pairwise_cons, List.forall_mem_cons, List.Pairwise.nil,
    List.not_mem_nil, false_implies, implies_true, and_true]
  and_intros
  all_goals exact Field.commutes_of_set fun _ _ _ => rfl

/-- No member has to be there. -/
theorem admits_of_sublist {keys : List String}
    (hkeys : keys.Sublist ["type", "challenge", "token", "uuid", "event"]) :
    record.Admits keys := by
  refine Record.admits_of_sublist hkeys (by decide) fun field hmem => ?_
  simp only [record, List.mem_cons, List.not_mem_nil, or_false] at hmem
  rcases hmem with rfl | rfl | rfl | rfl | rfl
  all_goals exact fun habsence => nomatch habsence

/-- What is written for an envelope without its event. -/
def strings (envelope : Envelope) : List (String × Value) :=
  [("type", .text envelope.kindName)] ++
    memberUnless envelope.challenge.isEmpty "challenge" (.text envelope.challenge) ++
    memberUnless envelope.token.isEmpty "token" (.text envelope.token) ++
    memberUnless envelope.uuid.isEmpty "uuid" (.text envelope.uuid)

theorem strings_sublist (envelope : Envelope) :
    (envelope.strings.map (·.1)).Sublist ["type", "challenge", "token", "uuid"] := by
  simp only [strings, List.map_append]
  exact (((List.Sublist.refl ["type"]).append (Record.memberUnless_sublist _ "challenge" _)).append
    (Record.memberUnless_sublist _ "token" _)).append (Record.memberUnless_sublist _ "uuid" _)

/-- The strings make the envelope without its event. -/
theorem exists_assigns_strings (depth : Nat) (envelope : Envelope) :
    ∃ change, record.Assigns depth envelope.strings change ∧
      change record.start = { envelope with event := none } := by
  obtain ⟨kindName, challenge, token, uuid, event⟩ := envelope
  have hkind : record.Assigns depth [("type", .text kindName)] _ :=
    .cons rfl ((Decoder.restores_text depth kindName).map _) .nil
  have hstring (name : String) (set : String → Envelope → Envelope)
      (hfield : record.field? name = some ⟨name, .allowed, Decoder.text.map set⟩) :=
    Record.exists_assigns_unlessEmpty hfield depth
  obtain ⟨first, hassigns, hfirst⟩ := hstring "challenge" _ rfl challenge
  obtain ⟨second, hassigns', hsecond⟩ := hstring "token" _ rfl token
  obtain ⟨third, hassigns'', hthird⟩ := hstring "uuid" _ rfl uuid
  refine ⟨_, ((hkind.append hassigns).append hassigns').append hassigns'', ?_⟩
  -- each string is empty before it is set
  change third (second (first ⟨kindName, "", "", "", none⟩)) = _
  rw [hfirst ⟨kindName, "", "", "", none⟩ rfl, hsecond ⟨kindName, challenge, "", "", none⟩ rfl,
    hthird ⟨kindName, challenge, token, "", none⟩ rfl]

theorem bytes_json_ne_null (message : Message) : message.json.bytes ≠ nullText := by
  rw [Message.json, Value.bytes_object_cons]
  intro hnull
  cases hnull

/-- Every envelope is restored, be its strings empty and its event absent or not. -/
theorem restores (depth : Nat) (envelope : Envelope) :
    record.decoder.Restores (depth + 2) envelope.json envelope := by
  obtain ⟨change, hassigns, hchange⟩ := exists_assigns_strings (depth + 1) envelope
  cases hevent : envelope.event with
  | none =>
    have hkeys := envelope.strings_sublist.trans (List.sublist_append_left _ ["event"])
    have hjson : envelope.json = .object envelope.strings := by
      simp only [json, hevent, List.append_nil, strings]
    have hself : { envelope with event := none } = envelope := by rw [← hevent]
    have hrestores :=
      Record.restores_of_assigns hassigns (admits_of_sublist hkeys) record_commutes
    rwa [hchange, hself, ← hjson] at hrestores
  | some message =>
    have hone : record.Assigns (depth + 1) [("event", message.json)] _ :=
      .cons rfl ((Decoder.restores_optional (message.restores depth)
        (bytes_json_ne_null message)).map _) .nil
    have hkeys := envelope.strings_sublist.append (List.Sublist.refl ["event"])
    have hadmits : record.Admits ((envelope.strings ++ [("event", message.json)]).map (·.1)) := by
      rw [List.map_append]
      exact admits_of_sublist hkeys
    have hjson : envelope.json = .object (envelope.strings ++ [("event", message.json)]) := by
      simp only [json, hevent, strings]
    have hself : { envelope with event := some message } = envelope := by rw [← hevent]
    have hrestores :=
      Record.restores_of_assigns (hassigns.append hone) hadmits record_commutes
    simp only [Function.comp_apply, hchange, id] at hrestores
    rwa [hself, ← hjson] at hrestores

/-- The body that is written for an envelope is read as the envelope. -/
@[simp] theorem ofBody_written (envelope : Envelope) :
    ofBody (Text.encodeUtf8 envelope.json.written) = .ok envelope := by
  have hdecode : record.decoder.decode (Text.encodeUtf8 envelope.json.written) = .ok envelope :=
    (envelope.restores 125).decode
  rw [ofBody, hdecode]

/-- What is left out when an envelope is written: an empty challenge, token or id, and an event
that is absent. An event with nothing in it is written. -/
theorem written_keys (envelope : Envelope) :
    ∃ members, envelope.json = .object members ∧
      "type" ∈ members.map (·.1) ∧
      ("challenge" ∈ members.map (·.1) ↔ envelope.challenge ≠ "") ∧
      ("token" ∈ members.map (·.1) ↔ envelope.token ≠ "") ∧
      ("uuid" ∈ members.map (·.1) ↔ envelope.uuid ≠ "") ∧
      ("event" ∈ members.map (·.1) ↔ envelope.event ≠ none) := by
  refine ⟨_, rfl, ?_⟩
  have hstring (key text name : String) :
      key ∈ (memberUnless text.isEmpty name (.text text)).map (·.1) ↔ key = name ∧ text ≠ "" := by
    by_cases hempty : text = ""
    · simp [memberUnless, hempty]
    · simp [memberUnless, hempty]
  cases envelope.event with
  | none => simp [hstring]
  | some message => simp [hstring]

end Envelope

end ChatSteward.Event
