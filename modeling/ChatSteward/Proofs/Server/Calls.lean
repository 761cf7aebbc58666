import ChatSteward.Proofs.Platform.Posts
import ChatSteward.Server.Rpc
import Mathlib.Data.List.TakeWhile

/-!
# What remote calls lead to

A remote call leads to an operation if its method is one of two names, its first parameter is
decoded as what the method takes, and the chat in it is not empty. In every other case it is
refused, and the fault says for which reason. The parameters that are written for a text or a post
are decoded as these, so a call with them leads to exactly the message that they tell.

## Main definitions

* `IsFirst` — the parameter that counts
* `Gives`, `Withholds` — what it is decoded as, or why it is not
* `pushed` — what parameters with a chat lead to
* `RemoteCall.LeadsTo` — the operation that a call leads to
* `RemoteCall.Refused` — why a call is refused
* `RemoteCall.json`, `TextParameters.json`, `PostParameters.json` — what callers write

## Main results

* `RemoteCall.leadsTo_or_refused` — every call leads to an operation or is refused
* `RemoteCall.LeadsTo.operation`, `RemoteCall.Refused.operation` — what is computed of a call
* `RemoteCall.restores` — a call is read as it is written
* `TextParameters.restores`, `PostParameters.restores` — so are the parameters
-/

namespace ChatSteward.Server

open Json (Cause Decoder Field Record Value)
open Platform (Operation Post)

/-! ## Names -/

/-- A name without a point has no parts. -/
@[simp] theorem splitName_eq_none_iff (name : String) :
    splitName name = none ↔ '.' ∉ name.toList := by
  have hnone : splitName name = none ↔ name.toList.dropWhile (· ≠ '.') = [] := by
    rw [splitName]
    cases name.toList.dropWhile (· ≠ '.') with
    | nil => exact iff_of_true rfl rfl
    | cons => exact iff_of_false (fun h => nomatch h) (fun h => nomatch h)
  rw [hnone, List.dropWhile_eq_nil_iff]
  constructor
  · intro hall hmem
    simpa using hall '.' hmem
  · intro hnot c hmem
    simpa using fun heq : c = '.' => hnot (heq ▸ hmem)

/-- A name is made of its parts with a point between them. -/
theorem eq_of_splitName {name service method : String}
    (hsplit : splitName name = some (service, method)) : name = service ++ "." ++ method := by
  rw [splitName] at hsplit
  split at hsplit
  · cases hsplit
  case h_2 c tail hdrop =>
    cases hsplit
    have hpoint : c = '.' := by
      have hhead := List.head?_dropWhile_not (· ≠ '.') name.toList
      rw [hdrop] at hhead
      simpa using hhead
    subst hpoint
    apply String.toList_inj.mp
    have hparts : name.toList.takeWhile (· ≠ '.') ++ name.toList.dropWhile (· ≠ '.') =
        name.toList :=
      List.takeWhile_append_dropWhile
    rw [hdrop] at hparts
    simpa using hparts.symm

/-! ## Parameters -/

/-- The parameter that counts is the first one of a list, or an object that stands alone. -/
inductive IsFirst : Value → Value → Prop where
  | listed (first : Value) (more : List Value) : IsFirst (.array (first :: more)) first
  | alone (members : List (String × Value)) : IsFirst (.object members) (.object members)

@[simp] theorem firstParameter_eq_ok_iff {parameters first : Value} :
    firstParameter parameters = .ok first ↔ IsFirst parameters first := by
  constructor
  · intro hfirst
    unfold firstParameter at hfirst
    split at hfirst
    · cases hfirst
      exact .listed _ _
    · cases hfirst
      exact .alone _
    · cases hfirst
  · intro hfirst
    cases hfirst <;> rfl

@[simp] theorem firstParameter_eq_error_iff {parameters : Value} {fault : RemoteFault} :
    firstParameter parameters = .error fault ↔
      (∀ first, ¬ IsFirst parameters first) ∧ fault = .invalidParameters parameters.written := by
  constructor
  · intro hfirst
    refine ⟨fun first hfound => ?_, ?_⟩
    · rw [firstParameter_eq_ok_iff.mpr hfound] at hfirst
      cases hfirst
    · unfold firstParameter at hfirst
      split at hfirst
      · cases hfirst
      · cases hfirst
      · exact (Except.error.inj hfirst).symm
  · rintro ⟨hnone, rfl⟩
    unfold firstParameter
    split
    · exact absurd (.listed _ _) (hnone _)
    · exact absurd (.alone _) (hnone _)
    · rfl

section

variable {σ : Type}

/-- Whether the parameter that counts is decoded as a record. -/
def Gives (record : Record σ) (parameters : Value) (decoded : σ) : Prop :=
  ∃ first, IsFirst parameters first ∧ record.decoder.ofValue first = .ok decoded

/-- Why parameters are not decoded: none of them counts, or the one that does is of another
type. -/
inductive Withholds (record : Record σ) (parameters : Value) : RemoteFault → Prop where
  | none (hnone : ∀ first, ¬ IsFirst parameters first) :
      Withholds record parameters (.invalidParameters parameters.written)
  | mistyped {first : Value} {cause : Cause} (hfirst : IsFirst parameters first)
      (hdecode : record.decoder.ofValue first = .error cause) :
      Withholds record parameters (.invalidParameters cause.description)

/-- Parameters are decoded, or there is a reason why not. -/
theorem gives_or_withholds (record : Record σ) (parameters : Value) :
    (∃ decoded, Gives record parameters decoded) ∨ ∃ fault, Withholds record parameters fault := by
  cases hfirst : firstParameter parameters with
  | error fault => exact .inr ⟨_, .none (firstParameter_eq_error_iff.mp hfirst).1⟩
  | ok first =>
    have hfound := firstParameter_eq_ok_iff.mp hfirst
    cases hdecode : record.decoder.ofValue first with
    | error cause => exact .inr ⟨_, .mistyped hfound hdecode⟩
    | ok decoded => exact .inl ⟨decoded, first, hfound, hdecode⟩

/-! ### Parameters with a chat -/

/-- What parameters with a chat lead to, both for texts and for posts. -/
def pushed (record : Record σ) (chat : σ → String) (push : σ → Operation) (parameters : Value) :
    Except RemoteFault Operation :=
  match decodeParameters record parameters with
  | .error fault => .error fault
  | .ok decoded => if (chat decoded).isEmpty then .error .missingChat else .ok (push decoded)

variable {record : Record σ} {chat : σ → String} {push : σ → Operation} {parameters : Value}

theorem pushed_of_gives {decoded : σ} (hgives : Gives record parameters decoded) :
    pushed record chat push parameters =
      if chat decoded = "" then .error .missingChat else .ok (push decoded) := by
  obtain ⟨first, hfirst, hdecode⟩ := hgives
  have hdecoded : decodeParameters record parameters = .ok decoded := by
    rw [decodeParameters, firstParameter_eq_ok_iff.mpr hfirst]
    simp only [hdecode]
  simp only [pushed, hdecoded, String.isEmpty_iff]

theorem pushed_of_withholds {fault : RemoteFault} (hwithholds : Withholds record parameters fault) :
    pushed record chat push parameters = .error fault := by
  have hfault : decodeParameters record parameters = .error fault := by
    rw [decodeParameters]
    cases hwithholds with
    | none hnone => rw [firstParameter_eq_error_iff.mpr ⟨hnone, rfl⟩]
    | mistyped hfirst hdecode =>
      rw [firstParameter_eq_ok_iff.mpr hfirst]
      simp only [hdecode]
  simp only [pushed, hfault]

end

/-! ## Operations -/

namespace RemoteCall

/-- The operation that a call leads to. -/
inductive LeadsTo (call : RemoteCall) : Operation → Prop where
  | text {parameters : TextParameters} (hmethod : call.method = "Lark.SendMessage")
      (hgives : Gives TextParameters.record call.parameters parameters)
      (hchat : parameters.chat ≠ "") :
      LeadsTo call (.sendText parameters.chat parameters.content)
  | post {parameters : PostParameters} (hmethod : call.method = "Lark.SendPost")
      (hgives : Gives PostParameters.record call.parameters parameters)
      (hchat : parameters.chat ≠ "") :
      LeadsTo call (.sendPost parameters.chat parameters.post)

/-- Why a call leads to no operation. -/
inductive Refused (call : RemoteCall) : RemoteFault → Prop where
  | illFormed (hpoint : '.' ∉ call.method.toList) : Refused call (.illFormed call.method)
  | unknownMethod (hpoint : '.' ∈ call.method.toList) (htext : call.method ≠ "Lark.SendMessage")
      (hpost : call.method ≠ "Lark.SendPost") : Refused call (.unknownMethod call.method)
  | textParameters {fault : RemoteFault} (hmethod : call.method = "Lark.SendMessage")
      (hwithholds : Withholds TextParameters.record call.parameters fault) : Refused call fault
  | postParameters {fault : RemoteFault} (hmethod : call.method = "Lark.SendPost")
      (hwithholds : Withholds PostParameters.record call.parameters fault) : Refused call fault
  | textChat {parameters : TextParameters} (hmethod : call.method = "Lark.SendMessage")
      (hgives : Gives TextParameters.record call.parameters parameters)
      (hchat : parameters.chat = "") : Refused call .missingChat
  | postChat {parameters : PostParameters} (hmethod : call.method = "Lark.SendPost")
      (hgives : Gives PostParameters.record call.parameters parameters)
      (hchat : parameters.chat = "") : Refused call .missingChat

variable {call : RemoteCall}

theorem operation_of_text (hmethod : call.method = "Lark.SendMessage") :
    call.operation = pushed TextParameters.record TextParameters.chat
      (fun parameters => .sendText parameters.chat parameters.content) call.parameters := by
  have hsplit : splitName call.method = some ("Lark", "SendMessage") := by
    rw [hmethod]
    decide
  have hcall : call.operation = call.sendText := by
    rw [operation, hsplit]
    rfl
  rw [hcall, sendText, pushed]
  cases decodeParameters TextParameters.record call.parameters with
  | error | ok => rfl

theorem operation_of_post (hmethod : call.method = "Lark.SendPost") :
    call.operation = pushed PostParameters.record PostParameters.chat
      (fun parameters => .sendPost parameters.chat parameters.post) call.parameters := by
  have hsplit : splitName call.method = some ("Lark", "SendPost") := by
    rw [hmethod]
    decide
  have hcall : call.operation = call.sendPost := by
    rw [operation, hsplit]
    rfl
  rw [hcall, sendPost, pushed]
  cases decodeParameters PostParameters.record call.parameters with
  | error | ok => rfl

/-- Any other method is refused by its name. -/
theorem operation_of_other (htext : call.method ≠ "Lark.SendMessage")
    (hpost : call.method ≠ "Lark.SendPost") :
    ∃ fault, call.operation = .error fault ∧ call.Refused fault := by
  rw [operation]
  -- the name has no parts, or another service, or another method
  cases hsplit : splitName call.method with
  | none => exact ⟨_, rfl, .illFormed ((splitName_eq_none_iff _).mp hsplit)⟩
  | some parts =>
    obtain ⟨service, method⟩ := parts
    have hname := eq_of_splitName hsplit
    have hpoint : '.' ∈ call.method.toList := by
      rw [hname]
      simp
    refine ⟨.unknownMethod call.method, ?_, .unknownMethod hpoint htext hpost⟩
    by_cases hservice : service = "Lark"
    · subst hservice
      have hfirst : method ≠ "SendMessage" := by
        rintro rfl
        exact htext hname
      have hsecond : method ≠ "SendPost" := by
        rintro rfl
        exact hpost hname
      simp only [ne_eq, not_true_eq_false, if_false, hfirst, hsecond]
    · simp only [ne_eq, hservice, not_false_eq_true, if_true]

/-- What a call leads to is its operation. -/
theorem LeadsTo.operation {operation : Operation} (hleads : call.LeadsTo operation) :
    call.operation = .ok operation := by
  cases hleads with
  | text hmethod hgives hchat =>
    rw [operation_of_text hmethod, pushed_of_gives hgives, if_neg hchat]
  | post hmethod hgives hchat =>
    rw [operation_of_post hmethod, pushed_of_gives hgives, if_neg hchat]

/-- Why a call is refused is its fault. -/
theorem Refused.operation {fault : RemoteFault} (hrefused : call.Refused fault) :
    call.operation = .error fault := by
  cases hrefused with
  -- two reasons are in the name, the others in the parameters
  | illFormed hpoint => rw [RemoteCall.operation, (splitName_eq_none_iff _).mpr hpoint]
  | unknownMethod hpoint htext hpost =>
    obtain ⟨fault, hfault, hother⟩ := operation_of_other htext hpost
    cases hother with
    | illFormed hnone => exact absurd hpoint hnone
    | unknownMethod => exact hfault
    | textParameters hmethod | textChat hmethod => exact absurd hmethod htext
    | postParameters hmethod | postChat hmethod => exact absurd hmethod hpost
  | textParameters hmethod hwithholds =>
    rw [operation_of_text hmethod, pushed_of_withholds hwithholds]
  | postParameters hmethod hwithholds =>
    rw [operation_of_post hmethod, pushed_of_withholds hwithholds]
  | textChat hmethod hgives hchat =>
    rw [operation_of_text hmethod, pushed_of_gives hgives, if_pos hchat]
  | postChat hmethod hgives hchat =>
    rw [operation_of_post hmethod, pushed_of_gives hgives, if_pos hchat]

theorem LeadsTo.unique {operation other : Operation} (hleads : call.LeadsTo operation)
    (hother : call.LeadsTo other) : operation = other :=
  Except.ok.inj (hleads.operation.symm.trans hother.operation)

theorem Refused.unique {fault other : RemoteFault} (hrefused : call.Refused fault)
    (hother : call.Refused other) : fault = other :=
  Except.error.inj (hrefused.operation.symm.trans hother.operation)

/-- No call both leads to an operation and is refused. -/
theorem LeadsTo.not_refused {operation : Operation} (hleads : call.LeadsTo operation)
    (fault : RemoteFault) : ¬ call.Refused fault := by
  intro hrefused
  have hboth := hleads.operation.symm.trans hrefused.operation
  cases hboth

/-- Every call leads to an operation or is refused. -/
theorem leadsTo_or_refused (call : RemoteCall) :
    (∃ operation, call.LeadsTo operation) ∨ ∃ fault, call.Refused fault := by
  by_cases htext : call.method = "Lark.SendMessage"
  · rcases gives_or_withholds TextParameters.record call.parameters with
      ⟨parameters, hgives⟩ | ⟨fault, hwithholds⟩
    · by_cases hchat : parameters.chat = ""
      · exact .inr ⟨_, .textChat htext hgives hchat⟩
      · exact .inl ⟨_, .text htext hgives hchat⟩
    · exact .inr ⟨fault, .textParameters htext hwithholds⟩
  by_cases hpost : call.method = "Lark.SendPost"
  · rcases gives_or_withholds PostParameters.record call.parameters with
      ⟨parameters, hgives⟩ | ⟨fault, hwithholds⟩
    · by_cases hchat : parameters.chat = ""
      · exact .inr ⟨_, .postChat hpost hgives hchat⟩
      · exact .inl ⟨_, .post hpost hgives hchat⟩
    · exact .inr ⟨fault, .postParameters hpost hwithholds⟩
  · obtain ⟨fault, -, hrefused⟩ := operation_of_other htext hpost
    exact .inr ⟨fault, hrefused⟩

/-- Operations that calls lead to are requests to the platform, and no listings. -/
theorem LeadsTo.talks {operation : Operation} (hleads : call.LeadsTo operation) :
    operation.immediate? = none ∧ operation ≠ .listChats := by
  cases hleads with
  | text | post => exact ⟨rfl, fun h => nomatch h⟩

end RemoteCall

/-! ## What callers write -/

/-- What callers write for a call. -/
def RemoteCall.json (call : RemoteCall) : Value :=
  .object [("method", .text call.method), ("params", call.parameters), ("id", call.id)]

/-- What callers write to send a text. -/
def TextParameters.json (parameters : TextParameters) : Value :=
  .object [("chat_id", .text parameters.chat), ("content", .text parameters.content)]

/-- What callers write to send a post. -/
def PostParameters.json (parameters : PostParameters) : Value :=
  .object [("chat_id", .text parameters.chat), ("post", parameters.post.json)]

/-- A call is read as it is written, with its parameters and its id sorted. -/
theorem RemoteCall.restores {depth : Nat} (method : String) {parameters id : Value}
    (hparameters : parameters.IsWritable depth) (hid : id.IsWritable depth) :
    RemoteCall.record.decoder.Restores (depth + 1) (RemoteCall.json ⟨method, parameters, id⟩)
      ⟨method, parameters.sorted, id.sorted⟩ := by
  have hassigns : RemoteCall.record.Assigns depth
      [("method", .text method), ("params", parameters), ("id", id)] _ :=
    .cons rfl ((Decoder.restores_text depth method).map _)
      (.cons rfl ((Decoder.restores_value hparameters).map _)
        (.cons rfl ((Decoder.restores_value hid).map _) .nil))
  have hadmits : RemoteCall.record.Admits ["method", "params", "id"] := ⟨by decide, rfl⟩
  have hcommutes : RemoteCall.record.fields.Pairwise Field.Commutes := by
    refine .cons ?_ (.cons ?_ (List.pairwise_singleton _ _))
    · rw [List.forall_mem_cons, List.forall_mem_singleton]
      exact ⟨Field.commutes_of_set fun _ _ _ => rfl, Field.commutes_of_set fun _ _ _ => rfl⟩
    · rw [List.forall_mem_singleton]
      exact Field.commutes_of_set fun _ _ _ => rfl
  exact Record.restores_of_assigns hassigns hadmits hcommutes

/-- The parameters of a text are read as they are written. -/
theorem TextParameters.restores (depth : Nat) (parameters : TextParameters) :
    TextParameters.record.decoder.Restores (depth + 1) parameters.json parameters := by
  have hassigns : TextParameters.record.Assigns depth
      [("chat_id", .text parameters.chat), ("content", .text parameters.content)] _ :=
    .cons rfl ((Decoder.restores_text depth parameters.chat).map _)
      (.cons rfl ((Decoder.restores_text depth parameters.content).map _) .nil)
  have hadmits : TextParameters.record.Admits ["chat_id", "content"] := ⟨by decide, rfl⟩
  have hcommutes : TextParameters.record.fields.Pairwise Field.Commutes :=
    List.pairwise_pair.mpr (Field.commutes_of_set fun _ _ _ => rfl)
  exact Record.restores_of_assigns hassigns hadmits hcommutes

/-- The parameters of a post are read as they are written. -/
theorem PostParameters.restores (depth : Nat) (parameters : PostParameters) :
    PostParameters.record.decoder.Restores (depth + 6) parameters.json parameters := by
  have hassigns : PostParameters.record.Assigns (depth + 5)
      [("chat_id", .text parameters.chat), ("post", parameters.post.json)] _ :=
    .cons rfl ((Decoder.restores_text (depth + 5) parameters.chat).map _)
      (.cons rfl ((parameters.post.restores depth).map _) .nil)
  have hadmits : PostParameters.record.Admits ["chat_id", "post"] := ⟨by decide, rfl⟩
  have hcommutes : PostParameters.record.fields.Pairwise Field.Commutes :=
    List.pairwise_pair.mpr (Field.commutes_of_set fun _ _ _ => rfl)
  exact Record.restores_of_assigns hassigns hadmits hcommutes

end ChatSteward.Server
