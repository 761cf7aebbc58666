import ChatSteward.Platform.Reply
import ChatSteward.Proofs.Json.Membership

/-!
# Envelopes from objects

The members of an object decide what envelope it is: the code, the text and the data are each
taken from the member of this name, or are `0`, empty and missing where there is none. Other
members do not matter, and the order of the members does not either.

For an envelope to be decoded, whatever data it holds must be data of the endpoint. But if it is
decoded, it has the code and the text of the members, whatever the endpoint.

## Main definitions

* `Reply.IsEnvelope` — the envelope that the members of an object make up

## Main results

* `Reply.decode_of_isEnvelope` — an object is decoded as the envelope that its members make up
* `Reply.code_of_decode`, `Reply.text_of_decode` — what is decoded has the code and the text of
  the members
-/

namespace ChatSteward.Platform.Reply

open Json

variable {α : Type} {data : Decoder α} {depth : Nat} {members : List (String × List UInt8)}
  {change : Reply α → Reply α}

/-! ## Fields -/

theorem field?_code : (record data).field? "code" =
    some (.defaulted "code" Decoder.int64 fun code reply => { reply with code }) := rfl

theorem field?_text : (record data).field? "msg" =
    some (.defaulted "msg" Decoder.text fun text reply => { reply with text }) := rfl

theorem field?_data : (record data).field? "data" =
    some (.elective "data" data.optional fun data reply => { reply with data }) := rfl

/-- A condition on the fields other than one is a condition on two. -/
theorem forall_mem_fields {admits : Json.Field (Reply α) → Prop} {name : String}
    (hcode : "code" ≠ name →
      admits (.defaulted "code" Decoder.int64 fun code reply => { reply with code }))
    (htext : "msg" ≠ name →
      admits (.defaulted "msg" Decoder.text fun text reply => { reply with text }))
    (hdata : "data" ≠ name →
      admits (.elective "data" data.optional fun data reply => { reply with data })) :
    ∀ field ∈ (record data).fields, field.name ≠ name → admits field := by
  intro field hmem hne
  simp only [record, List.mem_cons, List.not_mem_nil, or_false] at hmem
  rcases hmem with rfl | rfl | rfl
  · exact hcode hne
  · exact htext hne
  · exact hdata hne

/-! ## What members make up -/

/-- The envelope that the members of an object make up. -/
structure IsEnvelope (data : Decoder α) (depth : Nat) (members : List (String × List UInt8))
    (reply : Reply α) : Prop where
  code : IsPart (Decoder.int64.reader depth) members "code" 0 reply.code
  text : IsPart (Decoder.text.reader depth) members "msg" "" reply.text
  data : IsPart (data.optional.reader depth) members "data" none reply.data

theorem code_of_changes
    (hchanges : (record data).Changes (fun field => IsReadAs (field.decoder.reader depth)) members
      change) (hnodup : (members.map (·.1)).Nodup) {code : Int}
    (hpart : IsPart (Decoder.int64.reader depth) members "code" 0 code) :
    (change (record data).start).code = code :=
  hchanges.get_of_isPart Reply.code hnodup field?_code rfl (fun _ _ => rfl)
    (forall_mem_fields (fun hne => absurd rfl hne)
      (fun _ => Field.leaves_of_set fun _ _ => rfl)
      (fun _ => Field.leaves_of_set fun _ _ => rfl)) hpart

theorem text_of_changes
    (hchanges : (record data).Changes (fun field => IsReadAs (field.decoder.reader depth)) members
      change) (hnodup : (members.map (·.1)).Nodup) {text : String}
    (hpart : IsPart (Decoder.text.reader depth) members "msg" "" text) :
    (change (record data).start).text = text :=
  hchanges.get_of_isPart Reply.text hnodup field?_text rfl (fun _ _ => rfl)
    (forall_mem_fields (fun _ => Field.leaves_of_set fun _ _ => rfl)
      (fun hne => absurd rfl hne)
      (fun _ => Field.leaves_of_set fun _ _ => rfl)) hpart

theorem data_of_changes
    (hchanges : (record data).Changes (fun field => IsReadAs (field.decoder.reader depth)) members
      change) (hnodup : (members.map (·.1)).Nodup) {content : Option α}
    (hpart : IsPart (data.optional.reader depth) members "data" none content) :
    (change (record data).start).data = content :=
  hchanges.get_of_isPart Reply.data hnodup field?_data rfl (fun _ _ => rfl)
    (forall_mem_fields (fun _ => Field.leaves_of_set fun _ _ => rfl)
      (fun _ => Field.leaves_of_set fun _ _ => rfl)
      (fun hne => absurd rfl hne)) hpart

/-- The members of an envelope are read one by one. -/
theorem IsEnvelope.exists_changes {reply : Reply α}
    (henvelope : IsEnvelope data depth members reply) (hnodup : (members.map (·.1)).Nodup) :
    ∃ change, (record data).Changes (fun field => Reads (field.decoder.reader depth)) members
      change := by
  apply Record.exists_changes
  rintro ⟨key, value⟩ hmem field hfield
  obtain ⟨hfields, rfl⟩ := Record.mem_of_field? hfield
  simp only [record, List.mem_cons, List.not_mem_nil, or_false] at hfields
  rcases hfields with rfl | rfl | rfl
  · exact ⟨_, (henvelope.code.reads hnodup hmem).map _⟩
  · exact ⟨_, (henvelope.text.reads hnodup hmem).map _⟩
  · exact ⟨_, (henvelope.data.reads hnodup hmem).map _⟩

/-- An object is decoded as the envelope that its members make up. -/
theorem decode_of_isEnvelope {text padded : List UInt8} (hobject : IsObject text members)
    (hpadded : Padded text padded) (hnodup : (members.map (·.1)).Nodup) {reply : Reply α}
    (henvelope : IsEnvelope data (Decoder.greatestDepth - 1) members reply) :
    (record data).decoder.decode padded = .ok reply := by
  obtain ⟨change, hchanges⟩ := henvelope.exists_changes hnodup
  -- an envelope has no field that has to be there
  have hrequired : ∀ field ∈ (record data).fields, field.absence = .refused →
      field.name ∈ members.map (·.1) := by
    intro field hmem habsence
    simp only [record, List.mem_cons, List.not_mem_nil, or_false] at hmem
    rcases hmem with rfl | rfl | rfl
    all_goals cases habsence
  rw [Record.decode_of_changes hobject hpadded hchanges hnodup hrequired]
  have hread := hchanges.mono fun _ _ _ => Reads.isReadAs
  have hcode := code_of_changes hread hnodup henvelope.code
  have htext := text_of_changes hread hnodup henvelope.text
  have hdata := data_of_changes hread hnodup henvelope.data
  -- the three parts are all there is to an envelope
  generalize change (record data).start = changed at hcode htext hdata ⊢
  obtain ⟨code, text, content⟩ := changed
  subst hcode htext hdata
  rfl

/-! ## What is decoded -/

theorem isExact_record (hexact : data.IsExact) : (record data).IsExact := by
  intro field hmem
  simp only [record, List.mem_cons, List.not_mem_nil, or_false] at hmem
  rcases hmem with rfl | rfl | rfl
  · exact Decoder.isExact_int64.map _
  · exact Decoder.isExact_text.map _
  · exact (Decoder.isExact_optional hexact).map _

/-- An object that is decoded as an envelope is one with the code of the members. -/
theorem code_of_decode (hexact : data.IsExact) {text padded : List UInt8}
    (hobject : IsObject text members) (hpadded : Padded text padded)
    (hnodup : (members.map (·.1)).Nodup) {code : Int}
    (hpart : IsPart (Decoder.int64.reader (Decoder.greatestDepth - 1)) members "code" 0 code)
    {reply : Reply α} (hdecode : (record data).decoder.decode padded = .ok reply) :
    reply.code = code := by
  obtain ⟨change, hchanges, rfl⟩ :=
    Record.exists_changes_of_decode (isExact_record hexact) hobject hpadded hdecode
  exact code_of_changes hchanges hnodup hpart

/-- An object that is decoded as an envelope is one with the text of the members. -/
theorem text_of_decode (hexact : data.IsExact) {bytes padded : List UInt8}
    (hobject : IsObject bytes members) (hpadded : Padded bytes padded)
    (hnodup : (members.map (·.1)).Nodup) {text : String}
    (hpart : IsPart (Decoder.text.reader (Decoder.greatestDepth - 1)) members "msg" "" text)
    {reply : Reply α} (hdecode : (record data).decoder.decode padded = .ok reply) :
    reply.text = text := by
  obtain ⟨change, hchanges, rfl⟩ :=
    Record.exists_changes_of_decode (isExact_record hexact) hobject hpadded hdecode
  exact text_of_changes hchanges hnodup hpart

end ChatSteward.Platform.Reply
