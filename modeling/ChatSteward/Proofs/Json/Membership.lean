import ChatSteward.Proofs.Json.Exactness
import ChatSteward.Proofs.Json.Scanning

/-!
# Records from objects

A record is decoded from an object member by member: a member whose key is the name of a field
changes the record, and any other is passed over. What comes out is the record that all the
changes make of the default, in the order of the members.

This is shown in both directions. If every member of a field is read, whatever follows it, then
the object is. If the object is read and the fields are read exactly, then every member of a field
has been read, at its own place.

## Main definitions

* `Record.Changes` — what the members of an object change
* `IsReadAs` — a text that a reader has taken for a value at some place
* `IsPart` — a value that a member is read as, or a default

## Main results

* `Record.decode_of_changes` — an object whose members are read is decoded
* `Record.exists_changes_of_decode` — an object that is decoded has had its members read
* `Record.Changes.get_of_isPart` — what one member is responsible for
-/

namespace ChatSteward.Json

/-- Whether a reader has taken a text for a value at some place. -/
def IsReadAs {α : Type} (reader : Reader α) (text : List UInt8) (value : α) : Prop :=
  ∃ before rest, Blanks before ∧ Ends rest ∧
    reader.read (before ++ (text ++ rest)) = .ok (value, rest)

theorem Reads.isReadAs {α : Type} {reader : Reader α} {text : List UInt8} {value : α}
    (hreads : Reads reader text value) : IsReadAs reader text value :=
  ⟨[], [], blanks_nil, ends_nil, hreads [] [] blanks_nil ends_nil⟩

/-- A text that is read alike at every place is not read otherwise at any. -/
theorem Reads.eq_of_isReadAs {α : Type} {reader : Reader α} {text : List UInt8} {value other : α}
    (hreads : Reads reader text value) (hother : IsReadAs reader text other) : other = value := by
  obtain ⟨before, rest, hbefore, hends, hread⟩ := hother
  rw [hreads before rest hbefore hends] at hread
  exact (Prod.mk.inj (Except.ok.inj hread)).1.symm

theorem IsReadAs.exists_of_map {α β : Type} {reader : Reader α} {f : α → β} {text : List UInt8}
    {result : β} (hread : IsReadAs (reader.map f) text result) :
    ∃ value, IsReadAs reader text value ∧ f value = result := by
  obtain ⟨before, rest, hbefore, hends, hread⟩ := hread
  simp only [Reader.map] at hread
  split at hread
  case h_1 value rest' hvalue =>
    cases hread
    exact ⟨value, ⟨before, rest, hbefore, hends, hvalue⟩, rfl⟩
  case h_2 => cases hread

/-! ## Parts of records -/

/-- Whether a field leaves a part of the record as it is. -/
def Field.Leaves {σ α : Type} (field : Field σ) (get : σ → α) : Prop :=
  ∀ depth text set, IsReadAs (field.decoder.reader depth) text set →
    ∀ state, get (set state) = get state

/-- A field that sets another part leaves a part as it is. -/
theorem Field.leaves_of_set {σ α β : Type} {name : String} {absence : Absence}
    {decoder : Decoder β} {set : β → σ → σ} {get : σ → α}
    (hset : ∀ value state, get (set value state) = get state) :
    (⟨name, absence, decoder.map set⟩ : Field σ).Leaves get := by
  intro depth text change hread state
  obtain ⟨value, -, rfl⟩ := IsReadAs.exists_of_map hread
  exact hset value state

/-- Whether a part of a record is what a reader makes of the member of a name, or a default when
there is no such member. -/
def IsPart {α : Type} (reader : Reader α) (members : List (String × List UInt8)) (name : String)
    (default value : α) : Prop :=
  (name ∉ members.map (·.1) ∧ value = default) ∨
    ∃ text, (name, text) ∈ members ∧ Reads reader text value

/-- In an object without repeated members a name has one value. -/
theorem eq_of_mem_of_nodup {members : List (String × List UInt8)}
    (hnodup : (members.map (·.1)).Nodup) {name : String} {text other : List UInt8}
    (hmem : (name, text) ∈ members) (hother : (name, other) ∈ members) : other = text := by
  induction members with
  | nil => cases hmem
  | cons member members ih =>
    rw [List.map_cons, List.nodup_cons] at hnodup
    have habsent {value : List UInt8} (hvalue : (name, value) ∈ members) : member.1 ≠ name := by
      rintro rfl
      exact hnodup.1 (List.mem_map.mpr ⟨_, hvalue, rfl⟩)
    rcases List.mem_cons.mp hmem with rfl | hlater
    · rcases List.mem_cons.mp hother with heq | hlater
      · exact (Prod.mk.inj heq).2
      · exact absurd rfl (habsent hlater)
    · rcases List.mem_cons.mp hother with rfl | hother
      · exact absurd rfl (habsent hlater)
      · exact ih hnodup.2 hlater hother

/-- A member of the name of a part is read as the part. -/
theorem IsPart.reads {α : Type} {reader : Reader α} {members : List (String × List UInt8)}
    {name : String} {default value : α} (hpart : IsPart reader members name default value)
    (hnodup : (members.map (·.1)).Nodup) {text : List UInt8} (hmem : (name, text) ∈ members) :
    Reads reader text value := by
  rcases hpart with ⟨hnot, -⟩ | ⟨text', hmem', hreads⟩
  · exact absurd (List.mem_map.mpr ⟨_, hmem, rfl⟩) hnot
  · rwa [eq_of_mem_of_nodup hnodup hmem' hmem]

/-! ## Keys -/

theorem readKey_of_spells {content : List UInt8} {key : String}
    (hspells : Spells content key.toList) (rest : List UInt8) :
    readKey (content ++ rest) = .ok (some key, rest) := by
  rw [readKey, readText_of_spells hspells, String.ofList_toList]

/-- The first key of an object is found with what follows its quote. -/
theorem firstKey_label {content label : List UInt8} {key : String}
    (hspells : Spells content key.toList) (hlabel : IsLabel content label) :
    ∃ after, Blanks after ∧ ∀ rest,
      firstKey (label ++ rest) = .ok (some key, after ++ Byte.colon :: rest) := by
  obtain ⟨before, after, hbefore, hafter, rfl⟩ := hlabel
  refine ⟨after, hafter, fun rest => ?_⟩
  simp only [List.append_assoc, List.cons_append, List.nil_append]
  rw [firstKey, dropBlanks_blanks_cons hbefore (by decide)]
  exact readKey_of_spells hspells _

/-- Behind a comma the next key is found as the first one is. -/
theorem nextKey_comma {blanks bytes tail : List UInt8} (hblanks : Blanks blanks)
    (hfront : dropBlanks bytes = Byte.quote :: tail) :
    nextKey (blanks ++ Byte.comma :: bytes) = firstKey bytes := by
  have hcomma : dropBlanks (blanks ++ Byte.comma :: bytes) = Byte.comma :: bytes :=
    dropBlanks_blanks_cons hblanks (by decide) _
  unfold nextKey
  rw [hcomma]
  split
  case h_1 hnil => cases hnil
  case h_2 hclosing => exact absurd (List.cons.inj hclosing).1 (by decide)
  case h_3 rest heq =>
    obtain rfl : bytes = rest := (List.cons.inj heq).2
    rw [firstKey, hfront]
    rfl
  case h_4 hother => exact absurd rfl (hother _)

theorem firstKey_closing {blanks : List UInt8} (hblanks : Blanks blanks) (rest : List UInt8) :
    firstKey (blanks ++ Byte.closeBrace :: rest) = .ok (none, Byte.closeBrace :: rest) := by
  rw [firstKey, dropBlanks_blanks_cons hblanks (by decide)]
  rfl

theorem nextKey_closing {blanks : List UInt8} (hblanks : Blanks blanks) (rest : List UInt8) :
    nextKey (blanks ++ Byte.closeBrace :: rest) = .ok (none, Byte.closeBrace :: rest) := by
  rw [nextKey, dropBlanks_blanks_cons hblanks (by decide)]
  rfl

/-! ## Members -/

/-- Once a member has been taken, the brace that follows ends the object. -/
theorem readMembersFrom_closing {σ : Type} {step : MemberStep σ} {state state' : σ} {key : String}
    {bytes blanks rest : List UInt8} (hblanks : Blanks blanks)
    (htake : step.take state key bytes = .ok (state', blanks ++ Byte.closeBrace :: rest)) :
    readMembersFrom step state key bytes = .ok (state', Byte.closeBrace :: rest) := by
  rw [readMembersFrom]
  split
  case h_1 herror =>
    rw [htake] at herror
    cases herror
  case h_2 hok =>
    rw [htake] at hok
    cases hok
    split
    case h_1 hnext => rw [nextKey_closing hblanks] at hnext; cases hnext
    case h_2 hnext => rw [nextKey_closing hblanks] at hnext; cases hnext; rfl
    case h_3 hnext => rw [nextKey_closing hblanks] at hnext; cases hnext

/-- Members can only be read behind one that is taken. -/
theorem exists_take_of_readMembersFrom {σ : Type} {step : MemberStep σ} {state : σ}
    {result : σ × List UInt8} {key : String} {bytes : List UInt8}
    (hread : readMembersFrom step state key bytes = .ok result) :
    ∃ state' rest, step.take state key bytes = .ok (state', rest) := by
  cases htake : step.take state key bytes with
  | ok taken => exact ⟨taken.1, taken.2, rfl⟩
  | error stop =>
    rw [readMembersFrom] at hread
    split at hread
    case h_1 => cases hread
    case h_2 hok =>
      rw [htake] at hok
      cases hok

/-- Once a member has been taken, the comma that follows leads to the others. -/
theorem readMembersFrom_comma {σ : Type} {step : MemberStep σ} {state state' : σ} {key : String}
    {bytes blanks rest tail : List UInt8} (hblanks : Blanks blanks)
    (hfront : dropBlanks rest = Byte.quote :: tail)
    (htake : step.take state key bytes = .ok (state', blanks ++ Byte.comma :: rest)) :
    readMembersFrom step state key bytes = readMembers step state' rest := by
  rw [readMembersFrom, readMembers]
  split
  case h_1 herror =>
    rw [htake] at herror
    cases herror
  case h_2 hok =>
    rw [htake] at hok
    cases hok
    have hnext := nextKey_comma hblanks hfront
    rw [← hnext]
    split
    case h_1 hkey => rw [hkey]
    case h_2 hkey => rw [hkey]
    case h_3 hkey => rw [hkey]

theorem IsMembers.front {text : List UInt8} {members : List (String × List UInt8)}
    (hmembers : IsMembers text members) (rest : List UInt8) :
    ∃ tail, dropBlanks (text ++ rest) = Byte.quote :: tail := by
  cases hmembers with
  | last _ hlabel _ _ =>
    rw [List.append_assoc]
    exact hlabel.front _
  | more _ hlabel _ _ _ =>
    rw [List.append_assoc]
    exact hlabel.front _

/-! ## Members that are taken -/

/-- Whether a step takes a value behind a key, with any blanks around them. -/
def MemberStep.Takes {σ : Type} (step : MemberStep σ) (state : σ) (key : String)
    (value : List UInt8) (state' : σ) : Prop :=
  ∀ blanks padded b rest, Blanks blanks → Padded value padded → Ends (b :: rest) →
    ∃ after, Blanks after ∧
      step.take state key (blanks ++ Byte.colon :: (padded ++ b :: rest)) =
        .ok (state', after ++ b :: rest)

/-- Whether a step takes some members one after the other. -/
inductive MemberStep.TakesAll {σ : Type} (step : MemberStep σ) :
    σ → List (String × List UInt8) → σ → Prop where
  | nil (state : σ) : TakesAll step state [] state
  | cons {state state₁ state' : σ} {key : String} {value : List UInt8}
      {members : List (String × List UInt8)} (htake : step.Takes state key value state₁)
      (hrest : TakesAll step state₁ members state') :
      TakesAll step state ((key, value) :: members) state'

/-- Members that are taken one by one are read together. -/
theorem readMembers_of_takesAll {σ : Type} {step : MemberStep σ} {text : List UInt8}
    {members : List (String × List UInt8)} (hmembers : IsMembers text members) {state state' : σ}
    (htakes : step.TakesAll state members state') (rest : List UInt8) :
    readMembers step state (text ++ rest) = .ok (state', Byte.closeBrace :: rest) := by
  -- induction on the members: behind the last one stands the brace, behind the others a comma
  induction hmembers generalizing state with
  | @last content label value padded key hkey hlabel hvalue hpadded =>
    obtain ⟨blanks, hblanks, hfirst⟩ := firstKey_label hkey hlabel
    cases htakes with
    | cons htake hrest =>
      cases hrest
      obtain ⟨after, hafter, htake⟩ := htake blanks padded _ rest hblanks hpadded
        (ends_closeBrace rest)
      rw [List.append_assoc, List.append_assoc, readMembers, hfirst]
      exact readMembersFrom_closing hafter htake
  | @more content label value padded text key members hkey hlabel hvalue hpadded hmembers ih =>
    obtain ⟨blanks, hblanks, hfirst⟩ := firstKey_label hkey hlabel
    cases htakes with
    | cons htake hrest =>
      obtain ⟨after, hafter, htake⟩ := htake blanks padded _ (text ++ rest) hblanks hpadded
        (ends_comma (text ++ rest))
      obtain ⟨tail, hfront⟩ := hmembers.front rest
      rw [List.append_assoc, List.append_assoc, readMembers, hfirst]
      exact (readMembersFrom_comma hafter hfront htake).trans (ih hrest)

/-- What is read inside of an object whose members are taken. -/
theorem readMembers_of_isObject {σ : Type} {step : MemberStep σ} {text : List UInt8}
    {members : List (String × List UInt8)} (hobject : IsObject (Byte.openBrace :: text) members)
    {state state' : σ} (htakes : step.TakesAll state members state') (rest : List UInt8) :
    readMembers step state (text ++ rest) = .ok (state', Byte.closeBrace :: rest) := by
  cases hobject with
  | empty hblanks =>
    cases htakes
    rw [readMembers, List.append_assoc, List.singleton_append, firstKey_closing hblanks]
  | members hmembers => exact readMembers_of_takesAll hmembers htakes rest

/-! ## Braces -/

theorem IsObject.front {text : List UInt8} {members : List (String × List UInt8)}
    (hobject : IsObject text members) : ∃ inner, text = Byte.openBrace :: inner := by
  cases hobject with
  | empty _ => exact ⟨_, rfl⟩
  | members _ => exact ⟨_, rfl⟩

theorem IsObject.isValue_of_mem {text : List UInt8} {members : List (String × List UInt8)}
    (hobject : IsObject text members) {member : String × List UInt8} (hmem : member ∈ members) :
    IsValue member.2 := by
  cases hobject with
  | empty _ => cases hmem
  | members hmembers =>
    induction hmembers with
    | last _ _ hvalue _ =>
      rw [List.mem_singleton.mp hmem]
      exact hvalue
    | more _ _ hvalue _ _ ih =>
      rcases List.mem_cons.mp hmem with rfl | hmem
      · exact hvalue
      · exact ih hmem

/-- The end of an object mends no fault inside of it. -/
theorem closeObject_error (α : Type) (stop : Stop) :
    ∃ stop', closeObject (Except.error stop : Reading α) = .error stop' := by
  cases stop with
  | loose cause rest => exact ⟨_, rfl⟩
  | placed cause behind => exact ⟨_, rfl⟩

namespace Record

variable {σ : Type}

theorem mem_of_field? {record : Record σ} {key : String} {field : Field σ}
    (hfield : record.field? key = some field) : field ∈ record.fields ∧ field.name = key :=
  ⟨List.mem_of_find?_eq_some hfield, by simpa using List.find?_some hfield⟩

/-! ## Changes -/

/-- What the members of an object change in a record, as far as `reads` tells what a field makes
of a value. -/
inductive Changes (record : Record σ) (reads : Field σ → List UInt8 → (σ → σ) → Prop) :
    List (String × List UInt8) → (σ → σ) → Prop where
  | nil : Changes record reads [] id
  | field {key : String} {value : List UInt8} {field : Field σ} {set change : σ → σ}
      {members : List (String × List UInt8)} (hfield : record.field? key = some field)
      (hset : reads field value set) (hrest : Changes record reads members change) :
      Changes record reads ((key, value) :: members) (change ∘ set)
  | other {key : String} {value : List UInt8} {change : σ → σ}
      {members : List (String × List UInt8)} (hnone : record.field? key = none)
      (hrest : Changes record reads members change) :
      Changes record reads ((key, value) :: members) change

variable {record : Record σ} {reads : Field σ → List UInt8 → (σ → σ) → Prop}

/-- Members that are read one by one make up a change. -/
theorem exists_changes {members : List (String × List UInt8)}
    (hreads : ∀ member ∈ members, ∀ field, record.field? member.1 = some field →
      ∃ set, reads field member.2 set) : ∃ change, record.Changes reads members change := by
  induction members with
  | nil => exact ⟨id, .nil⟩
  | cons member members ih =>
    obtain ⟨change, hchanges⟩ := ih fun member hmem => hreads member (List.mem_cons_of_mem _ hmem)
    cases hfield : record.field? member.1 with
    | none => exact ⟨change, .other hfield hchanges⟩
    | some field =>
      obtain ⟨set, hset⟩ := hreads member List.mem_cons_self field hfield
      exact ⟨change ∘ set, .field hfield hset hchanges⟩

theorem Changes.mono {reads' : Field σ → List UInt8 → (σ → σ) → Prop}
    (himp : ∀ field value set, reads field value set → reads' field value set)
    {members : List (String × List UInt8)} {change : σ → σ}
    (hchanges : record.Changes reads members change) : record.Changes reads' members change := by
  induction hchanges with
  | nil => exact .nil
  | field hfield hset _ ih => exact .field hfield (himp _ _ _ hset) ih
  | other hnone _ ih => exact .other hnone ih

/-- A part of a record that no member changes is as it was. -/
theorem Changes.get_of_not_mem {α : Type} (get : σ → α) {name : String}
    {members : List (String × List UInt8)} {change : σ → σ}
    (hchanges : record.Changes reads members change)
    (hother : ∀ key field value set, record.field? key = some field → key ≠ name →
      reads field value set → ∀ state, get (set state) = get state)
    (hnot : name ∉ members.map (·.1)) (state : σ) : get (change state) = get state := by
  induction hchanges generalizing state with
  | nil => rfl
  | @field key value field set change members hfield hset _ ih =>
    simp only [List.map_cons, List.mem_cons, not_or] at hnot
    rw [Function.comp_apply, ih hnot.2]
    exact hother key field value set hfield (Ne.symm hnot.1) hset state
  | other _ _ ih =>
    simp only [List.map_cons, List.mem_cons, not_or] at hnot
    exact ih hnot.2 state

/-- A part of a record that one field alone sets comes from the member of this field. -/
theorem Changes.get_of_mem {α : Type} (get : σ → α) {name : String} {value : List UInt8}
    {members : List (String × List UInt8)} {change : σ → σ}
    (hchanges : record.Changes reads members change)
    (hother : ∀ key field value set, record.field? key = some field → key ≠ name →
      reads field value set → ∀ state, get (set state) = get state)
    (hnodup : (members.map (·.1)).Nodup) (hmem : (name, value) ∈ members) {result : α}
    (hname : ∃ field, record.field? name = some field ∧
      ∀ set, reads field value set → ∀ state, get (set state) = result) (state : σ) :
    get (change state) = result := by
  induction hchanges generalizing state with
  | nil => cases hmem
  | @field key value' field set change members hfield hset hrest ih =>
    rw [List.map_cons, List.nodup_cons] at hnodup
    rcases List.mem_cons.mp hmem with heq | hmem
    · -- the member is this one, and none of the others has its name
      obtain ⟨rfl, rfl⟩ := Prod.mk.inj heq
      obtain ⟨field', hfield', hresult⟩ := hname
      rw [hfield] at hfield'
      obtain rfl := Option.some.inj hfield'
      rw [Function.comp_apply, hrest.get_of_not_mem get hother hnodup.1]
      exact hresult set hset state
    · exact ih hnodup.2 hmem _
  | @other key value' change members hnone _ ih =>
    rw [List.map_cons, List.nodup_cons] at hnodup
    rcases List.mem_cons.mp hmem with heq | hmem
    · obtain ⟨rfl, rfl⟩ := Prod.mk.inj heq
      obtain ⟨field', hfield', -⟩ := hname
      rw [hnone] at hfield'
      cases hfield'
    · exact ih hnodup.2 hmem state

/-- A part that one field sets and the others leave is read off the member of this field. -/
theorem Changes.get_of_isPart {α : Type} (get : σ → α) {depth : Nat}
    {members : List (String × List UInt8)} {change : σ → σ}
    (hchanges : record.Changes (fun field => IsReadAs (field.decoder.reader depth)) members change)
    (hnodup : (members.map (·.1)).Nodup) {name : String} {field : Field σ} {decoder : Decoder α}
    {set : α → σ → σ} (hfield : record.field? name = some field)
    (hdecoder : field.decoder = decoder.map set)
    (hget : ∀ value state, get (set value state) = value)
    (hothers : ∀ other ∈ record.fields, other.name ≠ name → other.Leaves get)
    {state : σ} {value : α}
    (hpart : IsPart (decoder.reader depth) members name (get state) value) :
    get (change state) = value := by
  have hother (key : String) (other : Field σ) (text : List UInt8) (set' : σ → σ)
      (hkey : record.field? key = some other) (hne : key ≠ name)
      (hset : IsReadAs (other.decoder.reader depth) text set') (state : σ) :
      get (set' state) = get state := by
    obtain ⟨hmem, rfl⟩ := mem_of_field? hkey
    exact hothers other hmem hne depth text set' hset state
  rcases hpart with ⟨hnot, rfl⟩ | ⟨text, hmem, hreads⟩
  · exact hchanges.get_of_not_mem get hother hnot state
  · refine hchanges.get_of_mem get hother hnodup hmem
      ⟨field, hfield, fun set' hset state => ?_⟩ state
    rw [hdecoder] at hset
    obtain ⟨value', hvalue, rfl⟩ := hset.exists_of_map
    rw [hget, hreads.eq_of_isReadAs hvalue]

/-! ## Steps -/

/-! ## Steps -/

theorem take_field {depth : Nat} {key : String} {field : Field σ}
    (hfield : record.field? key = some field) {state : σ} {seen : List String}
    (hseen : key ∉ seen) {blanks : List UInt8} (hblanks : Blanks blanks) (bytes : List UInt8) :
    (record.setStep depth).take (state, seen) key (blanks ++ Byte.colon :: bytes) =
      match (field.decoder.reader depth).read bytes with
      | .error stop => .error stop
      | .ok (set, rest) => .ok ((set state, key :: seen), rest) := by
  have hnot : ¬ seen.contains key = true := by simpa using hseen
  cases hread : (field.decoder.reader depth).read bytes <;>
    simp only [setStep, hfield, readColon_blanks hblanks, if_neg hnot, hread]

theorem take_seen {depth : Nat} {key : String} {field : Field σ}
    (hfield : record.field? key = some field) {state : σ} {seen : List String}
    (hseen : key ∈ seen) (bytes : List UInt8) :
    (record.setStep depth).take (state, seen) key bytes =
      .error (.loose (.duplicateField key) bytes) := by
  have hcontains : seen.contains key = true := by simpa using hseen
  simp only [setStep, hfield, if_pos hcontains]

theorem take_other {depth : Nat} {key : String} (hnone : record.field? key = none)
    (state : σ × List String) {blanks value padded : List UInt8} (hblanks : Blanks blanks)
    (hvalue : IsValue value) (hpadded : Padded value padded) {b : UInt8} {rest : List UInt8}
    (hends : Ends (b :: rest)) :
    ∃ after, Blanks after ∧
      (record.setStep depth).take state key
          (blanks ++ Byte.colon :: (padded ++ b :: rest)) =
        .ok (state, after ++ b :: rest) := by
  obtain ⟨before, after, hbefore, hafter, rfl⟩ := hpadded
  have hskip := skipValue_of_isValue hvalue hbefore (Ends.blanks_append hafter hends)
  refine ⟨after, hafter, ?_⟩
  simp only [setStep, hnone, readColon_blanks hblanks, skipped, List.append_assoc, hskip]

theorem takes_field {depth : Nat} {key : String} {field : Field σ}
    (hfield : record.field? key = some field) {value : List UInt8} {set : σ → σ}
    (hset : Reads (field.decoder.reader depth) value set) (state : σ) {seen : List String}
    (hseen : key ∉ seen) :
    (record.setStep depth).Takes (state, seen) key value (set state, key :: seen) := by
  rintro blanks padded b rest hblanks ⟨before, after, hbefore, hafter, rfl⟩ hends
  have hread := hset before (after ++ b :: rest) hbefore (Ends.blanks_append hafter hends)
  refine ⟨after, hafter, ?_⟩
  rw [take_field hfield hseen hblanks]
  simp only [List.append_assoc, hread]

/-- A step takes members that are read, and remembers those of its fields. -/
theorem takesAll_of_changes {depth : Nat} {members : List (String × List UInt8)} {change : σ → σ}
    (hchanges : record.Changes (fun field => Reads (field.decoder.reader depth)) members change)
    (hvalues : ∀ member ∈ members, IsValue member.2) (hnodup : (members.map (·.1)).Nodup)
    {seen : List String} (hseen : ∀ name ∈ members.map (·.1), name ∉ seen) (state : σ) :
    ∃ seen', (record.setStep depth).TakesAll (state, seen) members (change state, seen') ∧
      ∀ name, name ∈ seen' ↔
        name ∈ seen ∨ name ∈ members.map (·.1) ∧ (record.field? name).isSome := by
  -- induction on the changes: no key comes again, so none that has been seen is in the way
  induction hchanges generalizing seen state with
  | nil => exact ⟨seen, .nil _, by simp⟩
  | @field key value field set change members hfield hset _ ih =>
    rw [List.map_cons, List.nodup_cons] at hnodup
    have hseen' : ∀ name ∈ members.map (·.1), name ∉ key :: seen := by
      intro name hname hmem
      rcases List.mem_cons.mp hmem with rfl | hmem
      · exact hnodup.1 hname
      · exact hseen name (List.mem_cons_of_mem _ hname) hmem
    obtain ⟨seen', htakes, hnames⟩ :=
      ih (fun member hmem => hvalues member (List.mem_cons_of_mem _ hmem)) hnodup.2 hseen'
        (set state)
    refine ⟨seen', .cons (takes_field hfield hset state (hseen key List.mem_cons_self)) htakes, ?_⟩
    intro name
    rw [hnames, List.mem_cons, List.map_cons, List.mem_cons]
    constructor
    · rintro ((rfl | hmem) | ⟨hmem, hsome⟩)
      · exact .inr ⟨.inl rfl, by rw [hfield]; rfl⟩
      · exact .inl hmem
      · exact .inr ⟨.inr hmem, hsome⟩
    · rintro (hmem | ⟨rfl | hmem, hsome⟩)
      · exact .inl (.inr hmem)
      · exact .inl (.inl rfl)
      · exact .inr ⟨hmem, hsome⟩
  | @other key value change members hnone _ ih =>
    rw [List.map_cons, List.nodup_cons] at hnodup
    obtain ⟨seen', htakes, hnames⟩ :=
      ih (fun member hmem => hvalues member (List.mem_cons_of_mem _ hmem)) hnodup.2
        (fun name hname => hseen name (List.mem_cons_of_mem _ hname)) state
    have htake : (record.setStep depth).Takes (state, seen) key value (state, seen) :=
      fun blanks padded b rest hblanks hpadded hends =>
        take_other hnone (state, seen) hblanks (hvalues _ List.mem_cons_self) hpadded hends
    refine ⟨seen', .cons htake htakes, ?_⟩
    intro name
    rw [hnames, List.map_cons, List.mem_cons]
    constructor
    · rintro (hmem | ⟨hmem, hsome⟩)
      · exact .inl hmem
      · exact .inr ⟨.inr hmem, hsome⟩
    · rintro (hmem | ⟨rfl | hmem, hsome⟩)
      · exact .inl hmem
      · rw [hnone] at hsome
        cases hsome
      · exact .inr ⟨hmem, hsome⟩

/-- A member that a step takes has been read at its place. -/
theorem changes_of_take (hexact : record.IsExact) {depth : Nat} {key : String}
    {value blanks padded : List UInt8} (hblanks : Blanks blanks) (hvalue : IsValue value)
    (hpadded : Padded value padded) {b : UInt8} {rest rest' : List UInt8}
    (hends : Ends (b :: rest)) {state state' : σ} {seen seen' : List String}
    (htake : (record.setStep depth).take (state, seen) key
      (blanks ++ Byte.colon :: (padded ++ b :: rest)) = .ok ((state', seen'), rest')) :
    ∃ set after, state' = set state ∧ Blanks after ∧ rest' = after ++ b :: rest ∧
      ∀ members change,
        record.Changes (fun field => IsReadAs (field.decoder.reader depth)) members change →
        record.Changes (fun field => IsReadAs (field.decoder.reader depth))
          ((key, value) :: members) (change ∘ set) := by
  cases hfield : record.field? key with
  | none =>
    obtain ⟨after, hafter, htaken⟩ := take_other hfield (state, seen) hblanks hvalue hpadded hends
    rw [htaken] at htake
    cases htake
    exact ⟨id, after, rfl, hafter, rfl, fun members change hchanges => .other hfield hchanges⟩
  | some field =>
    by_cases hseen : key ∈ seen
    · -- a key that comes again is a fault
      rw [take_seen hfield hseen] at htake
      cases htake
    · obtain ⟨before, after, hbefore, hafter, rfl⟩ := hpadded
      rw [take_field hfield hseen hblanks] at htake
      split at htake
      case h_1 => cases htake
      case h_2 set rest₁ hset =>
        cases htake
        -- the field is read exactly, and passing over the value ends behind it
        have hskip := isExact_of_field? hexact hfield depth _ _ _ hset
        have hpassed := skipValue_of_isValue hvalue hbefore (Ends.blanks_append hafter hends)
        simp only [List.append_assoc] at hskip
        rw [hpassed] at hskip
        cases hskip
        refine ⟨set, after, rfl, hafter, rfl, fun members change hchanges => ?_⟩
        have hends' := Ends.blanks_append hafter hends
        refine .field hfield ⟨before, after ++ b :: rest, hbefore, hends', ?_⟩ hchanges
        rw [← hset]
        simp only [List.append_assoc]

/-! ## Objects -/

/-- Members that have been read together have been read one by one. -/
theorem exists_changes_of_readMembers (hexact : record.IsExact) {depth : Nat} {text : List UInt8}
    {members : List (String × List UInt8)} (hmembers : IsMembers text members) {state state' : σ}
    {seen seen' : List String} {rest rest' : List UInt8}
    (hread : readMembers (record.setStep depth) (state, seen) (text ++ rest) =
      .ok ((state', seen'), rest')) :
    ∃ change, record.Changes (fun field => IsReadAs (field.decoder.reader depth)) members change ∧
      state' = change state ∧ rest' = Byte.closeBrace :: rest := by
  induction hmembers generalizing state seen with
  | @last content label value padded key hkey hlabel hvalue hpadded =>
    obtain ⟨blanks, hblanks, hfirst⟩ := firstKey_label hkey hlabel
    rw [List.append_assoc, List.append_assoc, readMembers, hfirst] at hread
    obtain ⟨⟨state₁, seen₁⟩, rest₁, htake⟩ := exists_take_of_readMembersFrom hread
    obtain ⟨set, after, rfl, hafter, rfl, hchanges⟩ :=
      changes_of_take hexact hblanks hvalue hpadded (ends_closeBrace rest) htake
    have hclosing := readMembersFrom_closing hafter htake
    obtain ⟨hstate, hrest⟩ := Prod.mk.inj (Except.ok.inj (hread.symm.trans hclosing))
    exact ⟨id ∘ set, hchanges [] id .nil, (Prod.mk.inj hstate).1, hrest⟩
  | @more content label value padded text key members hkey hlabel hvalue hpadded hmembers ih =>
    obtain ⟨blanks, hblanks, hfirst⟩ := firstKey_label hkey hlabel
    rw [List.append_assoc, List.append_assoc, readMembers, hfirst] at hread
    obtain ⟨⟨state₁, seen₁⟩, rest₁, htake⟩ := exists_take_of_readMembersFrom hread
    obtain ⟨set, after, rfl, hafter, rfl, hchanges⟩ :=
      changes_of_take hexact hblanks hvalue hpadded (ends_comma (text ++ rest)) htake
    obtain ⟨tail, hfront⟩ := hmembers.front rest
    have hothers := (readMembersFrom_comma hafter hfront htake).symm.trans hread
    obtain ⟨change, hrest, hstate, hrest'⟩ := ih hothers
    exact ⟨change ∘ set, hchanges members change hrest, hstate, hrest'⟩

theorem field?_isSome_of_mem {field : Field σ} (hmem : field ∈ record.fields) :
    (record.field? field.name).isSome := by
  rw [field?, List.find?_isSome]
  exact ⟨field, hmem, by simp⟩

/-- No field is missing if those that an object must have are there. -/
theorem missing?_eq_none {seen : List String}
    (hrequired : ∀ field ∈ record.fields, field.absence = .refused → field.name ∈ seen) :
    record.missing? seen = none := by
  rw [missing?, Option.map_eq_none_iff, List.find?_eq_none]
  intro field hmem hmissing
  simp only [Bool.and_eq_true, decide_eq_true_eq, Bool.not_eq_true', List.contains_eq_mem,
    decide_eq_false_iff_not] at hmissing
  exact hmissing.2 (hrequired field hmem hmissing.1)

/-- What stands inside of an object whose members are read. -/
theorem readNamed_of_changes {depth : Nat} {text : List UInt8}
    {members : List (String × List UInt8)}
    (hobject : IsObject (Byte.openBrace :: text) members) {change : σ → σ}
    (hchanges : record.Changes (fun field => Reads (field.decoder.reader depth)) members change)
    (hnodup : (members.map (·.1)).Nodup)
    (hrequired : ∀ field ∈ record.fields, field.absence = .refused →
      field.name ∈ members.map (·.1)) (rest : List UInt8) :
    record.readNamed depth (text ++ rest) =
      .ok (change record.start, Byte.closeBrace :: rest) := by
  obtain ⟨seen, htakes, hnames⟩ :=
    takesAll_of_changes hchanges (fun _ => hobject.isValue_of_mem) hnodup
      (fun _ _ => List.not_mem_nil) record.start
  have hmissing : record.missing? seen = none := by
    apply missing?_eq_none
    intro field hmem habsence
    exact (hnames field.name).mpr
      (.inr ⟨hrequired field hmem habsence, field?_isSome_of_mem hmem⟩)
  rw [readNamed, readMembers_of_isObject hobject htakes]
  simp only [hmissing]

/-- What has been read inside of an object. -/
theorem exists_changes_of_readNamed (hexact : record.IsExact) {depth : Nat} {text : List UInt8}
    {members : List (String × List UInt8)} (hobject : IsObject (Byte.openBrace :: text) members)
    {state : σ} {rest rest' : List UInt8}
    (hread : record.readNamed depth (text ++ rest) = .ok (state, rest')) :
    ∃ change, record.Changes (fun field => IsReadAs (field.decoder.reader depth)) members change ∧
      state = change record.start ∧ rest' = Byte.closeBrace :: rest := by
  rw [readNamed] at hread
  split at hread
  case h_1 => cases hread
  case h_2 state' seen rest₁ hmembersRead =>
    split at hread
    case h_1 => cases hread
    case h_2 =>
      cases hread
      cases hobject with
      | empty hblanks =>
        rw [readMembers, List.append_assoc, List.singleton_append,
          firstKey_closing hblanks] at hmembersRead
        cases hmembersRead
        exact ⟨id, .nil, rfl, rfl⟩
      | members hmembers => exact exists_changes_of_readMembers hexact hmembers hmembersRead

/-- The brace of an object leads to its members. -/
theorem decoder_read_object (record : Record σ) (depth : Nat) {before : List UInt8}
    (hbefore : Blanks before) (text : List UInt8) :
    (record.decoder.reader (depth + 1)).read (before ++ Byte.openBrace :: text) =
      closeObject (record.readNamed depth text) := by
  have hfront : dropBlanks (before ++ Byte.openBrace :: text) = Byte.openBrace :: text :=
    dropBlanks_blanks_cons hbefore (by decide) text
  simp only [decoder, Decoder.arrayOr, Decoder.objectReader, Decoder.readObject, hfront]
  rfl

/-- An object whose members are read is read as a record. -/
theorem reads_of_changes {depth : Nat} {text : List UInt8} {members : List (String × List UInt8)}
    (hobject : IsObject text members) {change : σ → σ}
    (hchanges : record.Changes (fun field => Reads (field.decoder.reader depth)) members change)
    (hnodup : (members.map (·.1)).Nodup)
    (hrequired : ∀ field ∈ record.fields, field.absence = .refused →
      field.name ∈ members.map (·.1)) :
    Reads (record.decoder.reader (depth + 1)) text (change record.start) := by
  intro before rest hbefore _
  obtain ⟨inner, rfl⟩ := hobject.front
  rw [List.cons_append, decoder_read_object record depth hbefore,
    readNamed_of_changes hobject hchanges hnodup hrequired]
  simp only [closeObject, endObject_closing]

/-- An object whose members are read is decoded. -/
theorem decode_of_changes {text padded : List UInt8} {members : List (String × List UInt8)}
    (hobject : IsObject text members) (hpadded : Padded text padded) {change : σ → σ}
    (hchanges : record.Changes
      (fun field => Reads (field.decoder.reader (Decoder.greatestDepth - 1))) members change)
    (hnodup : (members.map (·.1)).Nodup)
    (hrequired : ∀ field ∈ record.fields, field.absence = .refused →
      field.name ∈ members.map (·.1)) :
    record.decoder.decode padded = .ok (change record.start) :=
  Decoder.decode_of_reads (reads_of_changes hobject hchanges hnodup hrequired) hpadded

/-- An object that is decoded has had its members read. -/
theorem exists_changes_of_decode (hexact : record.IsExact) {text padded : List UInt8}
    {members : List (String × List UInt8)} (hobject : IsObject text members)
    (hpadded : Padded text padded) {state : σ}
    (hdecode : record.decoder.decode padded = .ok state) :
    ∃ change, record.Changes
        (fun field => IsReadAs (field.decoder.reader (Decoder.greatestDepth - 1))) members change ∧
      state = change record.start := by
  obtain ⟨before, after, hbefore, -, rfl⟩ := hpadded
  obtain ⟨inner, rfl⟩ := hobject.front
  -- the object is opened at its brace, and what was read inside of it ends before the other one
  rw [Decoder.decode, List.cons_append] at hdecode
  have hopened := decoder_read_object record (Decoder.greatestDepth - 1) hbefore (inner ++ after)
  change (record.decoder.reader Decoder.greatestDepth).read _ = _ at hopened
  rw [hopened] at hdecode
  cases hnamed : record.readNamed (Decoder.greatestDepth - 1) (inner ++ after) with
  | error stop =>
    obtain ⟨stop', hclosed⟩ := closeObject_error σ stop
    rw [hnamed, hclosed] at hdecode
    cases hdecode
  | ok named =>
    obtain ⟨state', rest⟩ := named
    obtain ⟨change, hchanges, rfl, rfl⟩ := exists_changes_of_readNamed hexact hobject hnamed
    refine ⟨change, hchanges, ?_⟩
    rw [hnamed] at hdecode
    simp only [closeObject, endObject_closing] at hdecode
    split at hdecode
    · exact (Except.ok.inj hdecode).symm
    · cases hdecode

end Record

end ChatSteward.Json
