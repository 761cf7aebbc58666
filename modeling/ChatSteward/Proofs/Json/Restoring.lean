import ChatSteward.Json.Tagged
import ChatSteward.Proofs.Json.Written
import ChatSteward.Proofs.Text.Dictionary
import Mathlib.Data.List.Pairwise

/-!
# Restoring

A decoder restores what was written for a thing if it gets the thing back both from the text and
from the generic value that is read from the text. The two ways differ in the order of members: in
the text they stand as they were written, in the generic value by their keys. An object does not
depend on the order of its members as long as fields set their parts of a record alike in either
order, so whoever writes a record need not know how its members will be sorted.

Restoring is shown for each form of decoder from its parts.

## Main definitions

* `Decoder.Restores` — the decoder gets a result back from the text and the value written for it
* `Record.Sets`, `Record.Assigns` — what members set in a record, as values and as they are written
* `Field.Commutes` — fields that set a record alike in either order
* `RoundTrips` — a reader gets back all that a writer writes

## Main results

* `Value.IsWritable.decode` — the text of a value is decoded as the value, sorted
* `Record.Sets.perm` — the order of members does not matter
* `Record.restores_of_assigns`, `Tagged.restores_of_assigns` — records and variants are restored
  from the members that assign to them
* `Decoder.restores_list`, `Decoder.restores_dictionary` — lists and maps from their entries
* `Record.exists_assigns_unlessEmpty` — texts that are left out if they are empty
* `roundTrips_list` — lists are got back if their items are
-/

namespace ChatSteward.Json

/-- Sorting the values of members leaves their keys. -/
@[simp] theorem Value.sortedMembers_keys (members : List (String × Value)) :
    (Value.sortedMembers members).map (·.1) = members.map (·.1) := by
  rw [Value.sortedMembers_eq_map, List.map_map]
  rfl

/-- What is written is decoded as the value with its members sorted. -/
theorem Value.IsWritable.decode {value : Value}
    (hwritable : value.IsWritable Decoder.greatestDepth) :
    Decoder.value.decode (Text.encodeUtf8 value.written) = .ok value.sorted := by
  rw [Value.encodeUtf8_written]
  exact Decoder.decode_of_reads hwritable.reads (padded_self _)

namespace Decoder

variable {α β : Type}

/-- Whether a decoder gets a result back from a value that was written for it: from the text of
the value at some depth, and from the generic value that the text is read as. -/
structure Restores (decoder : Decoder α) (depth : Nat) (value : Value) (result : α) : Prop where
  writable : value.IsWritable depth
  reads : Reads (decoder.reader depth) value.bytes result
  ofSorted : decoder.ofValue value.sorted = .ok result

/-- What is restored is decoded from its text. -/
theorem Restores.decode {decoder : Decoder α} {value : Value} {result : α}
    (hrestores : decoder.Restores greatestDepth value result) :
    decoder.decode (Text.encodeUtf8 value.written) = .ok result := by
  rw [Value.encodeUtf8_written]
  exact decode_of_reads hrestores.reads (padded_self _)

theorem Restores.map {decoder : Decoder α} {depth : Nat} {value : Value} {result : α}
    (hrestores : decoder.Restores depth value result) (f : α → β) :
    (decoder.map f).Restores depth value (f result) where
  writable := hrestores.writable
  reads := hrestores.reads.map f
  ofSorted := by
    have hsorted := hrestores.ofSorted
    simp only [Decoder.map, hsorted]
    rfl

/-! ## Scalars -/

theorem restores_text (depth : Nat) (s : String) : Decoder.text.Restores depth (.text s) s where
  writable := .text depth s
  reads := by
    rw [Value.bytes_text]
    exact reads_text (spells_contentOf s) depth
  ofSorted := rfl

theorem restores_boolean (depth : Nat) (b : Bool) :
    Decoder.boolean.Restores depth (.boolean b) b where
  writable := .boolean depth b
  reads := by
    change Reads (scalarReader _ _) _ _
    cases b with
    | true =>
      apply isScalar_true.reads
      rfl
    | false =>
      apply isScalar_false.reads
      rfl
  ofSorted := rfl

/-- An integer between the bounds of its type is read as it is written, if it fits 64 bits. -/
theorem restores_integer {expected : String} {least greatest n : Int}
    (hbounds : least ≤ n ∧ n ≤ greatest) (hlow : -(greatestSigned : Int) - 1 ≤ n)
    (hhigh : n ≤ greatestUnsigned) (depth : Nat) :
    (integer expected least greatest).Restores depth (.number (.integer n)) n where
  writable := .integer depth hlow hhigh
  reads := by
    rw [Value.bytes_integer]
    exact (isScalar_integer hlow hhigh).reads (if_pos hbounds) _
  ofSorted := if_pos hbounds

theorem restores_word32 (depth : Nat) (n : UInt32) :
    word32.Restores depth (.ofNat n.toNat) n := by
  have hsize : n.toNat < UInt32.size := n.toNat_lt_size
  have hwide : UInt32.size ≤ greatestUnsigned := by decide
  have hbounds : (0 : Int) ≤ (n.toNat : Int) ∧ (n.toNat : Int) ≤ (UInt32.size - 1 : Nat) := by omega
  -- what is read is an integer between bounds, and only then a word
  have hinteger :
      (integer "u32" 0 (UInt32.size - 1 : Nat)).Restores depth (.ofNat n.toNat) n.toNat :=
    restores_integer hbounds (by omega) (by omega) depth
  have hword : ((n.toNat : Int).toNat).toUInt32 = n := by
    rw [Int.toNat_natCast]
    exact UInt32.ofNat_toNat
  have hrestores := hinteger.map fun n => n.toNat.toUInt32
  rwa [hword] at hrestores

theorem restores_nat64 (depth : Nat) {n : Nat} (hn : n ≤ greatestUnsigned) :
    nat64.Restores depth (.ofNat n) n := by
  have hbounds : (0 : Int) ≤ (n : Int) ∧ (n : Int) ≤ greatestUnsigned := by omega
  exact (restores_integer hbounds (by omega) hbounds.2 depth).map Int.toNat

/-- What may be null is restored if it is written in another way. -/
theorem restores_optional {decoder : Decoder α} {depth : Nat} {value : Value} {result : α}
    (hrestores : decoder.Restores depth value result) (hnull : value.bytes ≠ nullText) :
    decoder.optional.Restores depth value (some result) where
  writable := hrestores.writable
  reads := reads_optional hrestores.writable.isValue hnull hrestores.reads
  ofSorted := by
    have hsorted := hrestores.ofSorted
    cases value with
    | null => exact absurd rfl hnull
    | boolean | number | text | array | object =>
      simp only [optional, Value.sorted] at hsorted ⊢
      rw [hsorted]
      rfl

/-- A generic value is restored with its members sorted. -/
theorem restores_value {depth : Nat} {value : Value} (hwritable : value.IsWritable depth) :
    Decoder.value.Restores depth value value.sorted :=
  ⟨hwritable, hwritable.reads, rfl⟩

/-! ## Arrays and objects -/

/-- Items that are each taken for what they were made of are so all together. -/
theorem mapM_map_ok {ε : Type} {take : β → Except ε α} {make : α → β} {results : List α}
    (htakes : ∀ result ∈ results, take (make result) = .ok result) :
    (results.map make).mapM take = .ok results := by
  induction results with
  | nil => rfl
  | cons result results ih =>
    have hrest := ih fun other hmem => htakes other (List.mem_cons_of_mem _ hmem)
    simp only [List.map_cons, List.mapM_cons, htakes result List.mem_cons_self, hrest]
    rfl

variable {item : Decoder α} {depth : Nat} {write : α → Value}

/-- A list is restored if its items are. -/
theorem restores_list {results : List α}
    (hitems : ∀ result ∈ results, item.Restores depth (write result) result) :
    item.list.Restores (depth + 1) (.array (results.map write)) results where
  writable := by
    refine .array fun value hmem => ?_
    obtain ⟨result, hresult, rfl⟩ := List.mem_map.mp hmem
    exact (hitems result hresult).writable
  reads := by
    have hvalues : ∀ value ∈ results.map write, IsValue value.bytes := by
      intro value hmem
      obtain ⟨result, hresult, rfl⟩ := List.mem_map.mp hmem
      exact (hitems result hresult).writable.isValue
    apply reads_arrayReader (Value.isArray_bytes hvalues)
    rw [List.map_map, List.forall₂_map_left_iff]
    exact List.forall₂_same.mpr fun result hmem => (hitems result hmem).reads
  ofSorted := by
    rw [Value.sorted, Value.sortedItems_eq_map, List.map_map]
    exact mapM_map_ok fun result hmem => (hitems result hmem).ofSorted

/-- A map is restored if its entries are. -/
theorem restores_dictionary {pairs : List (String × α)} (hrising : Dictionary.Rising pairs)
    (hentries : ∀ pair ∈ pairs, item.Restores depth (write pair.2) pair.2) :
    item.dictionary.Restores (depth + 1) (.object (pairs.map fun pair => (pair.1, write pair.2)))
      pairs where
  writable := by
    refine .object fun member hmem => ?_
    obtain ⟨pair, hpair, rfl⟩ := List.mem_map.mp hmem
    exact (hentries pair hpair).writable
  reads := by
    have hvalues : ∀ member ∈ pairs.map fun pair => (pair.1, write pair.2),
        IsValue member.2.bytes := by
      intro member hmem
      obtain ⟨pair, hpair, rfl⟩ := List.mem_map.mp hmem
      exact (hentries pair hpair).writable.isValue
    have hreads : ∀ entry ∈ pairs.map fun pair => (pair.1, (write pair.2).bytes, pair.2),
        Reads (item.reader depth) entry.2.1 entry.2.2 := by
      intro entry hmem
      obtain ⟨pair, hpair, rfl⟩ := List.mem_map.mp hmem
      exact (hentries pair hpair).reads
    -- the entries are put one by one into the map of them all, which is their list
    have htakes := takesAll_insertStep hreads []
    have hmap : pairs.foldl (fun map pair => Dictionary.insert pair.1 pair.2 map) [] = pairs :=
      Dictionary.ofPairs_of_rising hrising
    rw [List.map_map, List.foldl_map, hmap] at htakes
    apply reads_objectReader (Value.isObject_bytes hvalues)
    rw [List.map_map]
    exact htakes
  ofSorted := by
    have hsorted : Dictionary.Rising (pairs.map fun pair => (pair.1, (write pair.2).sorted)) :=
      List.pairwise_map.mpr hrising
    rw [Value.sorted, Value.sortedMembers_eq_map, List.map_map]
    simp only [Function.comp_def, Dictionary.ofPairs_of_rising hsorted, dictionary]
    rw [mapM_map_ok]
    · exact congrArg Except.ok (Dictionary.ofPairs_of_rising hrising)
    · intro pair hmem
      simp only [(hentries pair hmem).ofSorted]
      rfl

end Decoder

/-! ## The order of members -/

section

variable {σ : Type}

/-- Whether two fields set a record alike in either order. -/
def Field.Commutes (first second : Field σ) : Prop :=
  ∀ value other set set', first.decoder.ofValue value = .ok set →
    second.decoder.ofValue other = .ok set' → set ∘ set' = set' ∘ set

/-- It does not matter which of the two is named first. -/
instance : Std.Symm (Field.Commutes (σ := σ)) where
  symm _ _ hcommutes value other set set' hset hset' :=
    (hcommutes other value set' set hset' hset).symm

/-- What a decoder makes of a value after a change of the result. -/
theorem Decoder.exists_of_map_ofValue {α β : Type} {decoder : Decoder α} {f : α → β}
    {value : Value} {result : β} (hdecode : (decoder.map f).ofValue value = .ok result) :
    ∃ before, decoder.ofValue value = .ok before ∧ f before = result := by
  change (decoder.ofValue value).map f = .ok result at hdecode
  cases hvalue : decoder.ofValue value with
  | error cause =>
    rw [hvalue] at hdecode
    cases hdecode
  | ok before =>
    rw [hvalue] at hdecode
    exact ⟨before, rfl, Except.ok.inj hdecode⟩

/-- Fields that set different parts of a record commute. -/
theorem Field.commutes_of_set {α β : Type} {name name' : String} {absence absence' : Absence}
    {decoder : Decoder α} {decoder' : Decoder β} {set : α → σ → σ} {set' : β → σ → σ}
    (hset : ∀ value other state, set value (set' other state) = set' other (set value state)) :
    (⟨name, absence, decoder.map set⟩ : Field σ).Commutes
      ⟨name', absence', decoder'.map set'⟩ := by
  intro value other change change' hchange hchange'
  obtain ⟨first, -, rfl⟩ := Decoder.exists_of_map_ofValue hchange
  obtain ⟨second, -, rfl⟩ := Decoder.exists_of_map_ofValue hchange'
  funext state
  exact hset first second state

namespace Record

/-- Whether an object with some keys can make a record: no key comes twice, and none that must be
there is missing. -/
structure Admits (record : Record σ) (keys : List String) : Prop where
  nodup : keys.Nodup
  complete : record.missing? keys = none

theorem Admits.required {record : Record σ} {keys : List String} (hadmits : record.Admits keys) :
    ∀ field ∈ record.fields, field.absence = .refused → field.name ∈ keys := by
  intro field hmem habsence
  have hcomplete := hadmits.complete
  rw [missing?, Option.map_eq_none_iff, List.find?_eq_none] at hcomplete
  simpa [habsence] using hcomplete field hmem

theorem Admits.perm {record : Record σ} {keys keys' : List String} (hadmits : record.Admits keys)
    (hperm : keys'.Perm keys) : record.Admits keys' where
  nodup := hperm.nodup_iff.mpr hadmits.nodup
  complete := missing?_eq_none fun field hmem habsence =>
    hperm.mem_iff.mpr (hadmits.required field hmem habsence)

/-- What the members of an object set in a record, all of them being members of fields. -/
inductive Sets (record : Record σ) : List (String × Value) → (σ → σ) → Prop where
  | nil : Sets record [] id
  | cons {key : String} {value : Value} {field : Field σ} {set change : σ → σ}
      {members : List (String × Value)} (hfield : record.field? key = some field)
      (hset : field.decoder.ofValue value = .ok set) (hrest : Sets record members change) :
      Sets record ((key, value) :: members) (change ∘ set)

variable {record : Record σ}

/-- The order of members does not matter if the fields commute. -/
theorem Sets.perm (hcommutes : record.fields.Pairwise Field.Commutes)
    {members members' : List (String × Value)} (hperm : members.Perm members')
    (hnodup : (members.map (·.1)).Nodup) {change : σ → σ} (hsets : record.Sets members change) :
    record.Sets members' change := by
  -- the induction is on the permutation, and only neighbours that change places need to commute
  induction hperm generalizing change with
  | nil => exact hsets
  | cons member hperm ih =>
    rw [List.map_cons, List.nodup_cons] at hnodup
    cases hsets with
    | cons hfield hset hrest => exact .cons hfield hset (ih hnodup.2 hrest)
  | swap second first members =>
    rw [List.map_cons, List.map_cons, List.nodup_cons, List.mem_cons, not_or] at hnodup
    cases hsets with
    | @cons _ _ field set _ _ hfield hset hrest =>
      cases hrest with
      | @cons _ _ field' set' change _ hfield' hset' hrest =>
        -- the keys differ, so these are two fields, and one can be set before the other
        obtain ⟨hmem, hname⟩ := mem_of_field? hfield
        obtain ⟨hmem', hname'⟩ := mem_of_field? hfield'
        have hne : field' ≠ field := by
          rintro rfl
          exact hnodup.1.1 (hname.symm.trans hname')
        have hcomm := hcommutes.forall hmem' hmem hne
        have hswap : (change ∘ set') ∘ set = (change ∘ set) ∘ set' := by
          rw [Function.comp_assoc, hcomm _ _ set' set hset' hset, ← Function.comp_assoc]
        rw [hswap]
        exact .cons hfield' hset' (.cons hfield hset hrest)
  | trans hfirst _ ih ih' =>
    exact ih' ((hfirst.map (·.1)).nodup_iff.mp hnodup) (ih hnodup hsets)

/-- An object whose members are set one by one is decoded. -/
theorem Sets.ofMembersFrom {members : List (String × Value)} {change : σ → σ}
    (hsets : record.Sets members change) (hnodup : (members.map (·.1)).Nodup)
    {seen : List String} (hseen : ∀ name ∈ members.map (·.1), name ∉ seen)
    (hrequired : ∀ field ∈ record.fields, field.absence = .refused →
      field.name ∈ seen ∨ field.name ∈ members.map (·.1)) (state : σ) :
    record.ofMembersFrom state seen members = .ok (change state) := by
  -- what was seen grows by one key at a time, and stays apart from the keys that follow
  induction hsets generalizing seen state with
  | nil =>
    have hmissing : record.missing? seen = none := missing?_eq_none fun field hmem habsence => by
      simpa using hrequired field hmem habsence
    rw [Record.ofMembersFrom, hmissing]
    rfl
  | @cons key value field set change members hfield hset _ ih =>
    rw [List.map_cons, List.nodup_cons] at hnodup
    have hnew : ¬ seen.contains key = true := by simpa using hseen key List.mem_cons_self
    simp only [Record.ofMembersFrom, hfield, if_neg hnew, hset]
    refine ih hnodup.2 ?_ ?_ (set state)
    · intro name hname hmem
      rcases List.mem_cons.mp hmem with rfl | hmem
      · exact hnodup.1 hname
      · exact hseen name (List.mem_cons_of_mem _ hname) hmem
    · intro field' hmem habsence
      rcases hrequired field' hmem habsence with hname | hname
      · exact .inl (List.mem_cons_of_mem _ hname)
      · rcases List.mem_cons.mp hname with hname | hname
        · exact .inl (hname ▸ List.mem_cons_self)
        · exact .inr hname

/-- An object whose members are set one by one is decoded, in whatever order they stand. -/
theorem Sets.ofMembers {members members' : List (String × Value)} {change : σ → σ}
    (hsets : record.Sets members change) (hadmits : record.Admits (members.map (·.1)))
    (hcommutes : record.fields.Pairwise Field.Commutes) (hperm : members'.Perm members) :
    record.ofMembers members' = .ok (change record.start) := by
  have hadmits' := hadmits.perm (hperm.map (·.1))
  have hsets' := hsets.perm hcommutes hperm.symm hadmits.nodup
  exact hsets'.ofMembersFrom hadmits'.nodup (fun _ _ => List.not_mem_nil)
    (fun field hmem habsence => .inr (hadmits'.required field hmem habsence)) record.start

/-! ## Records -/

/-- What the members that are written for a record assign to its parts: each is restored by the
field of its name. -/
inductive Assigns (record : Record σ) (depth : Nat) :
    List (String × Value) → (σ → σ) → Prop where
  | nil : Assigns record depth [] id
  | cons {key : String} {value : Value} {field : Field σ} {set change : σ → σ}
      {members : List (String × Value)} (hfield : record.field? key = some field)
      (hset : field.decoder.Restores depth value set)
      (hrest : Assigns record depth members change) :
      Assigns record depth ((key, value) :: members) (change ∘ set)

variable {depth : Nat} {members : List (String × Value)} {change : σ → σ}

theorem Assigns.writable (hassigns : record.Assigns depth members change) :
    ∀ member ∈ members, member.2.IsWritable depth := by
  induction hassigns with
  | nil => exact fun _ hmem => absurd hmem List.not_mem_nil
  | cons _ hset _ ih => exact List.forall_mem_cons.mpr ⟨hset.writable, ih⟩

theorem Assigns.sets (hassigns : record.Assigns depth members change) :
    record.Sets (Value.sortedMembers members) change := by
  induction hassigns with
  | nil => exact .nil
  | cons hfield hset _ ih => exact .cons hfield hset.ofSorted ih

theorem Assigns.changes (hassigns : record.Assigns depth members change) :
    record.Changes (fun field => Reads (field.decoder.reader depth))
      (members.map fun member => (member.1, member.2.bytes)) change := by
  induction hassigns with
  | nil => exact .nil
  | cons hfield hset _ ih => exact .field hfield hset.reads ih

theorem Assigns.append (hassigns : record.Assigns depth members change)
    {members' : List (String × Value)} {change' : σ → σ}
    (hassigns' : record.Assigns depth members' change') :
    record.Assigns depth (members ++ members') (change' ∘ change) := by
  induction hassigns with
  | nil => exact hassigns'
  | cons hfield hset _ ih =>
    rw [← Function.comp_assoc]
    exact .cons hfield hset ih

/-! ### Members that are left out -/

/-- A text that is left out if it is empty is assigned to a part that is empty at the start. -/
theorem exists_assigns_unlessEmpty {key : String} {absence : Absence} {set : String → σ → σ}
    (hfield : record.field? key = some ⟨key, absence, Decoder.text.map set⟩) (depth : Nat)
    (text : String) :
    ∃ change, record.Assigns depth (memberUnless text.isEmpty key (.text text)) change ∧
      ∀ state, set "" state = state → change state = set text state := by
  cases hempty : text.isEmpty with
  | true =>
    refine ⟨id, .nil, fun state hstart => ?_⟩
    rw [String.isEmpty_iff.mp hempty, hstart, id]
  | false =>
    exact ⟨id ∘ set text, .cons hfield ((Decoder.restores_text depth text).map set) .nil,
      fun _ _ => rfl⟩

theorem memberUnless_sublist (leftOut : Bool) (key : String) (value : Value) :
    ((memberUnless leftOut key value).map (·.1)).Sublist [key] := by
  cases leftOut with
  | true => exact List.nil_sublist _
  | false => exact List.Sublist.refl _

/-- A record that needs no member can be made of some of them. -/
theorem admits_of_sublist {keys all : List String} (hkeys : keys.Sublist all) (hall : all.Nodup)
    (hallowed : ∀ field ∈ record.fields, field.absence ≠ .refused) : record.Admits keys where
  nodup := hall.sublist hkeys
  complete := missing?_eq_none fun field hmem habsence => absurd habsence (hallowed field hmem)

/-! ### Objects -/

/-- A record whose fields commute is restored from the members that assign to its parts. -/
theorem restores_of_assigns (hassigns : record.Assigns depth members change)
    (hadmits : record.Admits (members.map (·.1)))
    (hcommutes : record.fields.Pairwise Field.Commutes) :
    record.decoder.Restores (depth + 1) (.object members) (change record.start) where
  writable := .object hassigns.writable
  reads := by
    have hobject := Value.isObject_bytes fun member hmem =>
      (hassigns.writable member hmem).isValue
    have hkeys : (members.map fun member => (member.1, member.2.bytes)).map (·.1) =
        members.map (·.1) := List.map_map
    rw [← hkeys] at hadmits
    exact reads_of_changes hobject hassigns.changes hadmits.nodup hadmits.required
  ofSorted := by
    -- in the generic value the members stand by their keys, which is another order of the same
    rw [← Value.sortedMembers_keys] at hadmits
    have hperm := Dictionary.perm_ofPairs hadmits.nodup
    rw [Value.sorted]
    exact hassigns.sets.ofMembers hadmits hcommutes hperm

end Record

/-! ## Variants -/

namespace Tagged

variable {tagged : Tagged σ}

theorem tagDecoder_ofValue {name : String} {variant : Record σ}
    (hvariant : Dictionary.lookup? name tagged.variants = some variant) :
    tagged.tagDecoder.ofValue (.text name) = .ok variant := by
  simp only [tagDecoder, Decoder.scalar, hvariant]

/-! ### Variants from generic values -/

/-- Members other than the tag are kept in their order. -/
theorem ofMembersFrom_append (found : Option (Record σ)) {members : List (String × Value)}
    (hnot : tagged.tag ∉ members.map (·.1)) (kept rest : List (String × Value)) :
    tagged.ofMembersFrom found kept (members ++ rest) =
      tagged.ofMembersFrom found (kept ++ members) rest := by
  induction members generalizing kept with
  | nil => rw [List.nil_append, List.append_nil]
  | cons member members ih =>
    rw [List.map_cons, List.mem_cons, not_or] at hnot
    rw [List.cons_append, ofMembersFrom, if_neg (Ne.symm hnot.1), ih hnot.2, List.append_assoc]
    rfl

/-- The tag can stand anywhere among the other members. -/
theorem ofMembersFrom_tag {name : String} {variant : Record σ}
    (hvariant : Dictionary.lookup? name tagged.variants = some variant)
    {before after : List (String × Value)} (hbefore : tagged.tag ∉ before.map (·.1))
    (hafter : tagged.tag ∉ after.map (·.1)) :
    tagged.ofMembersFrom none [] (before ++ (tagged.tag, .text name) :: after) =
      variant.ofMembers (before ++ after) := by
  have hend := ofMembersFrom_append (some variant) hafter before []
  rw [List.append_nil] at hend
  rw [ofMembersFrom_append none hbefore, List.nil_append, ofMembersFrom, if_pos rfl,
    tagDecoder_ofValue hvariant]
  exact hend

/-- Members that make a variant are decoded as it, with the tag anywhere among them. -/
theorem ofMembersFrom_of_sets {name : String} {variant : Record σ}
    (hvariant : Dictionary.lookup? name tagged.variants = some variant)
    {members all : List (String × Value)} {change : σ → σ} (hsets : variant.Sets members change)
    (hadmits : variant.Admits (members.map (·.1))) (hnot : tagged.tag ∉ members.map (·.1))
    (hcommutes : variant.fields.Pairwise Field.Commutes)
    (hperm : all.Perm ((tagged.tag, .text name) :: members)) :
    tagged.ofMembersFrom none [] all = .ok (change variant.start) := by
  obtain ⟨before, after, rfl⟩ := List.append_of_mem (hperm.mem_iff.mpr List.mem_cons_self)
  have hothers : (before ++ after).Perm members := (List.perm_middle.symm.trans hperm).cons_inv
  rw [← (hothers.map (·.1)).mem_iff, List.map_append, List.mem_append, not_or] at hnot
  rw [ofMembersFrom_tag hvariant hnot.1 hnot.2]
  exact hsets.ofMembers hadmits hcommutes hothers

/-! ### Variants from text -/

theorem takes_tag {depth : Nat} {text : List UInt8} {variant : Record σ}
    (hreads : Reads (tagged.tagDecoder.reader depth) text variant)
    (kept : List (String × Value)) :
    (tagged.keepStep depth).Takes (none, kept) tagged.tag text (some variant, kept) := by
  rintro blanks padded b rest hblanks ⟨before, after, hbefore, hafter, rfl⟩ hends
  have hread := hreads before (after ++ b :: rest) hbefore (Ends.blanks_append hafter hends)
  refine ⟨after, hafter, ?_⟩
  simp only [keepStep, Option.isSome_none, Bool.false_eq_true, and_false, if_false,
    readColon_blanks hblanks, if_true, List.append_assoc, hread]

theorem takes_kept {depth : Nat} {key : String} {text : List UInt8} {value : Value}
    (hkey : key ≠ tagged.tag) (hreads : Reads (Decoder.valueReader depth) text value)
    (found : Option (Record σ)) (kept : List (String × Value)) :
    (tagged.keepStep depth).Takes (found, kept) key text (found, kept ++ [(key, value)]) := by
  rintro blanks padded b rest hblanks ⟨before, after, hbefore, hafter, rfl⟩ hends
  have hread := hreads before (after ++ b :: rest) hbefore (Ends.blanks_append hafter hends)
  refine ⟨after, hafter, ?_⟩
  simp only [keepStep, hkey, false_and, if_false, readColon_blanks hblanks, List.append_assoc,
    hread]

/-- Members other than the tag are kept as they are read. -/
theorem takesAll_kept {depth : Nat} {members : List (String × Value)}
    (hwritable : ∀ member ∈ members, member.2.IsWritable depth)
    (hnot : tagged.tag ∉ members.map (·.1)) (found : Option (Record σ))
    (kept : List (String × Value)) :
    (tagged.keepStep depth).TakesAll (found, kept)
      (members.map fun member => (member.1, member.2.bytes))
      (found, kept ++ Value.sortedMembers members) := by
  -- the members are kept as generic values, which is where their own members are sorted
  induction members generalizing kept with
  | nil =>
    rw [Value.sortedMembers, List.append_nil]
    exact .nil _
  | cons member members ih =>
    rw [List.map_cons, List.mem_cons, not_or] at hnot
    have hrest := ih (fun other hmem => hwritable other (List.mem_cons_of_mem _ hmem)) hnot.2
      (kept ++ [(member.1, member.2.sorted)])
    rw [List.append_assoc, List.singleton_append] at hrest
    exact .cons (takes_kept (Ne.symm hnot.1) (hwritable member List.mem_cons_self).reads found kept)
      hrest

/-- The brace of an object leads to its tag and its other members. -/
theorem contentReader_object (depth : Nat) {before : List UInt8} (hbefore : Blanks before)
    (text : List UInt8) :
    (tagged.contentReader (depth + 1)).read (before ++ Byte.openBrace :: text) =
      closeObject (tagged.readNamed depth text) := by
  have hfront : dropBlanks (before ++ Byte.openBrace :: text) = Byte.openBrace :: text :=
    dropBlanks_blanks_cons hbefore (by decide) text
  simp only [contentReader, Decoder.arrayOr, Decoder.objectReader, Decoder.readObject, hfront]
  rfl

/-- An object is read as the variant of its tag if the other members are decoded as it. -/
theorem reads_of_takesAll {depth : Nat} {text : List UInt8} {members : List (String × List UInt8)}
    (hobject : IsObject text members) {variant : Record σ} {kept : List (String × Value)}
    (htakes : (tagged.keepStep depth).TakesAll (none, []) members (some variant, kept))
    {result : σ} (hmembers : variant.ofMembers kept = .ok result) :
    Reads (tagged.decoder.reader (depth + 1)) text result := by
  intro before rest hbefore _
  obtain ⟨inner, rfl⟩ := hobject.front
  have hcontent : (tagged.contentReader (depth + 1)).read
      (before ++ (Byte.openBrace :: inner ++ rest)) = .ok ((variant, .members kept), rest) := by
    rw [List.cons_append, contentReader_object depth hbefore, readNamed,
      readMembers_of_isObject hobject htakes]
    simp only [closeObject, endObject_closing]
  simp only [decoder, hcontent, ofContent, hmembers]

/-- A variant whose fields commute is restored from its tag and the members that assign to its
parts. -/
theorem restores_of_assigns {name : String} {variant : Record σ}
    (hvariant : Dictionary.lookup? name tagged.variants = some variant) {depth : Nat}
    {members : List (String × Value)} {change : σ → σ}
    (hassigns : variant.Assigns depth members change)
    (hadmits : variant.Admits (members.map (·.1))) (hnot : tagged.tag ∉ members.map (·.1))
    (hcommutes : variant.fields.Pairwise Field.Commutes) :
    tagged.decoder.Restores (depth + 1) (.object ((tagged.tag, .text name) :: members))
      (change variant.start) := by
  have hwritable : ∀ member ∈ (tagged.tag, Value.text name) :: members,
      member.2.IsWritable depth :=
    List.forall_mem_cons.mpr ⟨.text depth name, hassigns.writable⟩
  have hkeys := Value.sortedMembers_keys members
  rw [← hkeys] at hadmits
  refine ⟨.object hwritable, ?_, ?_⟩
  · -- in the text the tag stands in front
    have hobject := Value.isObject_bytes fun member hmem => (hwritable member hmem).isValue
    have htag : Reads (tagged.tagDecoder.reader depth) (Value.text name).bytes variant := by
      rw [Value.bytes_text]
      exact (isScalar_text (spells_contentOf name)).reads (tagDecoder_ofValue hvariant) _
    have htakes := takesAll_kept hassigns.writable hnot (some variant) []
    exact reads_of_takesAll hobject (.cons (takes_tag htag []) htakes)
      (hassigns.sets.ofMembers hadmits hcommutes (List.Perm.refl _))
  · -- in the generic value the tag stands by its key, somewhere among the others
    rw [← hkeys] at hnot
    have hkept : ((tagged.tag :: (Value.sortedMembers members).map (·.1))).Nodup :=
      List.nodup_cons.mpr ⟨hnot, hadmits.nodup⟩
    have hperm : (Dictionary.ofPairs
        ((tagged.tag, Value.text name) :: Value.sortedMembers members)).Perm _ :=
      Dictionary.perm_ofPairs hkept
    rw [Value.sorted, Value.sortedMembers, Value.sorted]
    exact ofMembersFrom_of_sets hvariant hassigns.sets hadmits hnot hcommutes hperm

end Tagged

end

/-! ## Round trips -/

/-- Whether a reader gets back all that a writer writes. Then whatever a text is read as is written
as a text that is read alike, and no two things are written alike. -/
structure RoundTrips {ε α : Type} (read : List UInt8 → Except ε α) (write : α → Value) :
    Prop where
  restored : ∀ thing, read (Text.encodeUtf8 (write thing).written) = .ok thing
  rewritten : ∀ body thing, read body = .ok thing →
    read (Text.encodeUtf8 (write thing).written) = .ok thing
  injective : ∀ thing other, (write thing).written = (write other).written → thing = other

/-- It is enough that everything is restored. -/
theorem roundTrips_of_restored {ε α : Type} {read : List UInt8 → Except ε α} {write : α → Value}
    (hrestored : ∀ thing, read (Text.encodeUtf8 (write thing).written) = .ok thing) :
    RoundTrips read write where
  restored := hrestored
  rewritten _ thing _ := hrestored thing
  injective thing other hwritten := by
    have hthing := hrestored thing
    rw [hwritten, hrestored other] at hthing
    exact (Except.ok.inj hthing).symm

/-- The round trip of a list from those of its items. -/
theorem roundTrips_list {α : Type} {item : Decoder α} {write : α → Value}
    (hitems : ∀ depth thing, item.Restores (depth + 1) (write thing) thing) :
    RoundTrips item.list.decode fun things => .array (things.map write) :=
  roundTrips_of_restored fun _ =>
    (Decoder.restores_list fun thing _ => hitems 125 thing).decode

end ChatSteward.Json
