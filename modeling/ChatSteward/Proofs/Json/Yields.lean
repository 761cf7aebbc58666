import ChatSteward.Proofs.Json.Restoring

/-!
# What generic values can be read

Not every generic value is read from a text. A value that is read keeps the members of its objects
by their keys, nests no deeper than its reader allows, and its numbers are within their bounds. So
sorting leaves it as it is, and what is written for it is read again at the same depth.

## Main definitions

* `Reader.Yields` — whatever a reader reads has a property
* `Value.IsRead` — values as they are read

## Main results

* `Record.yields_decoder` — what the fields of a record keep
* `Value.yields_valueReader` — generic values are read as such
* `Value.IsRead.sorted` — they are sorted already
* `Value.IsRead.fits` — their numbers and their depth are within their bounds
* `Value.IsWritable.sorted_sorted` — sorting twice is sorting once
-/

namespace ChatSteward.Json

/-- Whether whatever a reader reads has a property. -/
def Reader.Yields {α : Type} (reader : Reader α) (admits : α → Prop) : Prop :=
  ∀ bytes value rest, reader.read bytes = .ok (value, rest) → admits value

/-! ## Numbers -/

theorem fractionOf_bounded {negative : Bool} {significand : Nat} {exponent : Int}
    {rest rest' : List UInt8} {n : Number}
    (hread : fractionOf negative significand exponent rest = .ok (n, rest')) : n.IsBounded := by
  unfold fractionOf at hread
  split at hread
  case h_1 hx =>
    cases hread
    exact .fraction (Binary64.isBounded_of_ofParts? hx)
  case h_2 => simp [stopHere] at hread

theorem readExponent_bounded {negative : Bool} {significand : Nat} {start : Int}
    {bytes rest : List UInt8} {n : Number}
    (hread : readExponent negative significand start bytes = .ok (n, rest)) : n.IsBounded := by
  unfold readExponent at hread
  split at hread
  · simp [stopHere] at hread
  · split at hread
    · simp only at hread
      split at hread
      · exact fractionOf_bounded hread
      · split at hread
        · simp [stopHere] at hread
        · cases hread
          exact .fraction (Binary64.isBounded_zero.withSign negative)
    · simp [stopHere] at hread

theorem readFraction_bounded {negative : Bool} {significand : Nat} {exponent : Int}
    {bytes rest : List UInt8} {n : Number}
    (hread : readFraction negative significand exponent bytes = .ok (n, rest)) :
    n.IsBounded := by
  unfold readFraction at hread
  simp only at hread
  split at hread
  · simp [stopAhead] at hread
  · split at hread
    · exact readExponent_bounded hread
    · exact readExponent_bounded hread
    · exact fractionOf_bounded hread

/-- An integer of a whole part fits 64 bits, with a sign or without. -/
theorem wholeOf_bounded {negative : Bool} {significand : Nat} {n : Number}
    {rest rest' : List UInt8} (hfits : significand ≤ greatestUnsigned)
    (hread : wholeOf negative significand rest = .ok (n, rest')) : n.IsBounded := by
  unfold wholeOf at hread
  split at hread
  · cases hread
    exact .integer (by omega) (by omega)
  · split at hread
    case isTrue => exact fractionOf_bounded hread
    case isFalse hsmall =>
      cases hread
      exact .integer (by omega) (by omega)

theorem readAfterWhole_bounded {negative : Bool} {significand powers : Nat} {n : Number}
    {rest rest' : List UInt8} (hfits : significand ≤ greatestUnsigned)
    (hread : readAfterWhole negative significand powers rest = .ok (n, rest')) :
    n.IsBounded := by
  unfold readAfterWhole at hread
  split at hread
  · exact readFraction_bounded hread
  · exact readExponent_bounded hread
  · exact readExponent_bounded hread
  · split at hread
    · exact wholeOf_bounded hfits hread
    · exact fractionOf_bounded hread

theorem readUnsigned_bounded {negative : Bool} {n : Number} {bytes rest : List UInt8}
    (hread : readUnsigned negative bytes = .ok (n, rest)) : n.IsBounded := by
  have hzero : 0 ≤ greatestUnsigned := Nat.zero_le _
  unfold readUnsigned at hread
  split at hread
  · simp [stopHere] at hread
  case h_2 first tail =>
    split at hread
    · split at hread
      · exact readAfterWhole_bounded hzero hread
      · simp [stopAhead] at hread
    · split at hread
      · have habsorb := absorb_le hzero (first :: leadingDigits tail)
        exact readAfterWhole_bounded habsorb hread
      · simp [stopHere] at hread

/-- A number that is read is within its bounds. -/
theorem readNumber_bounded {n : Number} {bytes rest : List UInt8}
    (hread : readNumber bytes = .ok (n, rest)) : n.IsBounded := by
  unfold readNumber at hread
  split at hread
  · exact readUnsigned_bounded hread
  · exact readUnsigned_bounded hread

/-! ## Readers -/

section

variable {α β : Type}

theorem Reader.Yields.map {reader : Reader α} {f : α → β} {admits : β → Prop}
    (hyields : reader.Yields fun value => admits (f value)) : (reader.map f).Yields admits := by
  intro bytes result rest hread
  simp only [Reader.map] at hread
  split at hread
  case h_1 hvalue =>
    cases hread
    exact hyields _ _ _ hvalue
  case h_2 => cases hread

theorem yields_arrayOr {onArray other : Reader α} {admits : α → Prop}
    (harray : onArray.Yields admits) (hother : other.Yields admits) :
    (Decoder.arrayOr onArray other).Yields admits := by
  intro bytes value rest hread
  simp only [Decoder.arrayOr] at hread
  split at hread
  · exact harray _ _ _ hread
  · exact hother _ _ _ hread

theorem yields_objectOr {onObject other : Reader α} {admits : α → Prop}
    (hobject : onObject.Yields admits) (hother : other.Yields admits) :
    (Decoder.objectOr onObject other).Yields admits := by
  intro bytes value rest hread
  simp only [Decoder.objectOr] at hread
  split at hread
  · exact hobject _ _ _ hread
  · exact hother _ _ _ hread

/-- An array is read with what is read inside of it, and only if it may be opened. -/
theorem yields_arrayReader {expected : String} {depth : Nat} {inside : List UInt8 → Reading α}
    (hinside : ∀ {bytes value rest}, inside bytes = .ok (value, rest) →
      rest.length ≤ bytes.length) {admits : α → Prop}
    (hyields : depth ≠ 0 → ∀ bytes value rest, inside bytes = .ok (value, rest) → admits value) :
    (Decoder.arrayReader expected depth inside hinside).Yields admits := by
  intro bytes value rest hread
  simp only [Decoder.arrayReader, Decoder.readArray] at hread
  split at hread
  · simp [stopAhead] at hread
  · split at hread
    · split at hread
      · simp [stopAhead] at hread
      case isFalse hdepth =>
        obtain ⟨within, hvisited, -⟩ := closeArray_shrinks hread
        exact hyields hdepth _ _ _ hvisited
    · exact absurd hread readMismatch_ne_ok

/-- An object is read with what is read inside of it, and only if it may be opened. -/
theorem yields_objectReader {expected : String} {depth : Nat} {inside : List UInt8 → Reading α}
    (hinside : ∀ {bytes value rest}, inside bytes = .ok (value, rest) →
      rest.length ≤ bytes.length) {admits : α → Prop}
    (hyields : depth ≠ 0 → ∀ bytes value rest, inside bytes = .ok (value, rest) → admits value) :
    (Decoder.objectReader expected depth inside hinside).Yields admits := by
  intro bytes value rest hread
  simp only [Decoder.objectReader, Decoder.readObject] at hread
  split at hread
  · simp [stopAhead] at hread
  · split at hread
    · split at hread
      · simp [stopAhead] at hread
      case isFalse hdepth =>
        obtain ⟨within, hvisited, -⟩ := closeObject_shrinks hread
        exact hyields hdepth _ _ _ hvisited
    · exact absurd hread readMismatch_ne_ok

theorem forall_of_readItemsFrom {item : Reader α} {admits : α → Prop}
    (hitem : item.Yields admits) {bytes rest : List UInt8} {values : List α}
    (hread : readItemsFrom item bytes = .ok (values, rest)) : ∀ value ∈ values, admits value := by
  fun_induction readItemsFrom item bytes generalizing values rest with
  | case1 | case2 | case4 => cases hread
  | case3 bytes value rest₁ hfirst rest₂ hnext =>
    cases hread
    exact List.forall_mem_singleton.mpr (hitem _ _ _ hfirst)
  | case5 bytes value rest₁ hfirst rest₂ hnext values' rest₃ hrest ih =>
    cases hread
    exact List.forall_mem_cons.mpr ⟨hitem _ _ _ hfirst, ih hrest⟩

/-- All items are what the reader of one yields. -/
theorem forall_of_readItems {item : Reader α} {admits : α → Prop} (hitem : item.Yields admits)
    {bytes rest : List UInt8} {values : List α}
    (hread : readItems item bytes = .ok (values, rest)) : ∀ value ∈ values, admits value := by
  unfold readItems at hread
  split at hread
  · cases hread
  · cases hread
    exact fun _ hmem => absurd hmem List.not_mem_nil
  · exact forall_of_readItemsFrom hitem hread

theorem invariant_of_readMembersFrom {σ : Type} {step : MemberStep σ} (holds : σ → Prop)
    (hstep : ∀ state key bytes state' rest, holds state →
      step.take state key bytes = .ok (state', rest) → holds state')
    {state state' : σ} {key : String} {bytes rest : List UInt8} (hstate : holds state)
    (hread : readMembersFrom step state key bytes = .ok (state', rest)) : holds state' := by
  fun_induction readMembersFrom step state key bytes generalizing state' rest with
  | case1 | case2 => cases hread
  | case3 state key bytes state₁ rest₁ htake rest₂ hnext =>
    cases hread
    exact hstep _ _ _ _ _ hstate htake
  | case4 state key bytes state₁ rest₁ htake key₂ rest₂ hnext ih =>
    exact ih (hstep _ _ _ _ _ hstate htake) hread

/-- What every member keeps, all members keep. -/
theorem invariant_of_readMembers {σ : Type} {step : MemberStep σ} (holds : σ → Prop)
    (hstep : ∀ state key bytes state' rest, holds state →
      step.take state key bytes = .ok (state', rest) → holds state')
    {state state' : σ} {bytes rest : List UInt8} (hstate : holds state)
    (hread : readMembers step state bytes = .ok (state', rest)) : holds state' := by
  unfold readMembers at hread
  split at hread
  · cases hread
  · cases hread
    exact hstate
  · exact invariant_of_readMembersFrom holds hstep hstate hread

/-- The entries of a map are what the reader of one yields, each key once. -/
theorem entries_of_readMembers {item : Reader α} {admits : α → Prop} (hitem : item.Yields admits)
    {bytes rest : List UInt8} {map : List (String × α)}
    (hread : readMembers (Decoder.insertStep item) [] bytes = .ok (map, rest)) :
    Dictionary.Rising map ∧ ∀ pair ∈ map, admits pair.2 := by
  refine invariant_of_readMembers
    (fun map => Dictionary.Rising map ∧ ∀ pair ∈ map, admits pair.2) ?_ ⟨.nil, by simp⟩ hread
  intro map key bytes map' rest ⟨hrising, hentries⟩ htake
  simp only [Decoder.insertStep] at htake
  split at htake
  · cases htake
  · split at htake
    · cases htake
    case h_2 value rest' hvalue =>
      cases htake
      refine ⟨Dictionary.rising_insert hrising, fun pair hmem => ?_⟩
      rcases Dictionary.mem_insert hmem with rfl | hmem
      · exact hitem _ _ _ hvalue
      · exact hentries pair hmem

/-- What is decoded of a text is what the reader yields. -/
theorem Reader.Yields.of_decode {decoder : Decoder α} {admits : α → Prop}
    (hyields : (decoder.reader Decoder.greatestDepth).Yields admits) {bytes : List UInt8}
    {value : α} (hdecode : decoder.decode bytes = .ok value) : admits value := by
  unfold Decoder.decode at hdecode
  split at hdecode
  · cases hdecode
  case h_2 hread =>
    split at hdecode
    · cases hdecode
      exact hyields _ _ _ hread
    · cases hdecode

end

/-! ## Records -/

namespace Record

variable {σ : Type} {record : Record σ} {depth : Nat} {holds : σ → Prop}

theorem invariant_of_readListed {fields : List (Field σ)}
    (hfields : ∀ field ∈ fields, (field.decoder.reader depth).Yields fun set =>
      ∀ state, holds state → holds (set state))
    {index : Nat} {state state' : σ} (hstate : holds state)
    {next : List UInt8 → Reading Bool} {bytes rest : List UInt8}
    (hread : record.readListed depth fields index state next bytes = .ok (state', rest)) :
    holds state' := by
  induction fields generalizing index state next bytes with
  | nil =>
    cases hread
    exact hstate
  | cons field fields ih =>
    obtain ⟨hfield, hrest⟩ := List.forall_mem_cons.mp hfields
    rw [readListed] at hread
    split at hread
    · cases hread
    · split at hread
      · exact ih hrest hstate hread
      · cases hread
    · split at hread
      · cases hread
      case h_2 hset => exact ih hrest (hfield _ _ _ hset _ hstate) hread

theorem invariant_of_readNamed
    (hfields : ∀ field ∈ record.fields, (field.decoder.reader depth).Yields fun set =>
      ∀ state, holds state → holds (set state))
    (hstart : holds record.start) {bytes rest : List UInt8} {state : σ}
    (hread : record.readNamed depth bytes = .ok (state, rest)) : holds state := by
  have hstep (state : σ × List String) (key : String) (bytes : List UInt8)
      (state' : σ × List String) (rest : List UInt8) (hstate : holds state.1)
      (htake : (record.setStep depth).take state key bytes = .ok (state', rest)) :
      holds state'.1 := by
    simp only [setStep] at htake
    split at htake
    case h_1 field hfield =>
      -- the member of a field sets it
      split at htake
      · cases htake
      · split at htake
        · cases htake
        · split at htake
          · cases htake
          case h_2 hset =>
            cases htake
            exact hfields field (mem_of_field? hfield).1 _ _ _ hset _ hstate
    case h_2 =>
      -- any other member is passed over
      split at htake
      · cases htake
      · split at htake
        · cases htake
        · cases htake
          exact hstate
  unfold readNamed at hread
  split at hread
  · cases hread
  case h_2 hmembers =>
    split at hread
    · cases hread
    · cases hread
      exact invariant_of_readMembers (fun state => holds state.1) hstep hstart hmembers

/-- A record keeps what its start has and its fields keep, be it read from an object or from an
array. -/
theorem yields_decoder (record : Record σ) (depth : Nat) (holds : σ → Prop)
    (hfields : ∀ field ∈ record.fields, (field.decoder.reader depth).Yields fun set =>
      ∀ state, holds state → holds (set state))
    (hstart : holds record.start) : (record.decoder.reader (depth + 1)).Yields holds :=
  yields_arrayOr
    (yields_arrayReader (readListed_shrinks firstItem_shrinks)
      fun _ _ _ _ hread => invariant_of_readListed hfields hstart hread)
    (yields_objectReader readNamed_shrinks
      fun _ _ _ _ hread => invariant_of_readNamed hfields hstart hread)

end Record

namespace Value

/-! ## Generic values -/

/-- Values as they are read: the keys of objects rise, and numbers are within their bounds. They
nest no deeper than allowed. -/
inductive IsRead : Nat → Value → Prop where
  | null (depth : Nat) : IsRead depth .null
  | boolean (depth : Nat) (b : Bool) : IsRead depth (.boolean b)
  | number (depth : Nat) {n : Number} (hbounded : n.IsBounded) : IsRead depth (.number n)
  | text (depth : Nat) (s : String) : IsRead depth (.text s)
  | array {depth : Nat} {items : List Value} (hitems : ∀ item ∈ items, IsRead depth item) :
      IsRead (depth + 1) (.array items)
  | object {depth : Nat} {members : List (String × Value)} (hrising : Dictionary.Rising members)
      (hmembers : ∀ member ∈ members, IsRead depth member.2) :
      IsRead (depth + 1) (.object members)

theorem IsRead.fits {depth : Nat} {value : Value} (hread : value.IsRead depth) :
    value.Fits depth := by
  induction hread with
  | null => exact .null _
  | boolean => exact .boolean _ _
  | number depth hbounded => exact .number depth hbounded
  | text => exact .text _ _
  | array _ ih => exact .array ih
  | object _ _ ih => exact .object ih

theorem isRead_of_readScalar (depth : Nat) {first : UInt8} {rest rest' : List UInt8} {value : Value}
    (hread : readScalar first rest = .ok (value, rest')) : IsRead depth value := by
  unfold readScalar at hread
  -- one case for each byte that a scalar can start with
  repeat' split at hread
  all_goals cases hread
  · exact .null depth
  · exact .boolean depth true
  · exact .boolean depth false
  · exact .text depth _
  case h_1.refl n hnumber => exact .number depth (readNumber_bounded hnumber)

/-- Scalars are read as values that need no depth. -/
theorem yields_scalarValueReader (depth : Nat) :
    Decoder.scalarValueReader.Yields (IsRead depth) := by
  intro bytes value rest hread
  simp only [Decoder.scalarValueReader, scalarReader, readChecked] at hread
  split at hread
  · simp [stopAhead] at hread
  case h_2 first tail hfront =>
    split at hread
    · exact absurd hread readMismatch_ne_ok
    · split at hread
      · cases hread
      case h_2 hscalar =>
        cases hread
        exact isRead_of_readScalar depth hscalar

/-- Generic values are read with their members by their keys. -/
theorem yields_valueReader (depth : Nat) : (Decoder.valueReader depth).Yields (IsRead depth) := by
  have hwith {depth : Nat} {inner : Reader Value}
      (harrays : depth ≠ 0 → ∃ less, depth = less + 1 ∧ inner.Yields (IsRead less)) :
      (Decoder.valueReaderWith depth inner).Yields (IsRead depth) := by
    refine yields_arrayOr ?_ (yields_objectOr ?_ (yields_scalarValueReader depth))
    · refine Reader.Yields.map
        (yields_arrayReader readItems_shrinks fun hdepth bytes items rest hread => ?_)
      obtain ⟨less, rfl, hinner⟩ := harrays hdepth
      exact .array (forall_of_readItems hinner hread)
    · refine Reader.Yields.map
        (yields_objectReader readMembers_shrinks fun hdepth bytes members rest hread => ?_)
      obtain ⟨less, rfl, hinner⟩ := harrays hdepth
      obtain ⟨hrising, hmembers⟩ := entries_of_readMembers hinner hread
      exact .object hrising hmembers
  -- at the last level no array and no object may be opened
  induction depth with
  | zero => exact hwith fun hdepth => absurd rfl hdepth
  | succ depth ih => exact hwith fun _ => ⟨depth, rfl, ih⟩

/-- Sorting leaves a value that was read as it is. -/
theorem IsRead.sorted {depth : Nat} {value : Value} (hread : value.IsRead depth) :
    value.sorted = value := by
  induction hread with
  | null | boolean | number | text => rfl
  | @array depth items _ ih =>
    rw [Value.sorted, sortedItems_eq_map, List.map_congr_left ih, List.map_id']
  | @object depth members hrising _ ih =>
    have hmembers : sortedMembers members = members := by
      rw [sortedMembers_eq_map]
      refine (List.map_congr_left fun member hmem => ?_).trans (List.map_id' members)
      rw [ih member hmem]
    rw [Value.sorted, hmembers, Dictionary.ofPairs_of_rising hrising]

/-- Sorting a value leaves it as writable as it was. -/
theorem IsWritable.sorted {depth : Nat} {value : Value} (hwritable : value.IsWritable depth) :
    value.sorted.IsWritable depth := by
  induction hwritable with
  | null => exact .null _
  | boolean => exact .boolean _ _
  | integer depth hlow hhigh => exact .integer depth hlow hhigh
  | text => exact .text _ _
  | array _ ih =>
    -- sorting neither adds an item or a member nor opens a level
    rw [Value.sorted, sortedItems_eq_map]
    refine .array fun item hmem => ?_
    obtain ⟨item, hitem, rfl⟩ := List.mem_map.mp hmem
    exact ih item hitem
  | object _ ih =>
    rw [Value.sorted, sortedMembers_eq_map]
    refine .object fun member hmem => ?_
    obtain ⟨member, hmember, rfl⟩ := List.mem_map.mp (Dictionary.mem_of_mem_ofPairs hmem)
    exact ih member hmember

/-- What is sorted is what would be read of the text of a value. -/
theorem IsWritable.isRead_sorted {depth : Nat} {value : Value}
    (hwritable : value.IsWritable depth) : value.sorted.IsRead depth :=
  yields_valueReader depth _ _ _ (hwritable.reads [] [] blanks_nil ends_nil)

/-- Sorting twice is sorting once. -/
theorem IsWritable.sorted_sorted {depth : Nat} {value : Value}
    (hwritable : value.IsWritable depth) : value.sorted.sorted = value.sorted :=
  hwritable.isRead_sorted.sorted

end Value

end ChatSteward.Json
