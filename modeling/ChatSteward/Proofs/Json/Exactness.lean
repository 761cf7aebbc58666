import ChatSteward.Json.Record
import ChatSteward.Proofs.Json.Passing

/-!
# Exact readings

A reader that takes a value of some type ends where passing over the value ends: a reading that
succeeds uses up one value, no less and no more. So whatever the members of an object are decoded
as, the members behind them are found at the same place.

## Main definitions

* `Reader.IsExact`, `Decoder.IsExact`, `Record.IsExact` — readings that use up one value
* `MemberStep.IsExact` — steps that use up one member

## Main results

* `Record.isExact_decoder` — records are read exactly if their fields are
* `Decoder.isExact_list`, `Decoder.isExact_value`, and the like — so are values of other types
-/

namespace ChatSteward.Json

/-- Whether every reading that succeeds uses up the value at the front. -/
def Reader.IsExact {α : Type} (reader : Reader α) : Prop :=
  ∀ bytes value rest, reader.read bytes = .ok (value, rest) → skipValue bytes = .ok rest

/-- Whether every reading that succeeds uses up the value at the front, at every depth. -/
def Decoder.IsExact {α : Type} (decoder : Decoder α) : Prop :=
  ∀ depth, (decoder.reader depth).IsExact

/-- Whether every field of a record is read exactly. -/
def Record.IsExact {σ : Type} (record : Record σ) : Prop :=
  ∀ field ∈ record.fields, field.decoder.IsExact

/-- Whether every step that succeeds uses up the rest of the member at the front. -/
def MemberStep.IsExact {σ : Type} (step : MemberStep σ) : Prop :=
  ∀ state key bytes state' rest, step.take state key bytes = .ok (state', rest) →
    (readColon bytes).bind skipValue = .ok rest

/-! ## Strings -/

theorem readHex_skip {bytes rest : List UInt8} {n : Nat} (hread : readHex bytes = .ok (n, rest)) :
    skipEscape (Byte.letterU :: bytes) = .ok rest := by
  have hletter : letterEscape? Byte.letterU = none := by decide
  rw [skipEscape, hletter]
  simp [hread]

/-- Two escapes that make up a pair are passed over one after the other. -/
theorem readTrailing_skip {bytes rest : List UInt8} {n : Nat}
    (hread : readTrailing bytes = .ok (n, rest)) : skipText bytes = skipText rest := by
  unfold readTrailing at hread
  split at hread
  case h_3 tail =>
    split at hread
    · cases hread
    case h_2 unit rest' hhex =>
      split at hread
      · cases hread
        exact skipText_escape (readHex_skip hhex)
      · simp [stopHere] at hread
  all_goals simp [stopHere] at hread

theorem readNumericEscape_skip {bytes rest escaped : List UInt8}
    (hread : readNumericEscape bytes = .ok (escaped, rest)) :
    skipText (Byte.backslash :: Byte.letterU :: bytes) = skipText rest := by
  unfold readNumericEscape at hread
  split at hread
  · cases hread
  case h_2 unit rest' hhex =>
    rw [skipText_escape (readHex_skip hhex)]
    split at hread
    · simp [stopHere] at hread
    · split at hread
      · split at hread
        · cases hread
        case h_2 htrailing =>
          obtain ⟨-, rfl⟩ := Prod.mk.inj (Except.ok.inj hread)
          exact readTrailing_skip htrailing
      · obtain ⟨-, rfl⟩ := Prod.mk.inj (Except.ok.inj hread)
        rfl

theorem readEscape_skip {bytes rest escaped : List UInt8}
    (hread : readEscape bytes = .ok (escaped, rest)) :
    skipText (Byte.backslash :: bytes) = skipText rest := by
  unfold readEscape at hread
  split at hread
  · simp [stopHere] at hread
  case h_2 b tail =>
    split at hread
    case h_1 byte hletter =>
      cases hread
      exact skipText_escape (skipEscape_letter hletter _)
    case h_2 =>
      split at hread
      case isTrue hunit =>
        subst hunit
        exact readNumericEscape_skip hread
      case isFalse => simp [stopHere] at hread

/-- The content of a string ends at its closing quote. -/
theorem readContent_skip {bytes atQuote content : List UInt8}
    (hread : readContent bytes = .ok (content, atQuote)) :
    skipText bytes = .ok (atQuote.drop 1) := by
  fun_induction readContent bytes generalizing content atQuote with
  | case1 => simp [stopHere] at hread
  | case2 rest =>
    cases hread
    exact skipText_quote rest
  | case3 => cases hread
  | case4 => cases hread
  | case5 tail escaped rest' hescape content' atQuote' hcontent ih =>
    cases hread
    exact (readEscape_skip hescape).trans (ih hcontent)
  | case6 => simp [stopHere] at hread
  | case7 => cases hread
  | case8 b tail hquote hbackslash hcontrol content' atQuote' hcontent ih =>
    cases hread
    rw [skipText_plain hcontrol hquote hbackslash]
    exact ih hcontent

theorem readText_skip {bytes rest : List UInt8} {text : String}
    (hread : readText bytes = .ok (text, rest)) : skipText bytes = .ok rest := by
  unfold readText at hread
  split at hread
  · cases hread
  case h_2 hcontent =>
    split at hread
    · cases hread
      exact readContent_skip hcontent
    · cases hread

/-! ## Numbers -/

theorem readExponent_skip {negative : Bool} {significand : Nat} {start : Int}
    {bytes rest : List UInt8} {n : Number}
    (hread : readExponent negative significand start bytes = .ok (n, rest)) :
    skipExponent bytes = .ok rest := by
  unfold readExponent at hread
  rw [skipExponent]
  split at hread
  · simp [stopHere] at hread
  case h_2 falling first tail hsign =>
    rw [hsign]
    split at hread
    case isTrue hdigit =>
      simp only [hdigit, if_true]
      simp only at hread
      split at hread
      · rw [fractionOf_rest hread]
      · split at hread
        · simp [stopHere] at hread
        · cases hread
          rfl
    case isFalse => simp [stopHere] at hread

theorem readFraction_skip {negative : Bool} {significand : Nat} {exponent : Int}
    {bytes rest : List UInt8} {n : Number}
    (hread : readFraction negative significand exponent bytes = .ok (n, rest)) :
    skipAfterWhole (Byte.point :: bytes) = .ok rest := by
  unfold readFraction at hread
  simp only at hread
  split at hread
  · simp [stopAhead] at hread
  case isFalse hdigits =>
    split at hread
    case h_1 heq =>
      rw [skipAfterWhole_point, if_neg hdigits, heq]
      exact readExponent_skip hread
    case h_2 heq =>
      rw [skipAfterWhole_point, if_neg hdigits, heq]
      exact readExponent_skip hread
    case h_3 hlower hupper =>
      rw [skipAfterWhole_point, if_neg hdigits, fractionOf_rest hread]
      split
      case h_1 heq => exact absurd heq (hlower _)
      case h_2 heq => exact absurd heq (hupper _)
      case h_3 => rfl

theorem readAfterWhole_skip {negative : Bool} {significand powers : Nat}
    {bytes rest : List UInt8} {n : Number}
    (hread : readAfterWhole negative significand powers bytes = .ok (n, rest)) :
    skipAfterWhole bytes = .ok rest := by
  unfold readAfterWhole at hread
  split at hread
  case h_1 => exact readFraction_skip hread
  case h_2 => exact readExponent_skip hread
  case h_3 => exact readExponent_skip hread
  case h_4 hpoint hlower hupper =>
    have hend : rest = bytes := by
      split at hread
      · exact wholeOf_rest hread
      · exact fractionOf_rest hread
    rw [hend, skipAfterWhole.eq_def]
    split
    case h_1 => exact absurd rfl (hpoint _)
    case h_2 => exact absurd rfl (hlower _)
    case h_3 => exact absurd rfl (hupper _)
    case h_4 => rfl

theorem readUnsigned_skip {negative : Bool} {bytes rest : List UInt8} {n : Number}
    (hread : readUnsigned negative bytes = .ok (n, rest)) : skipUnsigned bytes = .ok rest := by
  unfold readUnsigned at hread
  split at hread
  · simp [stopHere] at hread
  case h_2 first tail =>
    rw [skipUnsigned]
    split at hread
    case isTrue hzero =>
      rw [if_pos hzero]
      split at hread
      case isTrue hnone =>
        rw [if_pos hnone]
        exact readAfterWhole_skip hread
      case isFalse => simp [stopAhead] at hread
    case isFalse hzero =>
      rw [if_neg hzero]
      split at hread
      case isTrue hdigit =>
        rw [if_pos hdigit]
        exact readAfterWhole_skip hread
      case isFalse => simp [stopHere] at hread

theorem readNumber_skip {bytes rest : List UInt8} {n : Number}
    (hread : readNumber bytes = .ok (n, rest)) : skipNumber bytes = .ok rest := by
  unfold readNumber at hread
  split at hread
  case h_1 => exact readUnsigned_skip hread
  case h_2 hminus =>
    rw [skipNumber.eq_def]
    split
    case h_1 => exact absurd rfl (hminus _)
    case h_2 => exact readUnsigned_skip hread

/-! ## Scalars -/

theorem readWord_skip {word bytes rest : List UInt8} {meaning value : Value}
    (hread : (match readWord word bytes with
      | .ok rest => .ok (meaning, rest)
      | .error stop => .error stop : Reading Value) = .ok (value, rest)) :
    readWord word bytes = .ok rest := by
  cases hword : readWord word bytes with
  | error stop =>
    rw [hword] at hread
    cases hread
  | ok rest' =>
    rw [hword] at hread
    cases hread
    rfl

theorem readScalar_skip {first : UInt8} {bytes rest : List UInt8} {value : Value}
    (hread : readScalar first bytes = .ok (value, rest)) : skipScalar first bytes = .ok rest := by
  -- the cases of both stand in the same order
  rw [readScalar] at hread
  rw [skipScalar]
  by_cases hnull : first = Byte.letterN
  · rw [if_pos hnull] at hread ⊢
    exact readWord_skip hread
  by_cases htrue : first = Byte.letterT
  · rw [if_neg hnull, if_pos htrue] at hread ⊢
    exact readWord_skip hread
  by_cases hfalse : first = Byte.letterF
  · rw [if_neg hnull, if_neg htrue, if_pos hfalse] at hread ⊢
    exact readWord_skip hread
  by_cases hquote : first = Byte.quote
  · rw [if_neg hnull, if_neg htrue, if_neg hfalse, if_pos hquote] at hread ⊢
    cases htext : readText bytes with
    | error stop =>
      rw [htext] at hread
      cases hread
    | ok read =>
      rw [htext] at hread
      cases hread
      exact readText_skip htext
  by_cases hnumber : first = Byte.minus ∨ Byte.isDigit first = true
  · rw [if_neg hnull, if_neg htrue, if_neg hfalse, if_neg hquote, if_pos hnumber] at hread ⊢
    cases hdigits : readNumber (first :: bytes) with
    | error stop =>
      rw [hdigits] at hread
      cases hread
    | ok read =>
      rw [hdigits] at hread
      cases hread
      exact readNumber_skip hdigits
  · rw [if_neg hnull, if_neg htrue, if_neg hfalse, if_neg hquote, if_neg hnumber] at hread
    cases hread

/-- Readers of scalars are exact. -/
theorem isExact_scalarReader {α : Type} (expected : String) (check : Value → Except Cause α) :
    (scalarReader expected check).IsExact := by
  intro bytes value rest hread
  change readChecked expected check bytes = .ok (value, rest) at hread
  unfold readChecked at hread
  split at hread
  · simp [stopAhead] at hread
  case h_2 first tail hfront =>
    rw [skipValue, skipWithin_eq, hfront]
    simp only
    split at hread
    case isTrue => exact absurd hread readMismatch_ne_ok
    case isFalse hscalar =>
      obtain ⟨hbracket, hbrace⟩ := not_or.mp hscalar
      rw [if_neg hbracket, if_neg hbrace]
      split at hread
      · cases hread
      case h_2 hvalue =>
        rw [readScalar_skip hvalue]
        split at hread
        · cases hread
          exact skipAfter_nil _
        · simp [stopHere] at hread

theorem Reader.IsExact.map {α β : Type} {reader : Reader α} (hexact : reader.IsExact)
    (f : α → β) : (reader.map f).IsExact := by
  intro bytes value rest hread
  simp only [Reader.map] at hread
  split at hread
  case h_1 hvalue =>
    cases hread
    exact hexact _ _ _ hvalue
  case h_2 => cases hread

theorem isExact_skipped : skipped.IsExact := by
  intro bytes value rest hread
  simp only [skipped] at hread
  split at hread
  case h_1 hskip =>
    cases hread
    exact hskip
  case h_2 => cases hread

/-! ## Items -/

/-- What is passed over alone is passed over within an enclosure. -/
theorem skipWithin_of_skipValue {bytes rest : List UInt8} (hskip : skipValue bytes = .ok rest)
    (around : List Enclosure) : skipWithin around bytes = skipAfter around rest := by
  have happend := skipWithin_append [] around bytes
  rw [List.nil_append] at happend
  rw [happend, ← skipValue, hskip]
  rfl

theorem endArray_front {bytes rest : List UInt8} (hend : endArray bytes = .ok rest) :
    dropBlanks bytes = Byte.closeBracket :: rest := by
  unfold endArray at hend
  split at hend
  case h_2 hfront =>
    cases hend
    exact hfront
  case h_3 => split at hend <;> simp [stopAhead] at hend
  all_goals simp [stopAhead] at hend

/-- What ends an array is passed over as its end. -/
theorem skipAfter_of_endArray {bytes rest : List UInt8} (hend : endArray bytes = .ok rest) :
    skipAfter [.array] bytes = .ok rest := by
  rw [skipAfter_cons, endArray_front hend, ← skipAfter_nil rest]
  rfl

/-- What is the end of an array to begin with is one still when blanks are dropped. -/
@[simp] theorem endArray_closing (rest : List UInt8) :
    endArray (Byte.closeBracket :: rest) = .ok rest := by
  rw [endArray, dropBlanks_cons (by decide)]
  rfl

/-- The first item is where passing over looks for it. -/
theorem firstItem_skip {bytes rest : List UInt8} {more : Bool}
    (hfirst : firstItem bytes = .ok (more, rest)) :
    (more = true → skipOpened .array [] bytes = skipMember .array [] rest) ∧
      (more = false → ∃ after, rest = Byte.closeBracket :: after ∧
        skipOpened .array [] bytes = .ok after) := by
  unfold firstItem at hfirst
  split at hfirst
  case h_1 => simp [stopAhead] at hfirst
  case h_2 after hfront =>
    cases hfirst
    refine ⟨by simp, fun _ => ⟨after, rfl, ?_⟩⟩
    rw [skipOpened_closing hfront, skipAfter_nil]
  case h_3 hnil hclosing =>
    cases hfirst
    refine ⟨fun _ => ?_, by simp⟩
    -- something is there, and it does not close the array
    cases hfront : dropBlanks bytes with
    | nil => exact absurd hfront hnil
    | cons b tail =>
      have hopen : b ≠ Enclosure.array.closing := by
        rintro rfl
        exact hclosing _ hfront
      rw [skipOpened_of_member hfront hopen, ← hfront, skipMember_dropBlanks]

/-- The next item is where passing over looks for it. -/
theorem nextItem_skip {bytes rest : List UInt8} {more : Bool}
    (hnext : nextItem bytes = .ok (more, rest)) :
    (more = true → skipAfter [.array] bytes = skipMember .array [] rest) ∧
      (more = false → ∃ after, rest = Byte.closeBracket :: after ∧
        skipAfter [.array] bytes = .ok after) := by
  unfold nextItem at hnext
  split at hnext
  case h_1 => simp [stopAhead] at hnext
  case h_2 after hfront =>
    cases hnext
    refine ⟨by simp, fun _ => ⟨after, rfl, ?_⟩⟩
    rw [skipAfter_cons, hfront, ← skipAfter_nil after]
    rfl
  case h_3 tail hfront =>
    have hcomma : skipAfter [.array] bytes = skipMember .array [] tail := by
      rw [skipAfter_cons, hfront]
      rfl
    split at hnext
    case h_1 => simp [stopAhead] at hnext
    case h_2 => simp [stopAhead] at hnext
    case h_3 =>
      cases hnext
      exact ⟨fun _ => hcomma.trans (skipMember_dropBlanks _ _ _).symm, by simp⟩
  case h_4 => simp [stopAhead] at hnext

/-- Items that are read up to the end of their array are passed over with it. -/
theorem readItemsFrom_skip {α : Type} {item : Reader α} (hitem : item.IsExact)
    {bytes inside rest : List UInt8} {values : List α}
    (hread : readItemsFrom item bytes = .ok (values, inside))
    (hend : endArray inside = .ok rest) : skipMember .array [] bytes = .ok rest := by
  -- the item that is read ends where passing over it ends, so both look for the next one there
  fun_induction readItemsFrom item bytes generalizing values inside rest with
  | case1 => cases hread
  | case2 => cases hread
  | case3 bytes value rest₁ hvalue rest₂ hnext =>
    cases hread
    obtain ⟨after, rfl, hafter⟩ := (nextItem_skip hnext).2 rfl
    rw [endArray_closing] at hend
    rw [skipMember_array, skipWithin_of_skipValue (hitem _ _ _ hvalue), hafter, hend]
  | case4 => cases hread
  | case5 bytes value rest₁ hvalue rest₂ hnext values' rest₃ hrec ih =>
    cases hread
    rw [skipMember_array, skipWithin_of_skipValue (hitem _ _ _ hvalue),
      (nextItem_skip hnext).1 rfl, ih hrec hend]

theorem readItems_skip {α : Type} {item : Reader α} (hitem : item.IsExact)
    {bytes inside rest : List UInt8} {values : List α}
    (hread : readItems item bytes = .ok (values, inside)) (hend : endArray inside = .ok rest) :
    skipOpened .array [] bytes = .ok rest := by
  unfold readItems at hread
  split at hread
  case h_1 => cases hread
  case h_2 hfirst =>
    cases hread
    obtain ⟨after, rfl, hafter⟩ := (firstItem_skip hfirst).2 rfl
    rw [endArray_closing] at hend
    rw [hafter, hend]
  case h_3 hfirst => rw [(firstItem_skip hfirst).1 rfl, readItemsFrom_skip hitem hread hend]

/-! ## Members -/

@[simp] theorem endObject_closing (rest : List UInt8) :
    endObject (Byte.closeBrace :: rest) = .ok rest := by
  rw [endObject, dropBlanks_cons (by decide)]
  rfl

/-- A key that is read is passed over with the colon behind it. -/
theorem readKey_skip {tail rest : List UInt8} {key : Option String} {bytes : List UInt8}
    (hfront : dropBlanks bytes = Byte.quote :: tail) (hread : readKey tail = .ok (key, rest)) :
    (∃ name, key = some name) ∧ skipKey bytes = readColon rest := by
  unfold readKey at hread
  split at hread
  case h_1 name rest' htext =>
    cases hread
    refine ⟨⟨name, rfl⟩, ?_⟩
    rw [skipKey_quote hfront, readText_skip htext]
    rfl
  case h_2 => cases hread

/-- The first key is where passing over looks for it. -/
theorem firstKey_skip {bytes rest : List UInt8} {key : Option String}
    (hfirst : firstKey bytes = .ok (key, rest)) :
    (∀ name, key = some name → skipOpened .object [] bytes =
        (readColon rest).bind (skipWithin [.object])) ∧
      (key = none → ∃ after, rest = Byte.closeBrace :: after ∧
        skipOpened .object [] bytes = .ok after) := by
  unfold firstKey at hfirst
  split at hfirst
  case h_1 => simp [stopAhead] at hfirst
  case h_2 after hfront =>
    cases hfirst
    refine ⟨by simp, fun _ => ⟨after, rfl, ?_⟩⟩
    rw [skipOpened_closing hfront, skipAfter_nil]
  case h_3 tail hfront =>
    obtain ⟨⟨name, rfl⟩, hkey⟩ := readKey_skip hfront hfirst
    refine ⟨fun _ _ => ?_, by simp⟩
    rw [skipOpened_of_member hfront (by decide), skipMember_object, hkey]
  case h_4 => simp [stopAhead] at hfirst

/-- The next key is where passing over looks for it. -/
theorem nextKey_skip {bytes rest : List UInt8} {key : Option String}
    (hnext : nextKey bytes = .ok (key, rest)) :
    (∀ name, key = some name → skipAfter [.object] bytes =
        (readColon rest).bind (skipWithin [.object])) ∧
      (key = none → ∃ after, rest = Byte.closeBrace :: after ∧
        skipAfter [.object] bytes = .ok after) := by
  unfold nextKey at hnext
  split at hnext
  case h_1 => simp [stopAhead] at hnext
  case h_2 after hfront =>
    cases hnext
    refine ⟨by simp, fun _ => ⟨after, rfl, ?_⟩⟩
    rw [skipAfter_cons, hfront, ← skipAfter_nil after]
    rfl
  case h_3 tail hfront =>
    have hcomma : skipAfter [.object] bytes = skipMember .object [] tail := by
      rw [skipAfter_cons, hfront]
      rfl
    split at hnext
    case h_1 => simp [stopAhead] at hnext
    case h_2 => simp [stopAhead] at hnext
    case h_3 hquote =>
      obtain ⟨⟨name, rfl⟩, hkey⟩ := readKey_skip hquote hnext
      refine ⟨fun _ _ => ?_, by simp⟩
      rw [hcomma, skipMember_object, hkey]
    case h_4 => simp [stopAhead] at hnext
  case h_4 => simp [stopAhead] at hnext

/-- What a step uses up within an object is one member. -/
theorem MemberStep.IsExact.within {σ : Type} {step : MemberStep σ} (hstep : step.IsExact)
    {state state' : σ} {key : String} {bytes rest : List UInt8}
    (htake : step.take state key bytes = .ok (state', rest)) :
    (readColon bytes).bind (skipWithin [.object]) = skipAfter [.object] rest := by
  have hmember := hstep _ _ _ _ _ htake
  cases hcolon : readColon bytes with
  | error =>
    rw [hcolon] at hmember
    cases hmember
  | ok tail =>
    rw [hcolon] at hmember
    exact skipWithin_of_skipValue hmember [.object]

/-- Members that are read up to the end of their object are passed over with it. -/
theorem readMembersFrom_skip {σ : Type} {step : MemberStep σ} (hstep : step.IsExact)
    {state state' : σ} {key : String} {bytes inside rest : List UInt8}
    (hread : readMembersFrom step state key bytes = .ok (state', inside))
    (hend : endObject inside = .ok rest) :
    (readColon bytes).bind (skipWithin [.object]) = .ok rest := by
  -- as for items: a step uses up one member, and both look for the next key behind it
  fun_induction readMembersFrom step state key bytes generalizing state' inside rest with
  | case1 => cases hread
  | case2 => cases hread
  | case3 state key bytes state₁ rest₁ htake rest₂ hnext =>
    cases hread
    obtain ⟨after, rfl, hafter⟩ := (nextKey_skip hnext).2 rfl
    rw [endObject_closing] at hend
    rw [hstep.within htake, hafter, hend]
  | case4 state key bytes state₁ rest₁ htake key₂ rest₂ hnext ih =>
    rw [hstep.within htake, (nextKey_skip hnext).1 _ rfl, ih hread hend]

theorem readMembers_skip {σ : Type} {step : MemberStep σ} (hstep : step.IsExact)
    {state state' : σ} {bytes inside rest : List UInt8}
    (hread : readMembers step state bytes = .ok (state', inside))
    (hend : endObject inside = .ok rest) : skipOpened .object [] bytes = .ok rest := by
  unfold readMembers at hread
  split at hread
  case h_1 => cases hread
  case h_2 hfirst =>
    cases hread
    obtain ⟨after, rfl, hafter⟩ := (firstKey_skip hfirst).2 rfl
    rw [endObject_closing] at hend
    rw [hafter, hend]
  case h_3 hfirst => rw [(firstKey_skip hfirst).1 _ rfl, readMembersFrom_skip hstep hread hend]

/-! ## Arrays and objects -/

/-- Readers of arrays are exact if what is inside is passed over with the end. -/
theorem isExact_arrayReader {α : Type} {expected : String} {depth : Nat}
    {inside : List UInt8 → Reading α}
    (hinside : ∀ {bytes value rest}, inside bytes = .ok (value, rest) →
      rest.length ≤ bytes.length)
    (hskip : ∀ {bytes value within rest}, inside bytes = .ok (value, within) →
      endArray within = .ok rest → skipOpened .array [] bytes = .ok rest) :
    (Decoder.arrayReader expected depth inside hinside).IsExact := by
  intro bytes value rest hread
  change Decoder.readArray expected depth inside bytes = .ok (value, rest) at hread
  unfold Decoder.readArray at hread
  split at hread
  · simp [stopAhead] at hread
  case h_2 first tail hfront =>
    split at hread
    case isTrue hopening =>
      subst hopening
      rw [skipValue, skipWithin_opening .array hfront]
      split at hread
      · simp [stopAhead] at hread
      · unfold closeArray at hread
        split at hread
        case h_1 value' within hvisited =>
          split at hread
          case h_1 hend =>
            cases hread
            exact hskip hvisited hend
          case h_2 => cases hread
        case h_2 => simp [stopHere] at hread
        case h_3 => cases hread
    case isFalse => exact absurd hread readMismatch_ne_ok

/-- Readers of objects are exact if what is inside is passed over with the end. -/
theorem isExact_objectReader {α : Type} {expected : String} {depth : Nat}
    {inside : List UInt8 → Reading α}
    (hinside : ∀ {bytes value rest}, inside bytes = .ok (value, rest) →
      rest.length ≤ bytes.length)
    (hskip : ∀ {bytes value within rest}, inside bytes = .ok (value, within) →
      endObject within = .ok rest → skipOpened .object [] bytes = .ok rest) :
    (Decoder.objectReader expected depth inside hinside).IsExact := by
  intro bytes value rest hread
  change Decoder.readObject expected depth inside bytes = .ok (value, rest) at hread
  unfold Decoder.readObject at hread
  split at hread
  · simp [stopAhead] at hread
  case h_2 first tail hfront =>
    split at hread
    case isTrue hopening =>
      subst hopening
      rw [skipValue, skipWithin_opening .object hfront]
      split at hread
      · simp [stopAhead] at hread
      · unfold closeObject at hread
        split at hread
        case h_1 value' within hvisited =>
          split at hread
          case h_1 hend =>
            cases hread
            exact hskip hvisited hend
          case h_2 => cases hread
        case h_2 => simp [stopHere] at hread
        case h_3 => cases hread
    case isFalse => exact absurd hread readMismatch_ne_ok

theorem isExact_arrayOr {α : Type} {onArray other : Reader α} (harray : onArray.IsExact)
    (hother : other.IsExact) : (Decoder.arrayOr onArray other).IsExact := by
  intro bytes value rest hread
  simp only [Decoder.arrayOr] at hread
  split at hread
  · exact harray _ _ _ hread
  · exact hother _ _ _ hread

theorem isExact_objectOr {α : Type} {onObject other : Reader α} (hobject : onObject.IsExact)
    (hother : other.IsExact) : (Decoder.objectOr onObject other).IsExact := by
  intro bytes value rest hread
  simp only [Decoder.objectOr] at hread
  split at hread
  · exact hobject _ _ _ hread
  · exact hother _ _ _ hread

/-- What passes over a colon and a value within a step uses up one member. -/
theorem readColon_bind_skipValue {bytes rest rest' : List UInt8}
    (hcolon : readColon bytes = .ok rest) (hskip : skipValue rest = .ok rest') :
    (readColon bytes).bind skipValue = .ok rest' := by
  rw [hcolon]
  exact hskip

/-! ## Decoders -/

namespace Decoder

variable {α β : Type}

theorem isExact_scalar (expected : String) (check : Value → Except Cause α) :
    (scalar expected check).IsExact := fun _ => isExact_scalarReader expected check

theorem IsExact.map {decoder : Decoder α} (hexact : decoder.IsExact) (f : α → β) :
    (decoder.map f).IsExact := fun depth => (hexact depth).map f

theorem isExact_text : text.IsExact := isExact_scalar _ _

theorem isExact_boolean : boolean.IsExact := isExact_scalar _ _

theorem isExact_int64 : int64.IsExact := isExact_scalar _ _

theorem isExact_ignored : ignored.IsExact := fun _ => isExact_skipped

theorem isExact_optional {decoder : Decoder α} (hexact : decoder.IsExact) :
    decoder.optional.IsExact := by
  intro depth bytes value rest hread
  simp only [optional] at hread
  split at hread
  case h_1 tail hfront =>
    -- the word `null` is passed over as the scalar that it is
    split at hread
    case h_1 hword =>
      cases hread
      rw [skipValue, skipWithin_eq, hfront]
      have hscalar : skipScalar Byte.letterN tail = .ok rest := hword
      exact (congrArg (Except.bind · (skipAfter [])) hscalar).trans (skipAfter_nil rest)
    case h_2 => cases hread
  case h_2 => exact (hexact depth).map some _ _ _ hread

theorem isExact_list {item : Decoder α} (hitem : item.IsExact) : item.list.IsExact :=
  fun depth => isExact_arrayReader readItems_shrinks fun hread hend =>
    readItems_skip (hitem (depth - 1)) hread hend

theorem isExact_insertStep {item : Reader α} (hitem : item.IsExact) :
    (insertStep item).IsExact := by
  intro map key bytes map' rest htake
  simp only [insertStep] at htake
  split at htake
  · cases htake
  case h_2 hcolon =>
    split at htake
    · cases htake
    case h_2 hvalue =>
      cases htake
      exact readColon_bind_skipValue hcolon (hitem _ _ _ hvalue)

/-- Generic values are read exactly, at every depth. -/
theorem isExact_value : value.IsExact := by
  have hwith {depth : Nat} {inner : Reader Value} (hinner : inner.IsExact) :
      (valueReaderWith depth inner).IsExact := by
    refine isExact_arrayOr (Reader.IsExact.map ?_ _)
      (isExact_objectOr (Reader.IsExact.map ?_ _) (isExact_scalarReader _ _))
    · exact isExact_arrayReader readItems_shrinks fun hread hend =>
        readItems_skip hinner hread hend
    · exact isExact_objectReader readMembers_shrinks fun hread hend =>
        readMembers_skip (isExact_insertStep hinner) hread hend
  intro depth
  change (valueReader depth).IsExact
  induction depth with
  | zero => exact hwith (isExact_scalarReader _ _)
  | succ depth ih => exact hwith ih

end Decoder

/-! ## Records -/

namespace Record

variable {σ : Type}

theorem isExact_of_field? {record : Record σ} (hexact : record.IsExact) {key : String}
    {field : Field σ} (hfield : record.field? key = some field) : field.decoder.IsExact :=
  hexact field (List.mem_of_find?_eq_some hfield)

/-- Setting a field, or passing over a member that is none, uses up one member. -/
theorem isExact_setStep {record : Record σ} (hexact : record.IsExact) (depth : Nat) :
    (record.setStep depth).IsExact := by
  intro state key bytes state' rest htake
  simp only [setStep] at htake
  split at htake
  case h_1 field hfield =>
    split at htake
    · cases htake
    · split at htake
      · cases htake
      case h_2 hcolon =>
        split at htake
        · cases htake
        case h_2 hset =>
          cases htake
          exact readColon_bind_skipValue hcolon (isExact_of_field? hexact hfield depth _ _ _ hset)
  case h_2 =>
    split at htake
    · cases htake
    case h_2 hcolon =>
      split at htake
      · cases htake
      case h_2 hskip =>
        cases htake
        exact readColon_bind_skipValue hcolon (isExact_skipped _ _ _ hskip)

theorem readNamed_skip {record : Record σ} (hexact : record.IsExact) {depth : Nat}
    {bytes inside rest : List UInt8} {state : σ}
    (hread : record.readNamed depth bytes = .ok (state, inside))
    (hend : endObject inside = .ok rest) : skipOpened .object [] bytes = .ok rest := by
  unfold readNamed at hread
  split at hread
  · cases hread
  case h_2 hmembers =>
    split at hread
    · cases hread
    · cases hread
      exact readMembers_skip (isExact_setStep hexact depth) hmembers hend

/-- Fields that are listed in an array are passed over with the end of the array, wherever the
first of them is looked for. -/
theorem readListed_skip {record : Record σ} {depth : Nat} {fields : List (Field σ)}
    (hexact : ∀ field ∈ fields, field.decoder.IsExact) {index : Nat} {state state' : σ}
    {next : List UInt8 → Reading Bool} {pass : List UInt8 → Except Stop (List UInt8)}
    (hnext : ∀ {bytes more rest}, next bytes = .ok (more, rest) →
      (more = true → pass bytes = skipMember .array [] rest) ∧
        (more = false → ∃ after, rest = Byte.closeBracket :: after ∧ pass bytes = .ok after))
    (hend : ∀ {bytes rest}, endArray bytes = .ok rest → pass bytes = .ok rest)
    {bytes inside rest : List UInt8}
    (hread : readListed record depth fields index state next bytes = .ok (state', inside))
    (hinside : endArray inside = .ok rest) : pass bytes = .ok rest := by
  -- induction on the fields: the first is looked for behind the bracket, the others behind a comma
  induction fields generalizing index state next pass bytes with
  | nil =>
    cases hread
    exact hend hinside
  | cons field fields ih =>
    have hfields : ∀ field ∈ fields, field.decoder.IsExact :=
      fun field hfield => hexact field (List.mem_cons_of_mem _ hfield)
    rw [readListed] at hread
    split at hread
    · cases hread
    case h_2 rest₁ hmore =>
      -- nothing is left in the array, so what follows is looked for at its end
      obtain ⟨after, rfl, hafter⟩ := (hnext hmore).2 rfl
      split at hread
      · have hsame : pass (Byte.closeBracket :: after) = .ok after :=
          hend (endArray_closing after)
        have hrest := ih hfields hnext hend hread
        rw [hsame] at hrest
        rw [hafter, hrest]
      · cases hread
    case h_3 rest₁ hmore =>
      rw [(hnext hmore).1 rfl]
      split at hread
      · cases hread
      case h_2 set rest₂ hset =>
        have hfield := hexact field List.mem_cons_self depth _ _ _ hset
        rw [skipMember_array, skipWithin_of_skipValue hfield]
        exact ih hfields nextItem_skip skipAfter_of_endArray hread

theorem skipOpened_of_endArray {bytes rest : List UInt8} (hend : endArray bytes = .ok rest) :
    skipOpened .array [] bytes = .ok rest := by
  rw [skipOpened_closing (endArray_front hend), skipAfter_nil]

/-- Records are read exactly if their fields are. -/
theorem isExact_decoder {record : Record σ} (hexact : record.IsExact) :
    record.decoder.IsExact := by
  intro depth
  apply isExact_arrayOr
  · apply isExact_arrayReader (readListed_shrinks firstItem_shrinks)
    intro bytes value within rest hread hend
    exact readListed_skip hexact firstItem_skip skipOpened_of_endArray hread hend
  · apply isExact_objectReader readNamed_shrinks
    intro bytes value within rest hread hend
    exact readNamed_skip hexact hread hend

end Record

end ChatSteward.Json
