import ChatSteward.Json.Literal
import ChatSteward.Json.Numeral

/-!
# Passing over JSON values

The value of an unknown member is passed over without being kept. Its syntax is checked, but
not how deep it nests, how large its numbers are or whether its strings are well-formed UTF-8.
A stack of the brackets that are open takes the place of recursion.

## Main definitions

* `Json.skipNumber` — what follows a number
* `Json.skipValue` — what follows a value
* `Json.skipped` — the reader of one value that keeps nothing
-/

namespace ChatSteward.Json

/-! ## Numbers -/

/-- What follows an exponent that starts after its `e`. -/
def skipExponent (bytes : List UInt8) : Except Stop (List UInt8) :=
  match (splitSign bytes).2 with
  | [] => stopHere .invalidNumber []
  | first :: rest =>
    if Byte.isDigit first then .ok (afterDigits rest) else stopHere .invalidNumber rest

/-- What follows the fraction and the exponent of a number. -/
def skipAfterWhole : List UInt8 → Except Stop (List UInt8)
  | Byte.point :: tail =>
    if (leadingDigits tail).isEmpty then stopAhead .invalidNumber (afterDigits tail)
    else
      match afterDigits tail with
      | Byte.lowerE :: rest | Byte.upperE :: rest => skipExponent rest
      | rest => .ok rest
  | Byte.lowerE :: tail | Byte.upperE :: tail => skipExponent tail
  | rest => .ok rest

/-- What follows a number whose sign has been passed over. -/
def skipUnsigned : List UInt8 → Except Stop (List UInt8)
  | [] => stopHere .invalidNumber []
  | first :: rest =>
    if first = Byte.zero then
      if (leadingDigits rest).isEmpty then skipAfterWhole rest else stopAhead .invalidNumber rest
    else if Byte.isDigit first then skipAfterWhole (afterDigits rest)
    else stopHere .invalidNumber rest

/-- What follows a number, which starts with a minus sign or a digit. -/
def skipNumber : List UInt8 → Except Stop (List UInt8)
  | Byte.minus :: rest => skipUnsigned rest
  | bytes => skipUnsigned bytes

/-! ## Values -/

/-- An array or an object that is open. -/
inductive Enclosure where
  | array
  | object
deriving DecidableEq, Repr

/-- The byte that closes an enclosure. -/
def Enclosure.closing : Enclosure → UInt8
  | .array => Byte.closeBracket
  | .object => Byte.closeBrace

/-- The fault of a text that ends inside an enclosure. -/
def Enclosure.endInside : Enclosure → Cause
  | .array => .endInArray
  | .object => .endInObject

/-- The fault of a member that neither a comma nor the end follows. -/
def Enclosure.expectedEnd : Enclosure → Cause
  | .array => .expectedArrayEnd
  | .object => .expectedObjectEnd

/-- What follows the key and the colon of a member. -/
def skipKey (bytes : List UInt8) : Except Stop (List UInt8) :=
  match dropBlanks bytes with
  | [] => stopAhead .endInObject []
  | Byte.quote :: rest =>
    match skipText rest with
    | .error stop => .error stop
    | .ok rest =>
      match dropBlanks rest with
      | [] => stopAhead .endInObject []
      | Byte.colon :: rest => .ok rest
      | rest => stopAhead .expectedColon rest
  | rest => stopAhead .keyNotText rest

/-- What follows a value that is neither an array nor an object; `first` is its first byte. -/
def skipScalar (first : UInt8) (rest : List UInt8) : Except Stop (List UInt8) :=
  if first = Byte.letterN then readWord nullTail rest
  else if first = Byte.letterT then readWord trueTail rest
  else if first = Byte.letterF then readWord falseTail rest
  else if first = Byte.quote then skipText rest
  else if first = Byte.minus ∨ Byte.isDigit first then skipNumber (first :: rest)
  else stopAhead .expectedValue (first :: rest)

theorem skipExponent_shrinks {bytes rest : List UInt8} (hskip : skipExponent bytes = .ok rest) :
    rest.length < bytes.length := by
  have hsign := splitSign_shrinks bytes
  unfold skipExponent at hskip
  split at hskip
  · simp [stopHere] at hskip
  case h_2 first tail heq =>
    rw [heq, List.length_cons] at hsign
    split at hskip
    · cases hskip
      exact Nat.lt_of_lt_of_le (Nat.lt_succ_of_le (length_dropWhile_le _ tail)) hsign
    · simp [stopHere] at hskip

theorem skipAfterWhole_shrinks {bytes rest : List UInt8}
    (hskip : skipAfterWhole bytes = .ok rest) : rest.length ≤ bytes.length := by
  unfold skipAfterWhole at hskip
  split at hskip
  case h_1 tail =>
    have hafter : (afterDigits tail).length ≤ tail.length := length_dropWhile_le _ tail
    split at hskip
    · simp [stopAhead] at hskip
    · split at hskip
      case h_1 heq =>
        have := skipExponent_shrinks hskip
        rw [heq] at hafter
        simp only [List.length_cons] at hafter ⊢
        omega
      case h_2 heq =>
        have := skipExponent_shrinks hskip
        rw [heq] at hafter
        simp only [List.length_cons] at hafter ⊢
        omega
      case h_3 =>
        cases hskip
        exact Nat.le_succ_of_le hafter
  · exact Nat.le_of_lt (Nat.lt_succ_of_lt (skipExponent_shrinks hskip))
  · exact Nat.le_of_lt (Nat.lt_succ_of_lt (skipExponent_shrinks hskip))
  · cases hskip
    exact Nat.le_refl _

theorem skipUnsigned_shrinks {bytes rest : List UInt8} (hskip : skipUnsigned bytes = .ok rest) :
    rest.length < bytes.length := by
  unfold skipUnsigned at hskip
  split at hskip
  · simp [stopHere] at hskip
  case h_2 first tail =>
    have htail : (afterDigits tail).length ≤ tail.length := length_dropWhile_le _ tail
    split at hskip
    · split at hskip
      · exact Nat.lt_succ_of_le (skipAfterWhole_shrinks hskip)
      · simp [stopAhead] at hskip
    · split at hskip
      · exact Nat.lt_succ_of_le (Nat.le_trans (skipAfterWhole_shrinks hskip) htail)
      · simp [stopHere] at hskip

theorem skipNumber_shrinks {bytes rest : List UInt8} (hskip : skipNumber bytes = .ok rest) :
    rest.length < bytes.length := by
  unfold skipNumber at hskip
  split at hskip
  · exact Nat.lt_succ_of_lt (skipUnsigned_shrinks hskip)
  · exact skipUnsigned_shrinks hskip

theorem skipKey_shrinks {bytes rest : List UInt8} (hskip : skipKey bytes = .ok rest) :
    rest.length < bytes.length := by
  have hblank := length_dropBlanks_le bytes
  unfold skipKey at hskip
  split at hskip
  · simp [stopAhead] at hskip
  case h_2 tail heq =>
    rw [heq, List.length_cons] at hblank
    split at hskip
    · cases hskip
    case h_2 after htext =>
      have := skipText_shrinks htext
      have hblank' := length_dropBlanks_le after
      split at hskip
      · simp [stopAhead] at hskip
      case h_2 heq' =>
        cases hskip
        rw [heq', List.length_cons] at hblank'
        omega
      · simp [stopAhead] at hskip
  · simp [stopAhead] at hskip

theorem skipScalar_shrinks {first : UInt8} {rest rest' : List UInt8}
    (hskip : skipScalar first rest = .ok rest') : rest'.length ≤ rest.length := by
  unfold skipScalar at hskip
  split at hskip
  · exact readWord_shrinks hskip
  · split at hskip
    · exact readWord_shrinks hskip
    · split at hskip
      · exact readWord_shrinks hskip
      · split at hskip
        · exact Nat.le_of_lt (skipText_shrinks hskip)
        · split at hskip
          · exact Nat.le_of_lt_succ (skipNumber_shrinks hskip)
          · simp [stopAhead] at hskip

mutual

/-- What follows the value at the front and the enclosures that are open around it. -/
def skipWithin (around : List Enclosure) (bytes : List UInt8) : Except Stop (List UInt8) :=
  match _hfront : dropBlanks bytes with
  | [] => stopAhead .endInValue []
  | Byte.openBracket :: rest => skipOpened .array around rest
  | Byte.openBrace :: rest => skipOpened .object around rest
  | first :: rest =>
    match _hscalar : skipScalar first rest with
    | .error stop => .error stop
    | .ok rest => skipAfter around rest
termination_by 4 * bytes.length
decreasing_by
  · have := length_lt_of_dropBlanks _hfront
    omega
  · have := length_lt_of_dropBlanks _hfront
    omega
  · have := length_lt_of_dropBlanks _hfront
    have := skipScalar_shrinks _hscalar
    omega

/-- What follows an enclosure right after its opening bracket and those around it. -/
def skipOpened (enclosure : Enclosure) (around : List Enclosure) (bytes : List UInt8) :
    Except Stop (List UInt8) :=
  match _hfront : dropBlanks bytes with
  | [] => stopAhead enclosure.endInside []
  | b :: rest =>
    if b = enclosure.closing then skipAfter around rest
    else skipMember enclosure around (b :: rest)
termination_by 4 * bytes.length + 2
decreasing_by
  · have := length_lt_of_dropBlanks _hfront
    omega
  · have := length_lt_of_dropBlanks _hfront
    simp only [List.length_cons]
    omega

/-- What follows the enclosures that are open after a value. -/
def skipAfter (around : List Enclosure) (bytes : List UInt8) : Except Stop (List UInt8) :=
  match around with
  | [] => .ok bytes
  | enclosure :: outer =>
    match _hfront : dropBlanks bytes with
    | [] => stopAhead enclosure.endInside []
    | b :: rest =>
      if b = Byte.comma then skipMember enclosure outer rest
      else if b = enclosure.closing then skipAfter outer rest
      else stopAhead enclosure.expectedEnd (b :: rest)
termination_by 4 * bytes.length + 2
decreasing_by
  all_goals
    have := length_lt_of_dropBlanks _hfront
    omega

/-- What follows a member, an item of an array or a key with its value, and the enclosures
around it. -/
def skipMember (enclosure : Enclosure) (around : List Enclosure) (bytes : List UInt8) :
    Except Stop (List UInt8) :=
  match enclosure with
  | .array => skipWithin (.array :: around) bytes
  | .object =>
    match _hkey : skipKey bytes with
    | .error stop => .error stop
    | .ok rest => skipWithin (.object :: around) rest
termination_by 4 * bytes.length + 1
decreasing_by
  · omega
  · have := skipKey_shrinks _hkey
    omega

end

/-- What follows the value at the front. -/
def skipValue (bytes : List UInt8) : Except Stop (List UInt8) := skipWithin [] bytes

mutual

theorem skipWithin_shrinks {around : List Enclosure} {bytes rest : List UInt8}
    (hskip : skipWithin around bytes = .ok rest) : rest.length < bytes.length := by
  rw [skipWithin] at hskip
  split at hskip
  · simp [stopAhead] at hskip
  case h_2 hfront =>
    have := length_lt_of_dropBlanks hfront
    have := skipOpened_shrinks hskip
    omega
  case h_3 hfront =>
    have := length_lt_of_dropBlanks hfront
    have := skipOpened_shrinks hskip
    omega
  case h_4 hfront =>
    have := length_lt_of_dropBlanks hfront
    split at hskip
    · cases hskip
    case h_2 hscalar =>
      have := skipScalar_shrinks hscalar
      have := skipAfter_shrinks hskip
      omega
termination_by 4 * bytes.length
decreasing_by all_goals omega

theorem skipOpened_shrinks {enclosure : Enclosure} {around : List Enclosure}
    {bytes rest : List UInt8} (hskip : skipOpened enclosure around bytes = .ok rest) :
    rest.length < bytes.length := by
  rw [skipOpened] at hskip
  split at hskip
  · simp [stopAhead] at hskip
  case h_2 b tail hfront =>
    have := length_lt_of_dropBlanks hfront
    split at hskip
    · have := skipAfter_shrinks hskip
      omega
    · have hmember := skipMember_shrinks hskip
      rw [List.length_cons] at hmember
      omega
termination_by 4 * bytes.length + 2
decreasing_by
  · rw [List.length_cons]
    omega
  · omega

theorem skipAfter_shrinks {around : List Enclosure} {bytes rest : List UInt8}
    (hskip : skipAfter around bytes = .ok rest) : rest.length ≤ bytes.length := by
  rw [skipAfter.eq_def] at hskip
  split at hskip
  · cases hskip
    exact Nat.le_refl _
  · split at hskip
    · simp [stopAhead] at hskip
    case h_2 b tail hfront =>
      have := length_lt_of_dropBlanks hfront
      split at hskip
      · have := skipMember_shrinks hskip
        omega
      · split at hskip
        · have := skipAfter_shrinks hskip
          omega
        · simp [stopAhead] at hskip
termination_by 4 * bytes.length + 2
decreasing_by all_goals omega

theorem skipMember_shrinks {enclosure : Enclosure} {around : List Enclosure}
    {bytes rest : List UInt8} (hskip : skipMember enclosure around bytes = .ok rest) :
    rest.length < bytes.length := by
  rw [skipMember.eq_def] at hskip
  split at hskip
  · exact skipWithin_shrinks hskip
  · split at hskip
    · cases hskip
    case h_2 hkey =>
      have := skipKey_shrinks hkey
      have := skipWithin_shrinks hskip
      omega
termination_by 4 * bytes.length + 1
decreasing_by all_goals omega

end

/-- The reader of one value of any kind that keeps nothing of it. -/
def skipped : Reader Unit where
  read bytes :=
    match skipValue bytes with
    | .ok rest => .ok ((), rest)
    | .error stop => .error stop
  shrinks := by
    intro bytes _ rest hread
    split at hread
    case h_1 hskip =>
      cases hread
      exact skipWithin_shrinks hskip
    case h_2 => cases hread

end ChatSteward.Json
