import ChatSteward.Json.Reading

/-!
# Numbers in JSON text

A number without fraction and exponent is an integer while it fits 64 bits; every other number
is a binary fraction. Digits are taken into the significand while it stays below `2 ^ 64`;
further ones of the whole part count as powers of ten and further ones of the fraction are
passed over. A negative zero is a fraction, as integers have none.

## Main definitions

* `Json.absorb` — the digits that a significand can take
* `Json.readNumber` — the number at the front of the unread bytes
-/

namespace ChatSteward.Json

/-- The greatest unsigned integer of 64 bits. -/
def greatestUnsigned : Nat := UInt64.size - 1

/-- The greatest signed integer of 64 bits. -/
def greatestSigned : Nat := UInt64.size / 2 - 1

/-- A significand with the digits that it can take, and the digits from the first it cannot. -/
def absorb (significand : Nat) : List UInt8 → Nat × List UInt8
  | [] => (significand, [])
  | d :: digits =>
    let next := significand * 10 + Byte.digit d
    if next ≤ greatestUnsigned then absorb next digits else (significand, d :: digits)

/-- The digits at the front. -/
def leadingDigits (bytes : List UInt8) : List UInt8 := bytes.takeWhile Byte.isDigit

/-- What follows the digits at the front. -/
def afterDigits (bytes : List UInt8) : List UInt8 := bytes.dropWhile Byte.isDigit

/-- A fraction from its parts, read up to `rest`. -/
def fractionOf (negative : Bool) (significand : Nat) (exponent : Int) (rest : List UInt8) :
    Reading Number :=
  match Binary64.ofParts? negative significand exponent with
  | some x => .ok (.fraction x, rest)
  | none => stopHere .numberOutOfRange rest

/-- The number of a significand without fraction and exponent. -/
def wholeOf (negative : Bool) (significand : Nat) (rest : List UInt8) : Reading Number :=
  if !negative then .ok (.integer significand, rest)
  else if significand = 0 ∨ greatestSigned + 1 < significand then
    fractionOf true significand 0 rest
  else .ok (.integer (-significand), rest)

/-- The greatest power of ten that an exponent may state. -/
def greatestExponent : Nat := UInt32.size / 2 - 1

/-- The value of the digits of an exponent, or what follows the digit that makes it too great. -/
def exponentValue (value : Nat) : List UInt8 → Except (List UInt8) Nat
  | [] => .ok value
  | d :: digits =>
    let next := value * 10 + Byte.digit d
    if next ≤ greatestExponent then exponentValue next digits else .error digits

/-- A power of ten within the bounds of 32 bits. -/
def clampExponent (exponent : Int) : Int :=
  max (-(greatestExponent : Int) - 1) (min greatestExponent exponent)

/-- Whether an exponent has a minus sign, and what follows its sign. -/
def splitSign : List UInt8 → Bool × List UInt8
  | Byte.minus :: rest => (true, rest)
  | Byte.plus :: rest => (false, rest)
  | bytes => (false, bytes)

/-- The number whose exponent starts after its `e`. -/
def readExponent (negative : Bool) (significand : Nat) (start : Int) (bytes : List UInt8) :
    Reading Number :=
  match splitSign bytes with
  | (_, []) => stopHere .endInValue []
  | (falling, first :: rest) =>
    if Byte.isDigit first then
      let remaining := afterDigits rest
      match exponentValue (Byte.digit first) (leadingDigits rest) with
      | .ok value =>
        fractionOf negative significand
          (clampExponent (if falling then start - value else start + value)) remaining
      | .error unreadDigits =>
        if significand ≠ 0 ∧ !falling then
          stopHere .numberOutOfRange (unreadDigits ++ remaining)
        else .ok (.fraction { Binary64.zero with negative := negative }, remaining)
    else stopHere .invalidNumber rest

/-- The number whose fraction starts after its point. -/
def readFraction (negative : Bool) (significand : Nat) (exponent : Int) (bytes : List UInt8) :
    Reading Number :=
  let digits := leadingDigits bytes
  let rest := afterDigits bytes
  if digits.isEmpty then
    stopAhead (if rest.isEmpty then .endInValue else .invalidNumber) rest
  else
    let (significand, passed) := absorb significand digits
    let exponent := exponent - (digits.length - passed.length : Nat)
    match rest with
    | Byte.lowerE :: tail | Byte.upperE :: tail => readExponent negative significand exponent tail
    | _ => fractionOf negative significand exponent rest

/-- The number whose whole part has been read, `powers` of its digits as powers of ten. -/
def readAfterWhole (negative : Bool) (significand powers : Nat) (rest : List UInt8) :
    Reading Number :=
  match rest with
  | Byte.point :: tail => readFraction negative significand powers tail
  | Byte.lowerE :: tail | Byte.upperE :: tail => readExponent negative significand powers tail
  | _ =>
    if powers = 0 then wholeOf negative significand rest
    else fractionOf negative significand powers rest

/-- The number whose sign has been read. -/
def readUnsigned (negative : Bool) (bytes : List UInt8) : Reading Number :=
  match bytes with
  | [] => stopHere .endInValue []
  | first :: rest =>
    if first = Byte.zero then
      if (leadingDigits rest).isEmpty then readAfterWhole negative 0 0 rest
      else stopAhead .invalidNumber rest
    else if Byte.isDigit first then
      let (significand, powers) := absorb 0 (first :: leadingDigits rest)
      readAfterWhole negative significand powers.length (afterDigits rest)
    else stopHere .invalidNumber rest

/-- The number at the front, which starts with a minus sign or a digit. -/
def readNumber (bytes : List UInt8) : Reading Number :=
  match bytes with
  | Byte.minus :: rest => readUnsigned true rest
  | _ => readUnsigned false bytes

/-! ## Every number has a byte -/

theorem fractionOf_rest {negative : Bool} {significand : Nat} {exponent : Int}
    {rest rest' : List UInt8} {n : Number}
    (hread : fractionOf negative significand exponent rest = .ok (n, rest')) : rest' = rest := by
  unfold fractionOf at hread
  split at hread <;> simp_all [stopHere]

theorem wholeOf_rest {negative : Bool} {significand : Nat} {rest rest' : List UInt8} {n : Number}
    (hread : wholeOf negative significand rest = .ok (n, rest')) : rest' = rest := by
  unfold wholeOf at hread
  split at hread
  · simp_all
  · split at hread
    · exact fractionOf_rest hread
    · simp_all

theorem splitSign_shrinks (bytes : List UInt8) : (splitSign bytes).2.length ≤ bytes.length := by
  unfold splitSign
  split <;> simp

theorem readExponent_shrinks {negative : Bool} {significand : Nat} {start : Int}
    {bytes rest : List UInt8} {n : Number}
    (hread : readExponent negative significand start bytes = .ok (n, rest)) :
    rest.length < bytes.length := by
  have hsign := splitSign_shrinks bytes
  unfold readExponent at hread
  split at hread
  · simp [stopHere] at hread
  case h_2 falling first tail heq =>
    have htail := length_dropWhile_le Byte.isDigit tail
    rw [heq, List.length_cons] at hsign
    split at hread
    · simp only at hread
      split at hread
      · have := fractionOf_rest hread
        subst this
        exact Nat.lt_of_lt_of_le (Nat.lt_succ_of_le htail) hsign
      · split at hread
        · simp [stopHere] at hread
        · cases hread
          exact Nat.lt_of_lt_of_le (Nat.lt_succ_of_le htail) hsign
    · simp [stopHere] at hread

theorem readFraction_shrinks {negative : Bool} {significand : Nat} {exponent : Int}
    {bytes rest : List UInt8} {n : Number}
    (hread : readFraction negative significand exponent bytes = .ok (n, rest)) :
    rest.length ≤ bytes.length := by
  have hafter := length_dropWhile_le Byte.isDigit bytes
  unfold readFraction at hread
  simp only at hread
  split at hread
  · simp [stopAhead] at hread
  · split at hread
    case h_1 tail heq =>
      have := readExponent_shrinks hread
      simp only [afterDigits] at heq
      rw [heq, List.length_cons] at hafter
      omega
    case h_2 tail heq =>
      have := readExponent_shrinks hread
      simp only [afterDigits] at heq
      rw [heq, List.length_cons] at hafter
      omega
    case h_3 =>
      rw [fractionOf_rest hread]
      exact hafter

theorem readAfterWhole_shrinks {negative : Bool} {significand powers : Nat}
    {bytes rest : List UInt8} {n : Number}
    (hread : readAfterWhole negative significand powers bytes = .ok (n, rest)) :
    rest.length ≤ bytes.length := by
  unfold readAfterWhole at hread
  split at hread
  · exact Nat.le_succ_of_le (readFraction_shrinks hread)
  · exact Nat.le_of_lt (Nat.lt_succ_of_lt (readExponent_shrinks hread))
  · exact Nat.le_of_lt (Nat.lt_succ_of_lt (readExponent_shrinks hread))
  · split at hread
    · exact Nat.le_of_eq (congrArg List.length (wholeOf_rest hread))
    · exact Nat.le_of_eq (congrArg List.length (fractionOf_rest hread))

theorem readUnsigned_shrinks {negative : Bool} {bytes rest : List UInt8} {n : Number}
    (hread : readUnsigned negative bytes = .ok (n, rest)) : rest.length < bytes.length := by
  unfold readUnsigned at hread
  split at hread
  · simp [stopHere] at hread
  case h_2 first tail =>
    have htail := length_dropWhile_le Byte.isDigit tail
    split at hread
    · split at hread
      · exact Nat.lt_succ_of_le (readAfterWhole_shrinks hread)
      · simp [stopAhead] at hread
    · split at hread
      · have := readAfterWhole_shrinks hread
        simp only [afterDigits] at this
        simp only [List.length_cons]
        omega
      · simp [stopHere] at hread

theorem readNumber_shrinks {bytes rest : List UInt8} {n : Number}
    (hread : readNumber bytes = .ok (n, rest)) : rest.length < bytes.length := by
  unfold readNumber at hread
  split at hread
  · exact Nat.lt_succ_of_lt (readUnsigned_shrinks hread)
  · exact readUnsigned_shrinks hread

end ChatSteward.Json
