/-!
# Punycode

Text beyond ASCII as lower-case letters, digits and hyphens. The ASCII characters come first, up
to the last hyphen; the others follow as one number each, in the order of their code points, that
says how many places to go on, around the text and up the code points, before the next one is
put in. The numbers have digits of base 36 whose thresholds follow the size of the numbers
before.

## Main definitions

* `Punycode.decode?` — the text of an encoding
* `Punycode.encode` — the encoding of a text
-/

namespace ChatSteward.Net.Punycode

/-! ## Digits -/

/-- The value of a digit: letters from zero on, decimal digits after them. -/
def digitValue? (c : Char) : Option Nat :=
  if 'a' ≤ c ∧ c ≤ 'z' then some (c.toNat - 'a'.toNat)
  else if '0' ≤ c ∧ c ≤ '9' then some (c.toNat - '0'.toNat + 26)
  else none

/-- The digit of a value below 36. -/
def digitOf (value : Nat) : Char :=
  if value < 26 then Char.ofNat ('a'.toNat + value) else Char.ofNat ('0'.toNat + (value - 26))

/-- The value below which the digit at a place is the last one; places count by 36. -/
def threshold (bias place : Nat) : Nat :=
  min 26 (max 1 (place - bias))

theorem threshold_bounds (bias place : Nat) :
    1 ≤ threshold bias place ∧ threshold bias place ≤ 26 := by
  unfold threshold
  omega

/-- How far the thresholds are shifted after a number that was scaled down by so many places. -/
def biasOf (number places : Nat) : Nat :=
  if 455 < number then biasOf (number / 35) (places + 36)
  else places + 36 * number / (number + 38)
termination_by number
decreasing_by exact Nat.div_lt_self (by omega) (by omega)

/-- The bias after a number, when so many characters are in place. -/
def nextBias (number count : Nat) (isFirst : Bool) : Nat :=
  let number := if isFirst then number / 700 else number / 2
  biasOf (number + number / count) 0

/-! ## Decoding -/

/-- The number whose digits come first, and what follows it. -/
def readNumber (bias : Nat) : (place weight : Nat) → List Char → Option (Nat × List Char)
  | _, _, [] => none
  | place, weight, c :: rest =>
    match digitValue? c with
    | none => none
    | some value =>
      let limit := threshold bias place
      if value < limit then some (value * weight, rest)
      else
        match readNumber bias (place + 36) (weight * (36 - limit)) rest with
        | none => none
        | some (more, rest') => some (value * weight + more, rest')

theorem readNumber_shrinks {bias place weight number : Nat} {text rest : List Char}
    (hread : readNumber bias place weight text = some (number, rest)) :
    rest.length < text.length := by
  induction text generalizing place weight number with
  | nil => cases hread
  | cons c tail ih =>
    rw [readNumber] at hread
    split at hread
    case h_1 => cases hread
    case h_2 value _ =>
      dsimp only at hread
      split at hread
      · cases hread
        simp
      · split at hread
        case h_1 => cases hread
        case h_2 more rest' hmore =>
          cases hread
          exact Nat.lt_succ_of_lt (ih hmore)

/-- The text so far with all characters put in that the numbers tell. The next one is not below
`code`, and if it has that code point, not before `place`. -/
def insertAll (bias code place : Nat) (built text : List Char) : Option (List Char) :=
  match text with
  | [] => some built
  | c :: rest =>
    match _hread : readNumber bias 36 1 (c :: rest) with
    | none => none
    | some (number, rest') =>
      let count := built.length + 1
      let target := place + number
      let found := code + target / count
      if found.isValidChar then
        insertAll (nextBias number count (place = 0)) found (target % count + 1)
          (built.insertIdx (target % count) (Char.ofNat found)) rest'
      else none
termination_by text.length
decreasing_by exact readNumber_shrinks _hread

/-- The text of an encoding, if it is one. A hyphen with nothing before it parts nothing. -/
def decode? (text : List Char) : Option (List Char) :=
  let digits := (text.reverse.takeWhile (· ≠ '-')).reverse
  let basic := text.take (text.length - digits.length - 1)
  insertAll 72 0x80 0 basic (if basic.isEmpty then text else digits)

/-! ## Encoding -/

/-- The digits of a number from a place on. -/
def numberDigits (bias place number : Nat) : List Char :=
  let limit := threshold bias place
  if number < limit then [digitOf number]
  else
    digitOf (limit + (number - limit) % (36 - limit)) ::
      numberDigits bias (place + 36) ((number - limit) / (36 - limit))
termination_by number
decreasing_by
  have := threshold_bounds bias place
  have := Nat.div_le_self (number - threshold bias place) (36 - threshold bias place)
  omega

/-- How far an encoding has come: its digits, the number under way, the bias and how many
characters are in place, of which `basic` are ASCII. -/
structure Encoding where
  digits : List Char
  number : Nat
  bias : Nat
  count : Nat
  basic : Nat

/-- An encoding past one character of the text, while characters of one code point are put in. -/
def Encoding.pass (code : Nat) (encoding : Encoding) (c : Char) : Encoding :=
  if c.toNat < code then { encoding with number := encoding.number + 1 }
  else if c.toNat = code then
    { encoding with
      digits := encoding.digits ++ numberDigits encoding.bias 36 encoding.number
      number := 0
      bias :=
        nextBias encoding.number (encoding.count + 1) (encoding.count = encoding.basic)
      count := encoding.count + 1 }
  else encoding

/-- An encoding past the whole text once for each of some rising code points; the code points
below `next` are done. -/
def Encoding.passAll (text : List Char) (next : Nat) (encoding : Encoding) : List Nat → Encoding
  | [] => encoding
  | code :: codes =>
    let risen :=
      { encoding with number := encoding.number + (code - next) * (encoding.count + 1) }
    let passed := text.foldl (Encoding.pass code) risen
    passAll text (code + 1) { passed with number := passed.number + 1 } codes

/-- The encoding of a text. -/
def encode (text : List Char) : List Char :=
  let basic := text.filter (·.toNat < 0x80)
  let codes := ((text.filter (0x80 ≤ ·.toNat)).map Char.toNat).mergeSort.eraseDups
  basic ++ (if basic.isEmpty then [] else ['-']) ++
    (Encoding.passAll text 0x80 ⟨[], 0, 72, basic.length, basic.length⟩ codes).digits

end ChatSteward.Net.Punycode
