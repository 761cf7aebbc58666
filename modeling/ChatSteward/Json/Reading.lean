import ChatSteward.Json.Fault

/-!
# Reading JSON text

The ground of the JSON readers. A reader takes the bytes that are still unread and returns a
value with what remains, or a stop. A stop names the number of bytes that were unread at the
place of the fault, which fixes the place without counting on the way; a fault that only the
reader of the enclosing array or object can place is loose and carries the unread bytes.

## Main definitions

* `Json.Stop`, `Json.Reading` — how a reader ends
* `Json.Reader` — a reader that uses up at least one byte when it succeeds
* `Json.dropBlanks` — the unread bytes without blanks at the front
* `Json.readWord` — the rest of `null`, `true` or `false`
-/

namespace ChatSteward.Json

/-! ## Bytes with a meaning -/

namespace Byte

/-- The byte of an ASCII character. -/
def of (c : Char) : UInt8 := c.toNat.toUInt8

/-- The byte of `"`. -/
@[match_pattern] abbrev quote : UInt8 := 0x22
/-- The byte of `\`. -/
@[match_pattern] abbrev backslash : UInt8 := 0x5C
/-- The byte of `,`. -/
@[match_pattern] abbrev comma : UInt8 := 0x2C
/-- The byte of `:`. -/
@[match_pattern] abbrev colon : UInt8 := 0x3A
/-- The byte of `[`. -/
@[match_pattern] abbrev openBracket : UInt8 := 0x5B
/-- The byte of `]`. -/
@[match_pattern] abbrev closeBracket : UInt8 := 0x5D
/-- The byte of an opening brace. -/
@[match_pattern] abbrev openBrace : UInt8 := 0x7B
/-- The byte of a closing brace. -/
@[match_pattern] abbrev closeBrace : UInt8 := 0x7D
/-- The byte of `-`. -/
@[match_pattern] abbrev minus : UInt8 := 0x2D
/-- The byte of `+`. -/
@[match_pattern] abbrev plus : UInt8 := 0x2B
/-- The byte of `.`. -/
@[match_pattern] abbrev point : UInt8 := 0x2E
/-- The byte of `0`. -/
@[match_pattern] abbrev zero : UInt8 := 0x30
/-- The byte of `e`. -/
@[match_pattern] abbrev lowerE : UInt8 := 0x65
/-- The byte of `E`. -/
@[match_pattern] abbrev upperE : UInt8 := 0x45
/-- The byte of `u`. -/
@[match_pattern] abbrev letterU : UInt8 := 0x75
/-- The byte of `n`, which starts `null`. -/
@[match_pattern] abbrev letterN : UInt8 := 0x6E
/-- The byte of `t`, which starts `true`. -/
@[match_pattern] abbrev letterT : UInt8 := 0x74
/-- The byte of `f`, which starts `false`. -/
@[match_pattern] abbrev letterF : UInt8 := 0x66

/-- Space, tabulator, line feed or carriage return. -/
def isBlank (b : UInt8) : Bool := b == 0x20 || b == 0x09 || b == 0x0A || b == 0x0D

/-- A decimal digit. -/
def isDigit (b : UInt8) : Bool := 0x30 ≤ b && b ≤ 0x39

/-- The value of a decimal digit. -/
def digit (b : UInt8) : Nat := b.toNat - 0x30

end Byte

/-! ## Outcomes -/

/-- Why a reader stops. -/
inductive Stop where
  /-- A fault at the place where so many bytes were unread. -/
  | placed (cause : Cause) (unread : Nat)
  /-- A fault that the enclosing array or object places, and the bytes unread then. -/
  | loose (cause : Cause) (rest : List UInt8)
deriving Repr, DecidableEq

/-- A value with the bytes that remain, or a stop. -/
abbrev Reading (α : Type) := Except Stop (α × List UInt8)

/-- A fault right before the unread bytes. -/
def stopHere {α : Type} (cause : Cause) (rest : List UInt8) : Except Stop α :=
  .error (.placed cause rest.length)

/-- A fault at the first unread byte, or at the end of the text. -/
def stopAhead {α : Type} (cause : Cause) (rest : List UInt8) : Except Stop α :=
  .error (.placed cause (rest.length - 1))

/-- The fault of a text that a stop stands for. -/
def Stop.fault (text : List UInt8) : Stop → Fault
  | .placed cause unread => ⟨cause, some (Position.after (text.take (text.length - unread)))⟩
  | .loose cause _ => ⟨cause, none⟩

/-- A reader whose success uses up at least one byte. -/
structure Reader (α : Type) where
  read : List UInt8 → Reading α
  shrinks : ∀ {bytes value rest}, read bytes = .ok (value, rest) → rest.length < bytes.length

/-- The reader of the same text that changes the value. -/
def Reader.map {α β : Type} (f : α → β) (reader : Reader α) : Reader β where
  read bytes :=
    match reader.read bytes with
    | .ok (value, rest) => .ok (f value, rest)
    | .error stop => .error stop
  shrinks := by
    intro bytes value rest hread
    split at hread
    case h_1 heq =>
      cases hread
      exact reader.shrinks heq
    case h_2 => cases hread

/-! ## Blanks and words -/

/-- The unread bytes from the first that is not blank. -/
def dropBlanks (bytes : List UInt8) : List UInt8 :=
  bytes.dropWhile Byte.isBlank

theorem length_dropWhile_le (p : UInt8 → Bool) (bytes : List UInt8) :
    (bytes.dropWhile p).length ≤ bytes.length :=
  (List.dropWhile_suffix p).length_le

theorem length_dropBlanks_le (bytes : List UInt8) : (dropBlanks bytes).length ≤ bytes.length :=
  length_dropWhile_le _ bytes

theorem length_lt_of_dropBlanks {bytes rest : List UInt8} {b : UInt8}
    (hfront : dropBlanks bytes = b :: rest) : rest.length < bytes.length := by
  have := length_dropBlanks_le bytes
  rw [hfront] at this
  exact this

/-- What follows an expected word. -/
def readWord : (word bytes : List UInt8) → Except Stop (List UInt8)
  | [], rest => .ok rest
  | _ :: _, [] => stopHere .endInValue []
  | expected :: word, byte :: rest =>
    if byte = expected then readWord word rest else stopHere .expectedWord rest

theorem readWord_shrinks {word bytes rest : List UInt8} (hread : readWord word bytes = .ok rest) :
    rest.length ≤ bytes.length := by
  induction word generalizing bytes with
  | nil =>
    cases hread
    exact Nat.le_refl _
  | cons expected word ih =>
    cases bytes with
    | nil => simp [readWord, stopHere] at hread
    | cons byte bytes =>
      rw [readWord] at hread
      split at hread
      · exact Nat.le_succ_of_le (ih hread)
      · simp [stopHere] at hread

/-- What follows the first letter of `null`. -/
def nullTail : List UInt8 := [Byte.of 'u', Byte.of 'l', Byte.of 'l']

/-- What follows the first letter of `true`. -/
def trueTail : List UInt8 := [Byte.of 'r', Byte.of 'u', Byte.of 'e']

/-- What follows the first letter of `false`. -/
def falseTail : List UInt8 := [Byte.of 'a', Byte.of 'l', Byte.of 's', Byte.of 'e']

end ChatSteward.Json
