import ChatSteward.Json.Literal
import ChatSteward.Json.Numeral

/-!
# Scalars in JSON text

Values that are neither arrays nor objects. A reader that expects one of them reads whatever
scalar is there and then judges it, so that a fault of type stands after the scalar; an array
or an object in its place is refused right before its bracket.

## Main definitions

* `Json.readScalar` — the scalar at the front
* `Json.readMismatch` — the refusal of a value of another kind
* `Json.scalarReader` — the reader of scalars that pass a check
-/

namespace ChatSteward.Json

/-- The scalar whose first byte is given. -/
def readScalar (first : UInt8) (rest : List UInt8) : Reading Value :=
  if first = Byte.letterN then
    match readWord nullTail rest with
    | .ok rest => .ok (.null, rest)
    | .error stop => .error stop
  else if first = Byte.letterT then
    match readWord trueTail rest with
    | .ok rest => .ok (.boolean true, rest)
    | .error stop => .error stop
  else if first = Byte.letterF then
    match readWord falseTail rest with
    | .ok rest => .ok (.boolean false, rest)
    | .error stop => .error stop
  else if first = Byte.quote then
    match readText rest with
    | .ok (text, rest) => .ok (.text text, rest)
    | .error stop => .error stop
  else if first = Byte.minus ∨ Byte.isDigit first then
    match readNumber (first :: rest) with
    | .ok (n, rest) => .ok (.number n, rest)
    | .error stop => .error stop
  else stopAhead .expectedValue (first :: rest)

/-- The refusal of the value whose first byte is given, where another kind is expected. -/
def readMismatch {α : Type} (expected : String) (first : UInt8) (rest : List UInt8) : Reading α :=
  if first = Byte.openBracket then stopHere (.mismatch .sequence expected) (first :: rest)
  else if first = Byte.openBrace then stopHere (.mismatch .map expected) (first :: rest)
  else
    match readScalar first rest with
    | .ok (value, rest) => stopHere (.mismatch value.finding expected) rest
    | .error stop => .error stop

/-- The scalar at the front, if it passes a check. -/
def readChecked {α : Type} (expected : String) (check : Value → Except Cause α)
    (bytes : List UInt8) : Reading α :=
  match dropBlanks bytes with
  | [] => stopAhead .endInValue []
  | first :: rest =>
    if first = Byte.openBracket ∨ first = Byte.openBrace then readMismatch expected first rest
    else
      match readScalar first rest with
      | .error stop => .error stop
      | .ok (value, rest) =>
        match check value with
        | .ok a => .ok (a, rest)
        | .error cause => stopHere cause rest

theorem readScalar_shrinks {first : UInt8} {rest rest' : List UInt8} {value : Value}
    (hread : readScalar first rest = .ok (value, rest')) : rest'.length ≤ rest.length := by
  unfold readScalar at hread
  split at hread
  · split at hread
    case h_1 hword => cases hread; exact readWord_shrinks hword
    case h_2 => cases hread
  · split at hread
    · split at hread
      case h_1 hword => cases hread; exact readWord_shrinks hword
      case h_2 => cases hread
    · split at hread
      · split at hread
        case h_1 hword => cases hread; exact readWord_shrinks hword
        case h_2 => cases hread
      · split at hread
        · split at hread
          case h_1 htext => cases hread; exact Nat.le_of_lt (readText_shrinks htext)
          case h_2 => cases hread
        · split at hread
          · split at hread
            case h_1 hnumber =>
              cases hread
              exact Nat.le_of_lt_succ (readNumber_shrinks hnumber)
            case h_2 => cases hread
          · simp [stopAhead] at hread

theorem readMismatch_ne_ok {α : Type} {expected : String} {first : UInt8} {rest : List UInt8}
    {result : α × List UInt8} : readMismatch expected first rest ≠ .ok result := by
  unfold readMismatch
  split
  · simp [stopHere]
  · split
    · simp [stopHere]
    · split <;> simp [stopHere]

/-- The reader of scalars that pass a check. -/
def scalarReader {α : Type} (expected : String) (check : Value → Except Cause α) : Reader α where
  read := readChecked expected check
  shrinks := by
    intro bytes value rest hread
    unfold readChecked at hread
    split at hread
    · simp [stopAhead] at hread
    case h_2 first tail hfront =>
      have := length_lt_of_dropBlanks hfront
      split at hread
      · exact absurd hread readMismatch_ne_ok
      · split at hread
        · cases hread
        case h_2 hscalar =>
          have := readScalar_shrinks hscalar
          split at hread
          · cases hread
            omega
          · simp [stopHere] at hread

end ChatSteward.Json
