import ChatSteward.Json.Enclosed
import ChatSteward.Json.Skip

/-!
# Decoders

A decoder takes values of one type both from JSON text and from generic values. From text it
stops at the first fault in reading order, whether of syntax or of type; arrays and objects may
nest 127 deep. From a generic value there are faults of type alone.

## Main definitions

* `Json.Decoder` — the two ways to take a value
* `Json.Decoder.decode` — a whole text as one value
* `Json.Decoder.text`, `.boolean`, `.integer`, `.optional`, `.list`, `.dictionary`, `.value` —
  the decoders of the basic types
-/

namespace ChatSteward.Json

/-- A way to take values of a type from JSON text and from generic values. -/
structure Decoder (α : Type) where
  /-- The reader of text that may open so many more enclosures within each other. -/
  reader : Nat → Reader α
  ofValue : Value → Except Cause α

namespace Decoder

/-- How many enclosures may be open within each other. -/
def greatestDepth : Nat := 127

/-- The value of a whole text. -/
def decode {α : Type} (decoder : Decoder α) (bytes : List UInt8) : Except Fault α :=
  match (decoder.reader greatestDepth).read bytes with
  | .error stop => .error (stop.fault bytes)
  | .ok (value, rest) =>
    match dropBlanks rest with
    | [] => .ok value
    | rest =>
      .error ((Stop.placed .trailingCharacters (rest.length - 1)).fault bytes)

/-- The decoder that changes the decoded value. -/
def map {α β : Type} (f : α → β) (decoder : Decoder α) : Decoder β where
  reader depth := (decoder.reader depth).map f
  ofValue value := (decoder.ofValue value).map f

/-! ## Scalars -/

/-- The decoder of scalars that pass a check. The check refuses arrays and objects. -/
def scalar {α : Type} (expected : String) (check : Value → Except Cause α) : Decoder α where
  reader _ := scalarReader expected check
  ofValue := check

/-- Strings. -/
def text : Decoder String :=
  scalar "a string" fun
    | .text s => .ok s
    | other => .error (.mismatch other.finding "a string")

/-- Truth values. -/
def boolean : Decoder Bool :=
  scalar "a boolean" fun
    | .boolean b => .ok b
    | other => .error (.mismatch other.finding "a boolean")

/-- Integers within bounds, named for faults. -/
def integer (expected : String) (least greatest : Int) : Decoder Int :=
  scalar expected fun
    | .number (.integer n) =>
      if least ≤ n ∧ n ≤ greatest then .ok n else .error (.outOfBounds (.integer n) expected)
    | other => .error (.mismatch other.finding expected)

/-- Signed integers of 64 bits. -/
def int64 : Decoder Int := integer "i64" (-(greatestSigned : Int) - 1) greatestSigned

/-- Unsigned integers of 64 bits. -/
def nat64 : Decoder Nat := (integer "u64" 0 greatestUnsigned).map Int.toNat

/-- Unsigned integers of 32 bits. -/
def word32 : Decoder UInt32 :=
  (integer "u32" 0 (UInt32.size - 1 : Nat)).map fun n => n.toNat.toUInt32

/-! ## Optional and ignored values -/

/-- A value or `null`. -/
def optional {α : Type} (decoder : Decoder α) : Decoder (Option α) where
  reader depth :=
    { read := fun bytes =>
        match dropBlanks bytes with
        | Byte.letterN :: rest =>
          match readWord nullTail rest with
          | .ok rest => .ok (none, rest)
          | .error stop => .error stop
        | _ => ((decoder.reader depth).map some).read bytes
      shrinks := by
        intro bytes value rest hread
        split at hread
        case h_1 hfront =>
          have := length_lt_of_dropBlanks hfront
          split at hread
          case h_1 hword =>
            cases hread
            exact Nat.lt_of_le_of_lt (readWord_shrinks hword) this
          case h_2 => cases hread
        case h_2 => exact ((decoder.reader depth).map some).shrinks hread }
  ofValue
    | .null => .ok none
    | value => (decoder.ofValue value).map some

/-- Any value, which is not kept. -/
def ignored : Decoder Unit where
  reader _ := skipped
  ofValue _ := .ok ()

/-! ## Arrays and objects -/

/-- An array whose items are read by `inside`, which gets the unread bytes after the opening
bracket; anything else is refused, and so is an array when `depth` is used up. -/
def readArray {α : Type} (expected : String) (depth : Nat) (inside : List UInt8 → Reading α)
    (bytes : List UInt8) : Reading α :=
  match dropBlanks bytes with
  | [] => stopAhead .endInValue []
  | first :: rest =>
    if first = Byte.openBracket then
      if depth = 0 then stopAhead .tooDeep (first :: rest) else closeArray (inside rest)
    else readMismatch expected first rest

theorem readArray_shrinks {α : Type} {expected : String} {depth : Nat}
    {inside : List UInt8 → Reading α} {bytes rest : List UInt8} {value : α}
    (hinside : ∀ {bytes value rest}, inside bytes = .ok (value, rest) →
      rest.length ≤ bytes.length)
    (hread : readArray expected depth inside bytes = .ok (value, rest)) :
    rest.length < bytes.length := by
  unfold readArray at hread
  split at hread
  · simp [stopAhead] at hread
  case h_2 first tail hfront =>
    have := length_lt_of_dropBlanks hfront
    split at hread
    · split at hread
      · simp [stopAhead] at hread
      · obtain ⟨within, hvisited, hless⟩ := closeArray_shrinks hread
        have := hinside hvisited
        omega
    · exact absurd hread readMismatch_ne_ok

/-- An object whose members are read by `inside`, as for arrays. -/
def readObject {α : Type} (expected : String) (depth : Nat) (inside : List UInt8 → Reading α)
    (bytes : List UInt8) : Reading α :=
  match dropBlanks bytes with
  | [] => stopAhead .endInValue []
  | first :: rest =>
    if first = Byte.openBrace then
      if depth = 0 then stopAhead .tooDeep (first :: rest) else closeObject (inside rest)
    else readMismatch expected first rest

theorem readObject_shrinks {α : Type} {expected : String} {depth : Nat}
    {inside : List UInt8 → Reading α} {bytes rest : List UInt8} {value : α}
    (hinside : ∀ {bytes value rest}, inside bytes = .ok (value, rest) →
      rest.length ≤ bytes.length)
    (hread : readObject expected depth inside bytes = .ok (value, rest)) :
    rest.length < bytes.length := by
  unfold readObject at hread
  split at hread
  · simp [stopAhead] at hread
  case h_2 first tail hfront =>
    have := length_lt_of_dropBlanks hfront
    split at hread
    · split at hread
      · simp [stopAhead] at hread
      · obtain ⟨within, hvisited, hless⟩ := closeObject_shrinks hread
        have := hinside hvisited
        omega
    · exact absurd hread readMismatch_ne_ok

/-- The reader of arrays whose items are read by `inside`. -/
def arrayReader {α : Type} (expected : String) (depth : Nat) (inside : List UInt8 → Reading α)
    (hinside : ∀ {bytes value rest}, inside bytes = .ok (value, rest) →
      rest.length ≤ bytes.length) : Reader α :=
  ⟨readArray expected depth inside, readArray_shrinks hinside⟩

/-- The reader of objects whose members are read by `inside`. -/
def objectReader {α : Type} (expected : String) (depth : Nat) (inside : List UInt8 → Reading α)
    (hinside : ∀ {bytes value rest}, inside bytes = .ok (value, rest) →
      rest.length ≤ bytes.length) : Reader α :=
  ⟨readObject expected depth inside, readObject_shrinks hinside⟩

/-- The reader that leaves arrays to one reader and everything else to another. -/
def arrayOr {α : Type} (onArray other : Reader α) : Reader α where
  read bytes :=
    match dropBlanks bytes with
    | Byte.openBracket :: _ => onArray.read bytes
    | _ => other.read bytes
  shrinks := by
    intro bytes value rest hread
    split at hread
    · exact onArray.shrinks hread
    · exact other.shrinks hread

/-- The reader that leaves objects to one reader and everything else to another. -/
def objectOr {α : Type} (onObject other : Reader α) : Reader α where
  read bytes :=
    match dropBlanks bytes with
    | Byte.openBrace :: _ => onObject.read bytes
    | _ => other.read bytes
  shrinks := by
    intro bytes value rest hread
    split at hread
    · exact onObject.shrinks hread
    · exact other.shrinks hread

/-- Lists. -/
def list {α : Type} (item : Decoder α) : Decoder (List α) where
  reader depth :=
    arrayReader "a sequence" depth (readItems (item.reader (depth - 1))) readItems_shrinks
  ofValue
    | .array items => items.mapM item.ofValue
    | other => .error (.mismatch other.finding "a sequence")

/-- The step that puts a member into a dictionary. -/
def insertStep {α : Type} (item : Reader α) : MemberStep (List (String × α)) where
  take map key bytes :=
    match readColon bytes with
    | .error stop => .error stop
    | .ok rest =>
      match item.read rest with
      | .error stop => .error stop
      | .ok (value, rest) => .ok (Dictionary.insert key value map, rest)
  shrinks := by
    intro map key bytes map' rest hread
    split at hread
    · cases hread
    case h_2 hcolon =>
      have := readColon_shrinks hcolon
      split at hread
      · cases hread
      case h_2 hitem =>
        have := item.shrinks hitem
        cases hread
        omega

/-- Maps from strings, the last value of a key winning. -/
def dictionary {α : Type} (item : Decoder α) : Decoder (List (String × α)) where
  reader depth :=
    objectReader "a map" depth (readMembers (insertStep (item.reader (depth - 1))) [])
      readMembers_shrinks
  ofValue
    | .object members => do
      let pairs ← members.mapM fun (key, value) => do return (key, ← item.ofValue value)
      return Dictionary.ofPairs pairs
    | other => .error (.mismatch other.finding "a map")

/-! ## Generic values -/

/-- The reader of scalars as generic values. -/
def scalarValueReader : Reader Value := scalarReader "any value" .ok

/-- The reader of generic values whose items and members are read by `inner`. -/
def valueReaderWith (depth : Nat) (inner : Reader Value) : Reader Value :=
  arrayOr ((arrayReader "any value" depth (readItems inner) readItems_shrinks).map .array)
    (objectOr
      ((objectReader "any value" depth (readMembers (insertStep inner) [])
        readMembers_shrinks).map .object)
      scalarValueReader)

/-- The reader of generic values, with the members of objects sorted by key. -/
def valueReader : Nat → Reader Value
  | 0 => valueReaderWith 0 scalarValueReader
  | depth + 1 => valueReaderWith (depth + 1) (valueReader depth)

/-- Values of any kind. -/
def value : Decoder Value where
  reader := valueReader
  ofValue := .ok

end Decoder

end ChatSteward.Json
