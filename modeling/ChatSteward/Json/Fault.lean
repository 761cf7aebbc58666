import ChatSteward.Json.Value
import ChatSteward.Number.Layout
import ChatSteward.Text.Quoted

/-!
# Faults of JSON text

Why a JSON text cannot be read as a value of some type, and where. A fault is either a fault
of syntax or a value that does not fit the type; its place is a line and a column, both counted
in bytes from the start of the text, or nothing when a generic value was decoded.

## Main definitions

* `Json.numberLayout` — how JSON text writes binary fractions
* `Json.Finding`, `Json.Cause` — what was found, and what is wrong with it
* `Json.Position` — a line and a column
* `Json.Fault` — a cause and its place
* `Json.Fault.message` — the text of a fault
-/

namespace ChatSteward.Json

/-- JSON text writes fractions positionally from `0.00001` to below `1e+16`, whole ones with
`.0` at the end, and marks a rising power of ten with a plus sign. -/
def numberLayout : NumberLayout := ⟨-5, 15, ".0", "+"⟩

/-- What stands in the place of the expected value. -/
inductive Finding where
  | null
  | boolean (value : Bool)
  | integer (value : Int)
  | fraction (value : Binary64)
  | text (value : String)
  | sequence
  | map
deriving Repr, DecidableEq

/-- The wording of a finding. -/
def Finding.description : Finding → String
  | .null => "null"
  | .boolean b => "boolean `" ++ (if b then "true" else "false") ++ "`"
  | .integer n => "integer `" ++ toString n ++ "`"
  | .fraction x => "floating point `" ++ x.written numberLayout ++ "`"
  | .text s => "string " ++ Text.quoted s
  | .sequence => "sequence"
  | .map => "map"

/-- What a value is found to be. -/
def Value.finding : Value → Finding
  | .null => .null
  | .boolean b => .boolean b
  | .number (.integer n) => .integer n
  | .number (.fraction x) => .fraction x
  | .text s => .text s
  | .array _ => .sequence
  | .object _ => .map

/-- What is wrong with a text or a value. -/
inductive Cause where
  /-- The text ends where a value should go on. -/
  | endInValue
  /-- The text ends inside an object. -/
  | endInObject
  /-- The text ends inside an array. -/
  | endInArray
  /-- The text ends inside a string. -/
  | endInText
  | expectedColon
  | expectedArrayEnd
  | expectedObjectEnd
  /-- A word that starts like `null`, `true` or `false` goes on otherwise. -/
  | expectedWord
  | expectedValue
  | invalidEscape
  | invalidNumber
  | numberOutOfRange
  | invalidCodePoint
  | controlCharacter
  | keyNotText
  | loneSurrogate
  | missingSurrogate
  | trailingComma
  | trailingCharacters
  | tooDeep
  /-- A value of another type than expected. -/
  | mismatch (found : Finding) (expected : String)
  /-- A value of the expected type, but out of its bounds. -/
  | outOfBounds (found : Finding) (expected : String)
  /-- An array with another number of items than expected. -/
  | wrongLength (length : Nat) (expected : String)
  | missingField (name : String)
  | duplicateField (name : String)
  | unknownVariant (name : String) (known : List String)
deriving Repr, DecidableEq

/-- The wording of a cause. -/
def Cause.description : Cause → String
  | .endInValue => "EOF while parsing a value"
  | .endInObject => "EOF while parsing an object"
  | .endInArray => "EOF while parsing a list"
  | .endInText => "EOF while parsing a string"
  | .expectedColon => "expected `:`"
  | .expectedArrayEnd => "expected `,` or `]`"
  | .expectedObjectEnd => "expected `,` or `\x7d`"
  | .expectedWord => "expected ident"
  | .expectedValue => "expected value"
  | .invalidEscape => "invalid escape"
  | .invalidNumber => "invalid number"
  | .numberOutOfRange => "number out of range"
  | .invalidCodePoint => "invalid unicode code point"
  | .controlCharacter =>
    "control character (\\u0000-\\u001F) found while parsing a string"
  | .keyNotText => "key must be a string"
  | .loneSurrogate => "lone leading surrogate in hex escape"
  | .missingSurrogate => "unexpected end of hex escape"
  | .trailingComma => "trailing comma"
  | .trailingCharacters => "trailing characters"
  | .tooDeep => "recursion limit exceeded"
  | .mismatch found expected => "invalid type: " ++ found.description ++ ", expected " ++ expected
  | .outOfBounds found expected =>
    "invalid value: " ++ found.description ++ ", expected " ++ expected
  | .wrongLength length expected =>
    "invalid length " ++ Nat.repr length ++ ", expected " ++ expected
  | .missingField name => "missing field `" ++ name ++ "`"
  | .duplicateField name => "duplicate field `" ++ name ++ "`"
  | .unknownVariant name known =>
    "unknown variant `" ++ name ++ "`, expected one of " ++
      String.intercalate ", " (known.map fun variant => "`" ++ variant ++ "`")

/-- A place in a text: the line, counted from one, and the bytes of it that were read. -/
structure Position where
  line : Nat
  column : Nat
deriving Repr, DecidableEq

/-- The place after some bytes. -/
def Position.after (bytes : List UInt8) : Position :=
  bytes.foldl
    (fun place byte => if byte = 10 then ⟨place.line + 1, 0⟩ else ⟨place.line, place.column + 1⟩)
    ⟨1, 0⟩

/-- A cause and, for a fault of a text, its place. -/
structure Fault where
  cause : Cause
  place : Option Position
deriving Repr, DecidableEq

/-- The text of a fault. -/
def Fault.message (fault : Fault) : String :=
  match fault.place with
  | none => fault.cause.description
  | some place =>
    fault.cause.description ++ " at line " ++ Nat.repr place.line ++ " column " ++
      Nat.repr place.column

end ChatSteward.Json
