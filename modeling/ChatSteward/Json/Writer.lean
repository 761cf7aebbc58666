import ChatSteward.Json.Fault

/-!
# Writing JSON text

The compact text of a value: no blanks, members in the order in which they stand, strings with
escapes for quotes, backslashes and controls alone.

## Main definitions

* `Json.escaped` — the text of a string between its quotes
* `Json.Value.written` — the text of a value
* `Json.memberUnless` — a member of an object to be written
-/

namespace ChatSteward.Json

/-- A hexadecimal digit in lower case. -/
def hexDigitChar (n : Nat) : Char := Nat.digitChar n

/-- The text of one character between quotes. -/
def escapedChar (c : Char) : List Char :=
  if c = '"' then ['\\', '"']
  else if c = '\\' then ['\\', '\\']
  else if c = '\x08' then ['\\', 'b']
  else if c = '\x0c' then ['\\', 'f']
  else if c = '\n' then ['\\', 'n']
  else if c = '\r' then ['\\', 'r']
  else if c = '\t' then ['\\', 't']
  else if c.toNat < 0x20 then
    ['\\', 'u', '0', '0', hexDigitChar (c.toNat / 16), hexDigitChar (c.toNat % 16)]
  else [c]

/-- The text of a string between its quotes. -/
def escaped (text : List Char) : List Char := text.flatMap escapedChar

/-- The text of a string. -/
def writtenText (text : String) : List Char := '"' :: escaped text.toList ++ ['"']

/-- The text of a number. -/
def Number.written : Number → List Char
  | .integer n => (toString n).toList
  | .fraction x => (x.written numberLayout).toList

namespace Value

mutual

/-- The text of a value, as characters. -/
def chars : Value → List Char
  | .null => ['n', 'u', 'l', 'l']
  | .boolean true => ['t', 'r', 'u', 'e']
  | .boolean false => ['f', 'a', 'l', 's', 'e']
  | .number n => n.written
  | .text s => writtenText s
  | .array [] => ['[', ']']
  | .array (item :: rest) => '[' :: item.chars ++ itemsChars rest
  | .object [] => ['\x7b', '\x7d']
  | .object ((key, value) :: rest) =>
    '\x7b' :: writtenText key ++ ':' :: value.chars ++ membersChars rest

/-- The text of the items after the first, up to the closing bracket. -/
def itemsChars : List Value → List Char
  | [] => [']']
  | item :: rest => ',' :: item.chars ++ itemsChars rest

/-- The text of the members after the first, up to the closing brace. -/
def membersChars : List (String × Value) → List Char
  | [] => ['\x7d']
  | (key, value) :: rest =>
    ',' :: writtenText key ++ ':' :: value.chars ++ membersChars rest

end

/-- The text of a value. -/
def written (value : Value) : String := String.ofList value.chars

/-! ## Building values -/

/-- An integer. -/
def ofNat (n : Nat) : Value := .number (.integer n)

/-- An array of strings. -/
def ofTexts (texts : List String) : Value := .array (texts.map .text)

end Value

/-- A member unless its value is to be left out. -/
def memberUnless (leftOut : Bool) (key : String) (value : Value) : List (String × Value) :=
  if leftOut then [] else [(key, value)]

end ChatSteward.Json
