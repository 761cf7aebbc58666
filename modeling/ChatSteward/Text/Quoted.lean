import ChatSteward.Text.QuotedTable

/-!
# Quoted text

A string shown in diagnostic text: between double quotes, with a backslash before a quote or
a backslash, short escapes for the commonest controls, and every other character that has no
glyph of its own shown by its number.

## Main definitions

* `hexDigits` — a number in lower-case hexadecimal
* `quotedChar` — how one character is shown
* `quoted` — a string between quotes
* `listed` — a bracketed list of shown values
-/

namespace ChatSteward.Text

/-- A number in lower-case hexadecimal, without leading zeros. -/
def hexDigits (n : Nat) : List Char :=
  Nat.toDigits 16 n

/-- Whether a character is shown by its number. -/
def isHidden (c : Char) : Bool :=
  if c.toNat < 0x7F then c.toNat < 0x20
  else combiningRanges.has c.toNat || unprintableRanges.has c.toNat

/-- How a quoted text shows one character. -/
def quotedChar (c : Char) : List Char :=
  if c = '\x00' then ['\\', '0']
  else if c = '\t' then ['\\', 't']
  else if c = '\r' then ['\\', 'r']
  else if c = '\n' then ['\\', 'n']
  else if c = '\\' then ['\\', '\\']
  else if c = '"' then ['\\', '"']
  else if isHidden c then ['\\', 'u', '\x7b'] ++ hexDigits c.toNat ++ ['\x7d']
  else [c]

/-- A string between double quotes. -/
def quoted (text : String) : String :=
  String.ofList ('"' :: text.toList.flatMap quotedChar ++ ['"'])

/-- Shown values between square brackets, with a comma and a space between them. -/
def listed (values : List String) : String :=
  "[" ++ String.intercalate ", " values ++ "]"

end ChatSteward.Text
