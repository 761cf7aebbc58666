import ChatSteward.Text.Utf8

/-!
# Percent encoding

Bytes that a part of an address cannot hold are written as a percent sign and two hexadecimal
digits in upper case. The values of a query are written as a form is: a space becomes a plus
sign, and letters, digits and `*`, `-`, `.`, `_` stay as they are.

## Main definitions

* `percentEncode` — a text with some ASCII characters and all others beyond ASCII encoded
* `formEncode`, `formQuery` — a value and a list of pairs as a form writes them
-/

namespace ChatSteward.Http

/-- A hexadecimal digit in upper case. -/
def upperHexDigit (n : Nat) : Char := (Nat.digitChar n).toUpper

/-- A byte as a percent sign and two digits. -/
def percentByte (b : UInt8) : List Char :=
  ['%', upperHexDigit (b.toNat / 16), upperHexDigit (b.toNat % 16)]

/-- A text with every byte encoded that is not an ASCII character to be kept. -/
def percentEncode (kept : Char → Bool) (text : List Char) : List Char :=
  text.flatMap fun c =>
    if c.toNat < 0x80 ∧ kept c then [c]
    else (Text.encodeUtf8 (String.singleton c)).flatMap percentByte

/-- Whether a form keeps an ASCII character. -/
def formKeeps (c : Char) : Bool :=
  c.isAlphanum || c == '*' || c == '-' || c == '.' || c == '_'

/-- A value as a form writes it. -/
def formEncode (text : String) : String :=
  String.ofList <| text.toList.flatMap fun c =>
    if c = ' ' then ['+'] else percentEncode formKeeps [c]

/-- Pairs as a form writes them. -/
def formQuery (pairs : List (String × String)) : String :=
  String.intercalate "&" (pairs.map fun pair => formEncode pair.1 ++ "=" ++ formEncode pair.2)

end ChatSteward.Http
