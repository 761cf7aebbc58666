import ChatSteward.Text.LetterTable

/-!
# Letters and numerals

Which characters may stand in a word of a command: the Alphabetic property and the numerals
of every script, not only of ASCII. ASCII is decided by its own ranges first, so a proof about
ASCII text never meets the tables.

## Main definitions

* `isLetter` — the Alphabetic property
* `isNumeral` — general category Nd, Nl or No
* `isWordChar` — a letter, a numeral or an underscore
-/

namespace ChatSteward.Text

/-- An ASCII letter, or an Alphabetic character beyond ASCII. -/
def isLetter (c : Char) : Bool :=
  if c.toNat < 0x80 then c.isAlpha else letterRanges.has c.toNat

/-- An ASCII digit, or a numeral beyond ASCII. -/
def isNumeral (c : Char) : Bool :=
  if c.toNat < 0x80 then c.isDigit else numeralRanges.has c.toNat

/-- A letter or a numeral. -/
def isAlphanumeric (c : Char) : Bool :=
  isLetter c || isNumeral c

/-- What the name of a command is made of. -/
def isWordChar (c : Char) : Bool :=
  isAlphanumeric c || c == '_'

end ChatSteward.Text
