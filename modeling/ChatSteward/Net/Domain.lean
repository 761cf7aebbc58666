import ChatSteward.Net.DomainTable
import ChatSteward.Net.Punycode
import ChatSteward.Text.Line
import ChatSteward.Text.Lowercase

/-!
# Domain names

A domain name in any script stands for a name in ASCII. Its characters are replaced by what they
stand for, small letters above all, and put into normal form; each label between dots is then
checked and, if it is not in ASCII, written in Punycode behind `xn--`. A label that comes in this
form is decoded and checked alike. Names with letters that are written from right to left follow
further rules, so that a name looks the same in either direction.

## Main definitions

* `Domain.image?` — what a character stands for
* `Domain.Label`, `Domain.Label.ofText?` — a label that is well formed
* `Domain.toAscii?` — a name in ASCII
-/

namespace ChatSteward.Net.Domain

open Text (Direction)

/-- What a character stands for in a domain name, if it may stand there. -/
def image? (c : Char) : Option (List Char) :=
  let n := c.toNat
  if n < 0x80 then some [c.toLower]
  else if ignoredRanges.has n then some []
  else if keptRanges.has n then some [c]
  else
    match Text.imageIn? nameImageRuns n with
    | some image => some image
    | none =>
      if refusedRanges.has n || Text.unprintableRanges.has n then none
      else some (Text.lowercaseOf c)

/-! ## Joiners -/

/-- Whether a character is one of the two characters that join or part others. -/
def isJoiner (c : Char) : Bool := c == '\u200c' || c == '\u200d'

/-- Whether a joiner has its place between two texts, of which the first is given in reverse:
after a mark that takes away the vowel, or, if it parts, between letters that would join. -/
def joinerFits (reversed : List Char) (joiner : Char) (after : List Char) : Bool :=
  match reversed with
  | [] => false
  | c :: _ =>
    Text.combiningClass c == 9 ||
      (joiner == '\u200c' && Text.joinsForward reversed && Text.joinsBackward after)

/-- Whether every joiner of a text has its place; `reversed` is what comes before. -/
def joinersFit : (reversed text : List Char) → Bool
  | _, [] => true
  | reversed, c :: rest =>
    (!isJoiner c || joinerFits reversed c rest) && joinersFit (c :: reversed) rest

/-! ## Labels -/

/-- A label: its characters, and how it is written in ASCII. -/
structure Label where
  characters : List Char
  written : List Char

/-- What marks a label in Punycode. -/
def marker : List Char := ['x', 'n', '-', '-']

/-- The greatest number of characters that are encoded. -/
def encodedLimit : Nat := 1000

/-- The greatest number of characters that are decoded. -/
def decodedLimit : Nat := 2000

/-- Whether a label does not begin with a mark, and every joiner has its place. -/
def isWellFormed (label : List Char) : Bool :=
  !(label.head?.map Text.isMark).getD false && joinersFit [] label

/-- The characters of a label in Punycode, given without its marker. They must be such that
replacement and normal form leave them as they are, and not all ASCII, which ends in a hyphen. -/
def decodedLabel? (text : List Char) : Option (List Char) :=
  if text.isEmpty ∨ text.getLast? = some '-' ∨ decodedLimit < text.length then none
  else
    match Punycode.decode? text with
    | none => none
    | some label =>
      if label.all (fun c => image? c = some [c]) ∧ Text.normalForm label = label ∧
          ¬ marker.isPrefixOf label ∧ isWellFormed label then some label
      else none

namespace Label

/-- The label of a text in normal form, if it is well formed. -/
def ofText? (text : List Char) : Option Label :=
  let isAscii := text.all (·.toNat < 0x80)
  if marker.isPrefixOf text then
    if isAscii then (decodedLabel? (text.drop marker.length)).map (⟨·, text⟩) else none
  else if isAscii then some ⟨text, text⟩
  else if isWellFormed text ∧ text.length ≤ encodedLimit then
    some ⟨text, marker ++ Punycode.encode text⟩
  else none

/-- Whether some of a label is written from right to left. -/
def hasRightward (label : Label) : Bool :=
  label.characters.any fun c => Text.direction c = .right || Text.direction c = .arabicNumber

/-- Directions without the nonspacing marks at their end. -/
def withoutLastMarks (directions : List Direction) : List Direction :=
  (directions.reverse.dropWhile (· = .nonspacing)).reverse

/-- Whether a label keeps its shape in a name that has letters from right to left: it starts with
a letter, ends with a letter or a digit of its direction, and has no character of the other. -/
def keepsShape (label : Label) : Bool :=
  match label.characters.map Text.direction with
  | [] => true
  | .left :: rest =>
    rest.all (fun d => d != .right && d != .arabicNumber) &&
      ((withoutLastMarks rest).getLast?.map fun d => d == .left || d == .number).getD true
  | .right :: rest =>
    rest.all (· != .left) && !(rest.contains .number && rest.contains .arabicNumber) &&
      ((withoutLastMarks rest).getLast?.map (· != .neutral)).getD true
  | _ => false

end Label

/-! ## Names -/

/-- A domain name in ASCII, if it is well formed. -/
def toAscii? (name : List Char) : Option (List Char) := do
  let images ← name.mapM image?
  let labels ← (Text.splitAt '.' (Text.normalForm images.flatten)).mapM Label.ofText?
  if labels.any Label.hasRightward && !labels.all Label.keepsShape then none
  else return Text.joinWith ['.'] (labels.map Label.written)

end ChatSteward.Net.Domain
