import ChatSteward.Text.CanonicalTable

/-!
# Canonical composition

The composed normal form of a text: every character is decomposed, the marks after a starter are
sorted by their combining classes, and then each mark or vowel that nothing blocks is composed
with its starter. Texts that look the same have the same normal form.

## Main definitions

* `combiningClass` — where a mark stands about its starter; starters have class zero
* `decomposed` — the full decomposition of a character
* `sortMarks` — marks in the order of their classes
* `composedFrom` — composition with one starter
* `normalForm` — the normal form of a text
-/

namespace ChatSteward.Text

/-- The combining class of a character. -/
def combiningClass (c : Char) : Nat :=
  ((combiningClasses.find? fun entry => entry.2.has c.toNat).map (·.1)).getD 0

/-! ## Hangul syllables -/

/-- The leading consonant, the vowel and perhaps the trailing consonant of a syllable. -/
def syllableParts? (c : Char) : Option (List Char) :=
  if 0xAC00 ≤ c.toNat ∧ c.toNat ≤ 0xD7A3 then
    let place := c.toNat - 0xAC00
    let trailing := if place % 28 = 0 then [] else [Char.ofNat (0x11A7 + place % 28)]
    some (Char.ofNat (0x1100 + place / 588) :: Char.ofNat (0x1161 + place % 588 / 28) :: trailing)
  else none

/-- The syllable of a leading consonant and a vowel, or of an open syllable and a trailing
consonant. -/
def syllable? (first second : Char) : Option Char :=
  let n := first.toNat
  let m := second.toNat
  if 0x1100 ≤ n ∧ n ≤ 0x1112 ∧ 0x1161 ≤ m ∧ m ≤ 0x1175 then
    some (Char.ofNat (0xAC00 + ((n - 0x1100) * 21 + (m - 0x1161)) * 28))
  else if 0xAC00 ≤ n ∧ n ≤ 0xD7A3 ∧ (n - 0xAC00) % 28 = 0 ∧ 0x11A8 ≤ m ∧ m ≤ 0x11C2 then
    some (Char.ofNat (n + (m - 0x11A7)))
  else none

/-! ## Decomposition -/

/-- The decomposition of a character into pairs, followed so many levels down. -/
def decomposedTo : (levels : Nat) → Char → List Char
  | 0, c => [c]
  | levels + 1, c =>
    match imageIn? compositeRuns c.toNat with
    | some (first :: rest) => decomposedTo levels first ++ rest
    | _ => [c]

/-- The full decomposition of a character. A composite is nested three levels deep at most. -/
def decomposed (c : Char) : List Char :=
  if c.toNat < 0xC0 then [c]
  else
    match syllableParts? c with
    | some parts => parts
    | none => (imageIn? replacedRuns c.toNat).getD (decomposedTo 3 c)

/-! ## The order of marks -/

/-- A character at its place before sorted text: behind the marks of lower classes. -/
def insertMark (c : Char) : List Char → List Char
  | [] => [c]
  | d :: rest =>
    if 0 < combiningClass d ∧ combiningClass d < combiningClass c then d :: insertMark c rest
    else c :: d :: rest

/-- A text with the marks after each starter in the order of their classes; marks of one class
keep their order. -/
def sortMarks (text : List Char) : List Char :=
  text.foldr insertMark []

/-! ## Composition -/

/-- The character that two characters are composed to. No mark lies below U+0300. -/
def composite? (first second : Char) : Option Char :=
  if second.toNat < 0x300 then none
  else
    match syllable? first second with
    | some c => some c
    | none => (preimageIn? compositeRuns [first, second]).map Char.ofNat

/-- Whether the marks kept between a starter and a character, in reverse, leave it in sight of
the starter. -/
def inSight (kept : List Char) (c : Char) : Bool :=
  match kept with
  | [] => true
  | mark :: _ => combiningClass mark < combiningClass c

/-- What is composed with the character at hand, if anything. -/
def composeInSight? (starter : Char) (kept : List Char) (c : Char) : Option Char :=
  if inSight kept c then composite? starter c else none

/-- The composition of a starter, the marks kept after it, in reverse, and what follows. -/
def composedFrom (starter : Char) (kept : List Char) : List Char → List Char
  | [] => starter :: kept.reverse
  | c :: rest =>
    match composeInSight? starter kept c with
    | some composed => composedFrom composed kept rest
    | none =>
      if combiningClass c = 0 then starter :: kept.reverse ++ composedFrom c [] rest
      else composedFrom starter (c :: kept) rest

/-- The composition of a text, in which marks before the first starter stay alone. -/
def composed : List Char → List Char
  | [] => []
  | c :: rest => if combiningClass c = 0 then composedFrom c [] rest else c :: composed rest

/-- The composed normal form of a text. -/
def normalForm (text : List Char) : List Char :=
  composed (sortMarks (text.flatMap decomposed))

end ChatSteward.Text
