import ChatSteward.Text.LowercaseTable

/-!
# Lower case

The full lower-casing of a text. Every character has its own image, with two exceptions: the
dotted capital I becomes two characters, and a capital sigma becomes a final sigma where a
cased character comes before it and none after it, case-ignorable characters not counting.

## Main definitions

* `lowercaseOf` — the image of one character apart from its neighbours
* `endsWord` — whether a sigma between two texts is final
* `lowercase` — the lower-casing of a text
-/

namespace ChatSteward.Text

/-- The image of a code point beyond ASCII in a table of runs, or the code point itself. -/
def lowercaseIn (runs : List LowercaseRun) (n : Nat) : Nat :=
  (runs.findSome? (·.image? n)).getD n

/-- The lower-case form of one character. -/
def lowercaseOf (c : Char) : List Char :=
  if c.toNat < 0x80 then [c.toLower]
  else if c = 'İ' then ['i', '\u0307']
  else [Char.ofNat (lowercaseIn lowercaseRuns c.toNat)]

/-- Whether the first character that is not case-ignorable is cased. -/
def startsCased (text : List Char) : Bool :=
  match text.dropWhile (fun c => caseIgnorableRanges.has c.toNat) with
  | [] => false
  | c :: _ => casedRanges.has c.toNat

/-- Whether a sigma ends its word: `before` is read backwards from it and `after` forwards. -/
def endsWord (before after : List Char) : Bool :=
  startsCased before && !startsCased after

/-- Lower-casing of what follows `before`, which is kept in reverse. -/
def lowercaseAfter : (before text : List Char) → List Char
  | _, [] => []
  | before, c :: rest =>
    (if c = 'Σ' then [if endsWord before rest then 'ς' else 'σ'] else lowercaseOf c) ++
      lowercaseAfter (c :: before) rest

/-- The lower-casing of a text. -/
def lowercase (text : List Char) : List Char :=
  lowercaseAfter [] text

/-! ## ASCII -/

theorem lowercaseOf_ascii {c : Char} (hascii : c.toNat < 0x80) : lowercaseOf c = [c.toLower] := by
  simp [lowercaseOf, hascii]

theorem lowercaseAfter_ascii (before text : List Char) (hascii : ∀ c ∈ text, c.toNat < 0x80) :
    lowercaseAfter before text = text.map Char.toLower := by
  induction text generalizing before with
  | nil => rfl
  | cons c rest ih =>
    have hc : c.toNat < 0x80 := hascii c (by simp)
    have hsigma : c ≠ 'Σ' := by
      rintro rfl
      exact absurd hc (by decide)
    have hrest := ih (c :: before) (fun d hd => hascii d (by simp [hd]))
    simp [lowercaseAfter, hsigma, lowercaseOf_ascii hc, hrest]

/-- ASCII text is lower-cased character by character. -/
theorem lowercase_ascii {text : List Char} (hascii : ∀ c ∈ text, c.toNat < 0x80) :
    lowercase text = text.map Char.toLower :=
  lowercaseAfter_ascii [] text hascii

end ChatSteward.Text
