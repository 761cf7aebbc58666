import ChatSteward.Text.Split

/-!
# Runs of images

A table that gives characters a text each, kept as runs of consecutive code points with their
texts in one string, a space between each two.

## Main definitions

* `ImageRun` — a run of code points with their texts
* `ImageRun.image?`, `imageIn?` — the text of a code point in a run and in a table
* `ImageRun.preimage?`, `preimageIn?` — the first code point with a text
-/

namespace ChatSteward.Text

/-- The code points from `first` to `last`, with a text for each in `images`. -/
structure ImageRun where
  first : Nat
  last : Nat
  images : String

namespace ImageRun

/-- The texts of a run, in the order of the code points. -/
def texts (run : ImageRun) : List (List Char) := splitAt ' ' run.images.toList

/-- The text of a code point of the run. -/
def image? (run : ImageRun) (n : Nat) : Option (List Char) :=
  if run.first ≤ n ∧ n ≤ run.last then run.texts[n - run.first]? else none

/-- The first code point of the run with a text. -/
def preimage? (run : ImageRun) (text : List Char) : Option Nat :=
  (run.texts.findIdx? (· = text)).map (run.first + ·)

end ImageRun

/-- The text of a code point in a table. -/
def imageIn? (runs : List ImageRun) (n : Nat) : Option (List Char) :=
  runs.findSome? (·.image? n)

/-- The first code point of a table with a text. -/
def preimageIn? (runs : List ImageRun) (text : List Char) : Option Nat :=
  runs.findSome? (·.preimage? text)

end ChatSteward.Text
