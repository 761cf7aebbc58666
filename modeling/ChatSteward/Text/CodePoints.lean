/-!
# Sets of code points

A property of characters is kept as a list of closed ranges of code points in rising order.

## Main definitions

* `CodePointRanges` — the ranges
* `CodePointRanges.has` — membership
-/

namespace ChatSteward.Text

/-- Closed ranges of code points, first and last, in rising order. -/
abbrev CodePointRanges := List (Nat × Nat)

/-- Whether a code point lies in one of the ranges; the search stops at the first range
that starts beyond it. -/
def CodePointRanges.has : CodePointRanges → Nat → Bool
  | [], _ => false
  | (first, last) :: rest, n =>
    if n < first then false
    else if n ≤ last then true
    else CodePointRanges.has rest n

end ChatSteward.Text
