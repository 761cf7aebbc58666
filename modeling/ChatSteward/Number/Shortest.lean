import ChatSteward.Number.Binary64

/-!
# Shortest decimals

Among the decimals that read back as a given binary number, the one with the fewest digits,
and of those the one nearest to it. For every digit count the only candidates are the number's
two neighbours on the grid of decimals with that many digits, so the search is finite and all
of its arithmetic is exact.

## Main definitions

* `Decimal` — a coefficient and a power of ten
* `Neighbourhood` — the decimals that read back as a number
* `Binary64.shortest` — the fewest digits
-/

namespace ChatSteward

/-- The number `coefficient * 10 ^ exponent`. -/
structure Decimal where
  coefficient : Nat
  exponent : Int
deriving DecidableEq, Repr

/-- The quotients that round to one binary number, over a common denominator: from `low` to
`high`, with the two ends if `closed`; the number itself is `middle`. -/
structure Neighbourhood where
  low : Nat
  middle : Nat
  high : Nat
  denominator : Nat
  closed : Bool

namespace Neighbourhood

/-- The neighbourhood of a magnitude: it ends half way to the next numbers, of which the lower
is closer at a power of two. -/
def of (x : Binary64) : Neighbourhood :=
  let factor := Nat.pow 2 x.exponent.toNat
  let below :=
    if x.significand = Binary64.leastFull ∧ Binary64.leastExponent < x.exponent then 1 else 2
  { low := (4 * x.significand - below) * factor
    middle := 4 * x.significand * factor
    high := (4 * x.significand + 2) * factor
    denominator := 4 * Nat.pow 2 (-x.exponent).toNat
    closed := x.significand % 2 = 0 }

/-- Whether a decimal lies in the neighbourhood. -/
def has (around : Neighbourhood) (d : Decimal) : Bool :=
  let top := d.coefficient * Nat.pow 10 d.exponent.toNat * around.denominator
  let scale := Nat.pow 10 (-d.exponent).toNat
  if around.closed then around.low * scale ≤ top && top ≤ around.high * scale
  else around.low * scale < top && top < around.high * scale

/-- The power of ten of the leading digit. -/
def leading (around : Neighbourhood) : Int :=
  let guess : Int :=
    ((Nat.toDigits 10 around.middle).length : Int) - (Nat.toDigits 10 around.denominator).length
  let top := around.middle * Nat.pow 10 (-guess).toNat
  let bottom := around.denominator * Nat.pow 10 guess.toNat
  if bottom ≤ top then guess else guess - 1

/-- The decimal with a digit count that reads back, if there is one: of the two neighbours on
the grid the one that reads back, of two such the nearer, of two equally near the even one. -/
def onGrid? (around : Neighbourhood) (digits : Nat) : Option Decimal :=
  let exponent := around.leading + 1 - digits
  let top := around.middle * Nat.pow 10 (-exponent).toNat
  let bottom := around.denominator * Nat.pow 10 exponent.toNat
  let lower : Decimal := ⟨top / bottom, exponent⟩
  let upper : Decimal := ⟨top / bottom + 1, exponent⟩
  match around.has lower, around.has upper with
  | true, true => some ⟨Binary64.roundQuotient top bottom, exponent⟩
  | true, false => some lower
  | false, true => some upper
  | false, false => none

end Neighbourhood

/-- The same number with no zero at the end of its coefficient. -/
def Decimal.strip (d : Decimal) : Decimal :=
  if d.coefficient ≠ 0 ∧ d.coefficient % 10 = 0 then
    Decimal.strip ⟨d.coefficient / 10, d.exponent + 1⟩
  else d
termination_by d.coefficient
decreasing_by omega

/-- The shortest decimal that reads back as a magnitude; seventeen digits always do. -/
def Binary64.shortest (x : Binary64) : Decimal :=
  if x.significand = 0 then ⟨0, 0⟩
  else
    let around := Neighbourhood.of x
    (((List.range 17).findSome? fun n => around.onGrid? (n + 1)).getD ⟨0, 0⟩).strip

end ChatSteward
