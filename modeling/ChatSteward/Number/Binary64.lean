/-!
# Binary fractions of 64 bits

Finite numbers of the 64-bit binary format, kept as a sign, a significand and a power of two,
with exact rounding of quotients to the nearest of them, ties going to the even significand.

## Main definitions

* `Binary64` — the numbers
* `Binary64.nearest?` — the number nearest to a quotient of naturals
* `Binary64.mul?`, `Binary64.div?` — rounded product and quotient of magnitudes
* `Binary64.ofParts?` — the number read from a decimal significand and exponent
-/

namespace ChatSteward

/-- A finite number `significand * 2 ^ exponent`, negated if `negative`. The significand has at
most 53 bits, and exactly 53 unless the exponent is the least one. -/
structure Binary64 where
  negative : Bool
  significand : Nat
  exponent : Int
deriving DecidableEq, Repr

namespace Binary64

/-- The least exponent. -/
def leastExponent : Int := -1074

/-- The greatest exponent. -/
def greatestExponent : Int := 971

/-- The least significand of 53 bits. -/
def leastFull : Nat := Nat.pow 2 52

/-- Zero. -/
def zero : Binary64 := ⟨false, 0, leastExponent⟩

/-- The magnitude as a quotient of naturals. -/
def ratio (x : Binary64) : Nat × Nat :=
  (x.significand * Nat.pow 2 x.exponent.toNat, Nat.pow 2 (-x.exponent).toNat)

/-- A quotient rounded to the nearest natural, a tie to the even one. -/
def roundQuotient (numerator denominator : Nat) : Nat :=
  let quotient := numerator / denominator
  let twice := 2 * (numerator % denominator)
  if twice < denominator then quotient
  else if denominator < twice then quotient + 1
  else if quotient % 2 = 0 then quotient else quotient + 1

/-- The quotient divided by a power of two, as a quotient. -/
def scaled (numerator denominator : Nat) (exponent : Int) : Nat × Nat :=
  (numerator * Nat.pow 2 (-exponent).toNat, denominator * Nat.pow 2 exponent.toNat)

/-- The exponent at which a quotient has a significand of 53 bits, or the least exponent. -/
def exponentFor (numerator denominator : Nat) : Int :=
  let guess : Int := (numerator.log2 : Int) - denominator.log2 - 52
  let (top, bottom) := scaled numerator denominator guess
  let exact := if top / bottom < leastFull then guess - 1 else guess
  max exact leastExponent

/-- The number nearest to a quotient, ties to even; none beyond the greatest number. -/
def nearest? (numerator denominator : Nat) : Option Binary64 :=
  if numerator = 0 then some zero
  else
    let exponent := exponentFor numerator denominator
    let (top, bottom) := scaled numerator denominator exponent
    let significand := roundQuotient top bottom
    let (significand, exponent) :=
      if significand = 2 * leastFull then (leastFull, exponent + 1) else (significand, exponent)
    if greatestExponent < exponent then none else some ⟨false, significand, exponent⟩

/-- The rounded product of two magnitudes. -/
def mul? (x y : Binary64) : Option Binary64 :=
  nearest? (x.ratio.1 * y.ratio.1) (x.ratio.2 * y.ratio.2)

/-- The rounded quotient of two magnitudes. -/
def div? (x y : Binary64) : Option Binary64 :=
  nearest? (x.ratio.1 * y.ratio.2) (x.ratio.2 * y.ratio.1)

/-- The number nearest to a power of ten. -/
def tenTo? (k : Nat) : Option Binary64 :=
  nearest? (Nat.pow 10 k) 1

/-- The magnitude `x * 10 ^ exponent`, where each power of ten up to `10 ^ 308` is first
rounded itself and a smaller factor is divided out in steps; none when it is too large. -/
def scaleByTen? (x : Binary64) (exponent : Int) : Option Binary64 :=
  if x.significand = 0 then some x
  else if 0 ≤ exponent then
    if exponent ≤ 308 then do x.mul? (← tenTo? exponent.toNat) else none
  else if -308 ≤ exponent then do x.div? (← tenTo? (-exponent).toNat)
  else do ((← x.div? (← tenTo? 308)).scaleByTen? (exponent + 308))
termination_by (-exponent).toNat

/-- The number written as a decimal significand and a power of ten: the significand is rounded
first, then its product with the power, so the last bit may differ from one exact rounding. -/
def ofParts? (negative : Bool) (significand : Nat) (exponent : Int) : Option Binary64 := do
  let rounded ← nearest? significand 1
  let x ← rounded.scaleByTen? exponent
  return { x with negative := negative }

end Binary64

end ChatSteward
