import ChatSteward.Number.Binary64
import Mathlib.Algebra.Order.Field.Basic
import Mathlib.Algebra.Order.Ring.Rat
import Mathlib.Data.Nat.Cast.Order.Field
import Mathlib.Tactic.Linarith
import Mathlib.Tactic.Positivity
import Mathlib.Tactic.Ring

/-!
# Rounding to binary fractions

The number nearest to a quotient lies on the same side of every number of the format as the
quotient itself. So a quotient up to some number of the format is rounded to one, and to no greater
one; products with powers of ten are bounded by the bounds of their factors.

## Main definitions

* `Binary64.magnitude` — the value of a number without its sign
* `Binary64.IsBounded` — the numbers of the format
* `Binary64.greatest` — the greatest of them

## Main results

* `Binary64.exists_nearest?`, `Binary64.le_magnitude_of_nearest?` — the nearest number of a quotient
  between two numbers of the format lies between them
* `Binary64.exists_ofParts?_of_le` — small powers of ten of 64-bit significands are rounded
-/

namespace ChatSteward.Binary64

/-! ## The numbers of the format -/

/-- The value of a number without its sign. -/
def magnitude (x : Binary64) : ℚ := x.significand * 2 ^ x.exponent

/-- Whether a number is one of the format. -/
structure IsBounded (x : Binary64) : Prop where
  significand_lt : x.significand < 2 * leastFull
  le_exponent : leastExponent ≤ x.exponent
  exponent_le : x.exponent ≤ greatestExponent

instance (x : Binary64) : Decidable x.IsBounded :=
  decidable_of_iff (x.significand < 2 * leastFull ∧ leastExponent ≤ x.exponent ∧
      x.exponent ≤ greatestExponent)
    ⟨fun ⟨hsignificand, hleast, hgreatest⟩ => ⟨hsignificand, hleast, hgreatest⟩,
      fun ⟨hsignificand, hleast, hgreatest⟩ => ⟨hsignificand, hleast, hgreatest⟩⟩

@[simp] theorem isBounded_zero : zero.IsBounded := by decide

/-- The sign makes no difference. -/
theorem IsBounded.withSign {x : Binary64} (hx : x.IsBounded) (negative : Bool) :
    IsBounded { x with negative := negative } :=
  ⟨hx.significand_lt, hx.le_exponent, hx.exponent_le⟩

/-- The greatest number. -/
def greatest : Binary64 := ⟨false, 2 * leastFull - 1, greatestExponent⟩

theorem two_zpow_pos (k : ℤ) : (0 : ℚ) < 2 ^ k := zpow_pos (by norm_num) k

theorem magnitude_nonneg (x : Binary64) : 0 ≤ x.magnitude :=
  mul_nonneg (Nat.cast_nonneg _) (two_zpow_pos _).le

/-- A power as a quotient of naturals, one of which is one. -/
theorem zpow_eq_div (base : ℕ) (k : ℤ) :
    (base : ℚ) ^ k = (Nat.pow base k.toNat : ℕ) / (Nat.pow base (-k).toNat : ℕ) := by
  simp only [Nat.pow_eq, Nat.cast_pow]
  rcases Int.le_total 0 k with hk | hk
  · obtain ⟨n, rfl⟩ := Int.eq_ofNat_of_zero_le hk
    simp
  · obtain ⟨n, hn⟩ := Int.eq_ofNat_of_zero_le (Int.neg_nonneg_of_nonpos hk)
    obtain rfl : k = -(n : ℤ) := by omega
    simp

theorem two_zpow_eq (k : ℤ) :
    (2 : ℚ) ^ k = (Nat.pow 2 k.toNat : ℕ) / (Nat.pow 2 (-k).toNat : ℕ) :=
  zpow_eq_div 2 k

theorem ten_zpow_eq (k : ℤ) :
    (10 : ℚ) ^ k = (Nat.pow 10 k.toNat : ℕ) / (Nat.pow 10 (-k).toNat : ℕ) :=
  zpow_eq_div 10 k

theorem ratio_pos (x : Binary64) : 0 < x.ratio.2 := Nat.two_pow_pos _

@[simp] theorem ratio_div (x : Binary64) : (x.ratio.1 : ℚ) / x.ratio.2 = x.magnitude := by
  rw [magnitude, two_zpow_eq, ratio, Nat.cast_mul, mul_div_assoc]

theorem scaled_pos {numerator denominator : ℕ} (hpos : 0 < denominator) (exponent : ℤ) :
    0 < (scaled numerator denominator exponent).2 :=
  Nat.mul_pos hpos (Nat.two_pow_pos _)

theorem scaled_div (numerator denominator : ℕ) (exponent : ℤ) :
    ((scaled numerator denominator exponent).1 : ℚ) / (scaled numerator denominator exponent).2 =
      numerator / denominator / 2 ^ exponent := by
  rw [two_zpow_eq, scaled, Nat.cast_mul, Nat.cast_mul, div_div_div_eq]

/-! ## Rounding to naturals -/

/-- A quotient up to a natural is rounded to one up to it. -/
theorem roundQuotient_le {numerator denominator n : ℕ} (hpos : 0 < denominator)
    (hle : numerator ≤ n * denominator) : roundQuotient numerator denominator ≤ n := by
  have hquotient : numerator / denominator ≤ n := Nat.div_le_of_le_mul (by rwa [mul_comm])
  rcases Nat.lt_or_eq_of_le hquotient with hlt | heq
  · have hnext : roundQuotient numerator denominator ≤ numerator / denominator + 1 := by
      simp only [roundQuotient]
      split_ifs <;> omega
    omega
  · -- the quotient is the natural itself, so there is nothing to round
    have hsplit := Nat.div_add_mod numerator denominator
    rw [heq, mul_comm] at hsplit
    have hmod : numerator % denominator = 0 := by omega
    simp only [roundQuotient, hmod, Nat.mul_zero, if_pos hpos]
    exact hquotient

/-- A quotient from a natural on is rounded to one from it on. -/
theorem le_roundQuotient {numerator denominator n : ℕ} (hpos : 0 < denominator)
    (hle : n * denominator ≤ numerator) : n ≤ roundQuotient numerator denominator := by
  have hquotient : n ≤ numerator / denominator := (Nat.le_div_iff_mul_le hpos).mpr hle
  have hrounded : numerator / denominator ≤ roundQuotient numerator denominator := by
    simp only [roundQuotient]
    split_ifs <;> omega
  exact hquotient.trans hrounded

/-! ## The exponent of a quotient -/

section

variable {numerator denominator : ℕ}

theorem div_lt_two_zpow (hdenominator : denominator ≠ 0) :
    (numerator : ℚ) / denominator < 2 ^ ((numerator.log2 : ℤ) - denominator.log2 + 1) := by
  have htop : (numerator : ℚ) < 2 ^ (numerator.log2 + 1) := by exact_mod_cast Nat.lt_log2_self
  have hbottom : (2 : ℚ) ^ denominator.log2 ≤ denominator := by
    exact_mod_cast Nat.log2_self_le hdenominator
  have hpos : (0 : ℚ) < denominator := by exact_mod_cast Nat.pos_of_ne_zero hdenominator
  have hsplit : (2 : ℚ) ^ ((numerator.log2 : ℤ) - denominator.log2 + 1) =
      2 ^ (numerator.log2 + 1) / 2 ^ denominator.log2 := by
    rw [sub_add_eq_add_sub, zpow_sub₀ (by norm_num)]
    norm_cast
  rw [hsplit]
  calc (numerator : ℚ) / denominator < 2 ^ (numerator.log2 + 1) / denominator := by gcongr
    _ ≤ 2 ^ (numerator.log2 + 1) / 2 ^ denominator.log2 := by gcongr

theorem two_zpow_lt_div (hnumerator : numerator ≠ 0) (hdenominator : denominator ≠ 0) :
    2 ^ ((numerator.log2 : ℤ) - denominator.log2 - 1) < (numerator : ℚ) / denominator := by
  have hswapped : (denominator : ℚ) / numerator <
      2 ^ ((denominator.log2 : ℤ) - numerator.log2 + 1) :=
    div_lt_two_zpow hnumerator
  have hexponent : (numerator.log2 : ℤ) - denominator.log2 - 1 =
      -((denominator.log2 : ℤ) - numerator.log2 + 1) := by
    omega
  rwa [hexponent, zpow_neg, ← inv_div, inv_lt_inv₀ (two_zpow_pos _) (by positivity)]

/-- The exponent at which a quotient has a significand of 53 bits. -/
theorem exists_exponent (hnumerator : numerator ≠ 0) (hdenominator : denominator ≠ 0) :
    ∃ exponent, exponentFor numerator denominator = max exponent leastExponent ∧
      leastFull * 2 ^ exponent ≤ (numerator : ℚ) / denominator ∧
      (numerator : ℚ) / denominator < 2 * leastFull * 2 ^ exponent := by
  have hfull : (leastFull : ℚ) = 2 ^ (52 : ℤ) := by norm_num [leastFull]
  set guess : ℤ := (numerator.log2 : ℤ) - denominator.log2 - 52 with hguess
  have hstep : (2 : ℚ) ^ guess = 2 * 2 ^ (guess - 1) := by
    rw [← zpow_one_add₀ (by norm_num), add_sub_cancel]
  have hlower : leastFull * 2 ^ (guess - 1) ≤ (numerator : ℚ) / denominator := by
    have hlt := two_zpow_lt_div hnumerator hdenominator
    have hexponent : (numerator.log2 : ℤ) - denominator.log2 - 1 = 52 + (guess - 1) := by omega
    rw [hexponent, zpow_add₀ (by norm_num), ← hfull] at hlt
    exact hlt.le
  have hupper : (numerator : ℚ) / denominator < 2 * leastFull * 2 ^ guess := by
    have hlt : (numerator : ℚ) / denominator <
        2 ^ ((numerator.log2 : ℤ) - denominator.log2 + 1) :=
      div_lt_two_zpow hdenominator
    have hexponent : (numerator.log2 : ℤ) - denominator.log2 + 1 = 1 + (52 + guess) := by omega
    rwa [hexponent, zpow_add₀ (by norm_num), zpow_add₀ (by norm_num), ← hfull, zpow_one,
      ← mul_assoc] at hlt
  -- whether the quotient fills 53 bits at the guess is a matter of naturals and of fractions alike
  have hfills : ((scaled numerator denominator guess).1 / (scaled numerator denominator guess).2 <
      leastFull) ↔ (numerator : ℚ) / denominator < leastFull * 2 ^ guess := by
    have hpos : 0 < (scaled numerator denominator guess).2 :=
      scaled_pos (Nat.pos_of_ne_zero hdenominator) guess
    rw [Nat.div_lt_iff_lt_mul hpos, ← div_lt_iff₀ (two_zpow_pos _), ← scaled_div,
      div_lt_iff₀ (by exact_mod_cast hpos)]
    norm_cast
  rcases lt_or_ge ((numerator : ℚ) / denominator) (leastFull * 2 ^ guess) with hlt | hge
  · refine ⟨guess - 1, ?_, hlower, ?_⟩
    · simp only [exponentFor, ← hguess, if_pos (hfills.mpr hlt)]
    · rw [hstep] at hlt
      linarith
  · refine ⟨guess, ?_, hge, hupper⟩
    simp only [exponentFor, ← hguess, if_neg (mt hfills.mp hge.not_gt)]

theorem leastExponent_le_exponentFor : leastExponent ≤ exponentFor numerator denominator :=
  le_max_right _ _

/-- At its exponent a quotient has no more than 53 bits. -/
theorem div_lt_exponentFor (hnumerator : numerator ≠ 0) (hdenominator : denominator ≠ 0) :
    (numerator : ℚ) / denominator < 2 * leastFull * 2 ^ exponentFor numerator denominator := by
  obtain ⟨exponent, heq, -, hlt⟩ := exists_exponent hnumerator hdenominator
  refine hlt.trans_le (mul_le_mul_of_nonneg_left ?_ (by positivity))
  exact zpow_le_zpow_right₀ (by norm_num) (heq ▸ le_max_left _ _)

/-- Unless its exponent is the least one, a quotient has 53 bits there. -/
theorem exponentFor_le_div (hnumerator : numerator ≠ 0) (hdenominator : denominator ≠ 0)
    (hleast : leastExponent < exponentFor numerator denominator) :
    leastFull * 2 ^ exponentFor numerator denominator ≤ (numerator : ℚ) / denominator := by
  obtain ⟨exponent, heq, hle, -⟩ := exists_exponent hnumerator hdenominator
  rw [heq] at hleast ⊢
  rwa [max_eq_left_of_lt ((lt_max_iff.mp hleast).resolve_right (lt_irrefl _))]

/-! ## Nearest numbers -/

/-- The significand to which a quotient is rounded at its exponent. -/
def significandFor (numerator denominator : ℕ) : ℕ :=
  roundQuotient (scaled numerator denominator (exponentFor numerator denominator)).1
    (scaled numerator denominator (exponentFor numerator denominator)).2

theorem significandFor_le (hdenominator : denominator ≠ 0) {n : ℕ}
    (hle : (numerator : ℚ) / denominator ≤ n * 2 ^ exponentFor numerator denominator) :
    significandFor numerator denominator ≤ n := by
  have hpos : 0 < (scaled numerator denominator (exponentFor numerator denominator)).2 :=
    scaled_pos (Nat.pos_of_ne_zero hdenominator) _
  rw [← div_le_iff₀ (two_zpow_pos _), ← scaled_div, div_le_iff₀ (by exact_mod_cast hpos)] at hle
  exact roundQuotient_le hpos (by exact_mod_cast hle)

theorem le_significandFor (hdenominator : denominator ≠ 0) {n : ℕ}
    (hle : n * 2 ^ exponentFor numerator denominator ≤ (numerator : ℚ) / denominator) :
    n ≤ significandFor numerator denominator := by
  have hpos : 0 < (scaled numerator denominator (exponentFor numerator denominator)).2 :=
    scaled_pos (Nat.pos_of_ne_zero hdenominator) _
  rw [← le_div_iff₀ (two_zpow_pos _), ← scaled_div, le_div_iff₀ (by exact_mod_cast hpos)] at hle
  exact le_roundQuotient hpos (by exact_mod_cast hle)

/-- The nearest number has the significand at the exponent, or the next power of two if the
significand was rounded up to 54 bits. There is none if its exponent is too great. -/
theorem nearest?_eq (hnumerator : numerator ≠ 0) (hdenominator : denominator ≠ 0) :
    ∃ x : Binary64,
      nearest? numerator denominator = (if greatestExponent < x.exponent then none else some x) ∧
      x.magnitude =
        significandFor numerator denominator * 2 ^ exponentFor numerator denominator ∧
      x.significand < 2 * leastFull ∧ leastExponent ≤ x.exponent ∧
      (exponentFor numerator denominator < x.exponent → leastFull ≤ x.significand) := by
  have hrounded : roundQuotient
      (scaled numerator denominator (exponentFor numerator denominator)).1
      (scaled numerator denominator (exponentFor numerator denominator)).2 =
        significandFor numerator denominator := rfl
  have hleast : leastExponent ≤ exponentFor numerator denominator :=
    leastExponent_le_exponentFor
  have hbits : significandFor numerator denominator ≤ 2 * leastFull :=
    significandFor_le hdenominator
      (by exact_mod_cast (div_lt_exponentFor hnumerator hdenominator).le)
  rcases Nat.lt_or_eq_of_le hbits with hlt | heq
  · refine ⟨⟨false, significandFor numerator denominator, exponentFor numerator denominator⟩,
      ?_, rfl, hlt, hleast, fun hless => absurd hless (lt_irrefl _)⟩
    simp only [nearest?, if_neg hnumerator, hrounded, if_neg hlt.ne]
  · refine ⟨⟨false, leastFull, exponentFor numerator denominator + 1⟩, ?_, ?_, ?_,
      hleast.trans (Int.le_add_one le_rfl), fun _ => le_rfl⟩
    · simp only [nearest?, if_neg hnumerator, hrounded, if_pos heq]
    · rw [magnitude, heq, zpow_add_one₀ (by norm_num)]
      push_cast
      ring
    · have hfull : leastFull < 2 * leastFull := by decide
      exact hfull

/-- The nearest number is one of the format. -/
theorem isBounded_of_nearest? (hdenominator : denominator ≠ 0) {x : Binary64}
    (hnearest : nearest? numerator denominator = some x) : x.IsBounded := by
  by_cases hnumerator : numerator = 0
  · rw [nearest?, if_pos hnumerator] at hnearest
    cases hnearest
    exact isBounded_zero
  · obtain ⟨y, heq, -, hsignificand, hleast, -⟩ := nearest?_eq hnumerator hdenominator
    rw [heq] at hnearest
    split at hnearest
    · cases hnearest
    case isFalse hgreatest =>
      cases hnearest
      exact ⟨hsignificand, hleast, not_lt.mp hgreatest⟩

/-- A number of the format is below those of 53 bits with greater exponents. -/
theorem IsBounded.magnitude_lt {x : Binary64} (hbounded : x.IsBounded) {exponent : ℤ}
    (hlower : x.exponent < exponent) : x.magnitude < leastFull * 2 ^ exponent := by
  have hbits : (x.significand : ℚ) < 2 * leastFull := by exact_mod_cast hbounded.significand_lt
  have hstep : (2 : ℚ) * 2 ^ x.exponent ≤ 2 ^ exponent := by
    rw [← zpow_one_add₀ (by norm_num)]
    exact zpow_le_zpow_right₀ (by norm_num) (by omega)
  calc x.magnitude
      < 2 * leastFull * 2 ^ x.exponent := mul_lt_mul_of_pos_right hbits (two_zpow_pos _)
    _ = leastFull * (2 * 2 ^ x.exponent) := by ring
    _ ≤ leastFull * 2 ^ exponent := mul_le_mul_of_nonneg_left hstep (Nat.cast_nonneg _)

/-- A number is a multiple of every power of two up to its own. -/
theorem exists_multiple (x : Binary64) {exponent : ℤ} (hle : exponent ≤ x.exponent) :
    ∃ n : ℕ, x.magnitude = n * 2 ^ exponent := by
  have hsplit : x.exponent = ((x.exponent - exponent).toNat : ℤ) + exponent := by omega
  refine ⟨x.significand * 2 ^ (x.exponent - exponent).toNat, ?_⟩
  rw [magnitude, Nat.cast_mul, Nat.cast_pow, mul_assoc, ← zpow_natCast, Nat.cast_ofNat,
    ← zpow_add₀ (by norm_num), ← hsplit]

/-- A quotient up to a number of the format is rounded to one up to it. -/
theorem exists_nearest? (hdenominator : denominator ≠ 0) {bound : Binary64}
    (hbound : bound.IsBounded) (hle : (numerator : ℚ) / denominator ≤ bound.magnitude) :
    ∃ x, nearest? numerator denominator = some x ∧ x.magnitude ≤ bound.magnitude := by
  by_cases hnumerator : numerator = 0
  · refine ⟨zero, by rw [nearest?, if_pos hnumerator], ?_⟩
    simpa [magnitude, zero] using magnitude_nonneg bound
  · obtain ⟨x, heq, hmagnitude, -, hleast, hcarried⟩ := nearest?_eq hnumerator hdenominator
    have hexponent : exponentFor numerator denominator ≤ bound.exponent := by
      -- otherwise the quotient has 53 bits at a greater exponent, and is above the bound
      by_contra hless
      have hbits := exponentFor_le_div hnumerator hdenominator
        (hbound.le_exponent.trans_lt (not_le.mp hless))
      exact ((hbound.magnitude_lt (not_le.mp hless)).trans_le hbits).not_ge hle
    -- the bound is a multiple of the same power of two, so rounding does not pass it
    obtain ⟨n, hmultiple⟩ := exists_multiple bound hexponent
    have hbelow : x.magnitude ≤ bound.magnitude := by
      rw [hmagnitude, hmultiple]
      have hsignificand := significandFor_le hdenominator (hmultiple ▸ hle)
      exact mul_le_mul_of_nonneg_right (by exact_mod_cast hsignificand) (two_zpow_pos _).le
    -- only a carry raises the exponent, and what has carried has all its bits
    have hgreatest : ¬ greatestExponent < x.exponent := by
      intro hgreatest
      have hless := hbound.exponent_le.trans_lt hgreatest
      have hbits : (leastFull : ℚ) ≤ x.significand := by
        exact_mod_cast hcarried (hexponent.trans_lt hless)
      exact ((hbound.magnitude_lt hless).trans_le
        (mul_le_mul_of_nonneg_right hbits (two_zpow_pos _).le)).not_ge hbelow
    exact ⟨x, by rw [heq, if_neg hgreatest], hbelow⟩

/-- A quotient from a number of the format on is rounded to one from it on. -/
theorem le_magnitude_of_nearest? (hnumerator : numerator ≠ 0) (hdenominator : denominator ≠ 0)
    {bound x : Binary64} (hbound : bound.IsBounded)
    (hle : bound.magnitude ≤ (numerator : ℚ) / denominator)
    (hnearest : nearest? numerator denominator = some x) : bound.magnitude ≤ x.magnitude := by
  obtain ⟨y, heq, hmagnitude, -⟩ := nearest?_eq hnumerator hdenominator
  have hsame : x = y := by
    rw [heq] at hnearest
    split at hnearest
    · cases hnearest
    · exact (Option.some.inj hnearest).symm
  rw [hsame, hmagnitude]
  rcases le_or_gt (exponentFor numerator denominator) bound.exponent with hexponent | hless
  · obtain ⟨n, hmultiple⟩ := exists_multiple bound hexponent
    have hsignificand := le_significandFor hdenominator (hmultiple ▸ hle)
    rw [hmultiple]
    exact mul_le_mul_of_nonneg_right (by exact_mod_cast hsignificand) (two_zpow_pos _).le
  · have hbits := le_significandFor hdenominator (exponentFor_le_div hnumerator hdenominator
      (hbound.le_exponent.trans_lt hless))
    exact (hbound.magnitude_lt hless).le.trans
      (mul_le_mul_of_nonneg_right (by exact_mod_cast hbits) (two_zpow_pos _).le)

end

/-! ## Powers of ten -/

/-- The natural of a significand and a power of two. -/
def natural (significand exponent : ℕ) : Binary64 := ⟨false, significand, exponent⟩

@[simp] theorem magnitude_natural (significand exponent : ℕ) :
    (natural significand exponent).magnitude = (significand * 2 ^ exponent : ℕ) := by
  rw [magnitude, natural, zpow_natCast, Nat.cast_mul, Nat.cast_pow, Nat.cast_ofNat]

theorem greatest_eq : greatest = natural (2 * leastFull - 1) 971 := rfl

@[simp] theorem isBounded_greatest : greatest.IsBounded := by decide

/-- The powers of ten that are applied at once are within the format. -/
theorem ten_pow_le_greatest {k : ℕ} (hk : k ≤ 308) :
    ((10 ^ k : ℕ) : ℚ) ≤ greatest.magnitude := by
  have hgreatest : 10 ^ 308 ≤ (2 * leastFull - 1) * 2 ^ 971 := by decide +kernel
  rw [greatest_eq, magnitude_natural, Nat.cast_le]
  exact (pow_le_pow_right₀ (by decide) hk).trans hgreatest

/-- A natural up to a number of the format is rounded to one up to it. -/
theorem exists_nearest?_one {n : ℕ} {bound : Binary64} (hbound : bound.IsBounded)
    (hle : (n : ℚ) ≤ bound.magnitude) :
    ∃ x, nearest? n 1 = some x ∧ x.magnitude ≤ bound.magnitude :=
  exists_nearest? one_ne_zero hbound (by rwa [Nat.cast_one, div_one])

/-- A power of ten up to a number of the format is rounded to one up to it. -/
theorem exists_tenTo? {k : ℕ} {bound : Binary64} (hbound : bound.IsBounded)
    (hle : ((10 ^ k : ℕ) : ℚ) ≤ bound.magnitude) :
    ∃ power, tenTo? k = some power ∧ power.magnitude ≤ bound.magnitude :=
  exists_nearest?_one hbound hle

/-- No power of ten is rounded to less than one. -/
theorem one_le_magnitude_of_tenTo? {k : ℕ} {power : Binary64} (hpower : tenTo? k = some power) :
    1 ≤ power.magnitude := by
  have hpos : 0 < 10 ^ k := Nat.pow_pos (by decide)
  have hone : (natural 1 0).magnitude = 1 := by simp
  rw [← hone]
  refine le_magnitude_of_nearest? hpos.ne' one_ne_zero (by decide) ?_ hpower
  rw [hone, Nat.cast_one, div_one]
  exact_mod_cast hpos

/-- A product up to the greatest number is rounded to a number. -/
theorem exists_mul? {x y : Binary64} (hle : x.magnitude * y.magnitude ≤ greatest.magnitude) :
    ∃ z, x.mul? y = some z := by
  have hdenominator := (Nat.mul_pos x.ratio_pos y.ratio_pos).ne'
  rw [← ratio_div x, ← ratio_div y, div_mul_div_comm] at hle
  obtain ⟨z, hz, -⟩ := exists_nearest? hdenominator isBounded_greatest (by exact_mod_cast hle)
  exact ⟨z, hz⟩

theorem ratio_ne_zero {x : Binary64} (hpos : 0 < x.magnitude) : x.ratio.1 ≠ 0 := by
  intro hzero
  rw [← ratio_div, hzero, Nat.cast_zero, zero_div] at hpos
  exact lt_irrefl _ hpos

/-- A quotient of a number by one that is not below one is rounded to a number. -/
theorem exists_div? {x y : Binary64} (hx : x.magnitude ≤ greatest.magnitude)
    (hy : 1 ≤ y.magnitude) : ∃ z, x.div? y = some z ∧ z.magnitude ≤ greatest.magnitude := by
  have hpos : 0 < y.magnitude := one_pos.trans_le hy
  have hdenominator := Nat.mul_ne_zero x.ratio_pos.ne' (ratio_ne_zero hpos)
  refine exists_nearest? hdenominator isBounded_greatest ?_
  have hquotient : (x.ratio.1 * y.ratio.2 : ℚ) / (x.ratio.2 * y.ratio.1) =
      x.magnitude / y.magnitude := by
    rw [← ratio_div x, ← ratio_div y, div_div_div_eq]
  rw [Nat.cast_mul, Nat.cast_mul, hquotient]
  exact (div_le_self x.magnitude_nonneg hy).trans hx

/-- A number is scaled up if its product with the rounded power of ten is within the format. -/
theorem exists_scaleByTen?_of_tenTo? {x power : Binary64} {k : ℕ} (hk : k ≤ 308)
    (hpower : tenTo? k = some power)
    (hle : x.magnitude * power.magnitude ≤ greatest.magnitude) :
    ∃ y, x.scaleByTen? k = some y := by
  rw [scaleByTen?]
  split
  · exact ⟨x, rfl⟩
  · have hwithin : (k : ℤ) ≤ 308 := by exact_mod_cast hk
    rw [if_pos (Int.natCast_nonneg k), if_pos hwithin, Int.toNat_natCast, hpower]
    exact exists_mul? hle

/-- Every number is scaled down. -/
theorem exists_scaleByTen?_of_nonpos {x : Binary64} (hx : x.magnitude ≤ greatest.magnitude)
    {exponent : ℤ} (hexponent : exponent ≤ 0) : ∃ y, x.scaleByTen? exponent = some y := by
  -- induction on how far the exponent is below zero, as the definition goes
  induction hsize : (-exponent).toNat using Nat.strong_induction_on generalizing x exponent with
  | _ size ih =>
    rcases eq_or_lt_of_le hexponent with rfl | hneg
    · have hbounded : (natural 1 0).IsBounded := by decide
      obtain ⟨power, hpower, hle⟩ := exists_tenTo? (k := 0) hbounded (by simp)
      refine exists_scaleByTen?_of_tenTo? (k := 0) (Nat.zero_le _) hpower ?_
      have hone : power.magnitude ≤ 1 := hle.trans (by simp)
      exact (mul_le_of_le_one_right x.magnitude_nonneg hone).trans hx
    · rw [scaleByTen?]
      split
      · exact ⟨x, rfl⟩
      · rw [if_neg hneg.not_ge]
        split
        case isTrue hnear =>
          have hk : (-exponent).toNat ≤ 308 := by omega
          obtain ⟨power, hpower, -⟩ :=
            exists_tenTo? isBounded_greatest (ten_pow_le_greatest hk)
          obtain ⟨y, hy, -⟩ := exists_div? hx (one_le_magnitude_of_tenTo? hpower)
          exact ⟨y, by rw [hpower]; exact hy⟩
        case isFalse hfar =>
          obtain ⟨power, hpower, -⟩ :=
            exists_tenTo? isBounded_greatest (ten_pow_le_greatest le_rfl)
          obtain ⟨y, hy, hle⟩ := exists_div? hx (one_le_magnitude_of_tenTo? hpower)
          obtain ⟨z, hz⟩ := ih (-(exponent + 308)).toNat (by omega) hle (by omega) rfl
          refine ⟨z, ?_⟩
          rw [hpower, Option.bind_eq_bind, Option.bind_some, hy]
          exact hz

/-- A decimal is read if its significand, rounded, can be scaled. -/
theorem ofParts?_eq (negative : Bool) {significand : ℕ} {exponent : ℤ} {x y : Binary64}
    (hx : nearest? significand 1 = some x) (hy : x.scaleByTen? exponent = some y) :
    ofParts? negative significand exponent = some { y with negative := negative } := by
  rw [ofParts?, hx, Option.bind_eq_bind, Option.bind_some, hy]
  rfl

/-- A decimal is read if bounds of its significand and its power of ten are within the format. -/
theorem exists_ofParts?_of_bounds (negative : Bool) {significand k : ℕ} (hk : k ≤ 308)
    {bound power : Binary64} (hbound : bound.IsBounded) (hpower : tenTo? k = some power)
    (hsignificand : (significand : ℚ) ≤ bound.magnitude)
    (hle : bound.magnitude * power.magnitude ≤ greatest.magnitude) :
    ∃ x, ofParts? negative significand k = some x := by
  obtain ⟨x, hx, hxle⟩ := exists_nearest?_one hbound hsignificand
  obtain ⟨y, hy⟩ := exists_scaleByTen?_of_tenTo? hk hpower
    ((mul_le_mul_of_nonneg_right hxle power.magnitude_nonneg).trans hle)
  exact ⟨_, ofParts?_eq negative hx hy⟩

/-- A decimal of 64 bits with a small power of ten is read. -/
theorem exists_ofParts?_of_le (negative : Bool) {significand : ℕ} {exponent : ℤ}
    (hsignificand : significand ≤ UInt64.size) (hexponent : exponent ≤ 288) :
    ∃ x, ofParts? negative significand exponent = some x := by
  have hbound : (significand : ℚ) ≤ (natural 1 64).magnitude := by
    rw [magnitude_natural, Nat.cast_le]
    exact hsignificand
  rcases le_or_gt exponent 0 with hneg | hpos
  · obtain ⟨x, hx, hle⟩ := exists_nearest?_one (by decide) hbound
    have hgreatest : (natural 1 64).magnitude ≤ greatest.magnitude := by
      rw [greatest_eq, magnitude_natural, magnitude_natural, Nat.cast_le]
      decide +kernel
    obtain ⟨y, hy⟩ := exists_scaleByTen?_of_nonpos (hle.trans hgreatest) hneg
    exact ⟨_, ofParts?_eq negative hx hy⟩
  · obtain ⟨k, rfl⟩ := Int.eq_ofNat_of_zero_le hpos.le
    have hk : k ≤ 288 := by omega
    have hten : ((10 ^ k : ℕ) : ℚ) ≤ (natural 1 957).magnitude := by
      have hpow : 10 ^ 288 ≤ 1 * 2 ^ 957 := by decide +kernel
      rw [magnitude_natural, Nat.cast_le]
      exact (pow_le_pow_right₀ (by decide) hk).trans hpow
    obtain ⟨power, hpower, hle⟩ := exists_tenTo? (by decide) hten
    have hgreatest :
        (natural 1 64).magnitude * (natural 1 957).magnitude ≤ greatest.magnitude := by
      rw [greatest_eq, magnitude_natural, magnitude_natural, magnitude_natural, ← Nat.cast_mul,
        Nat.cast_le]
      decide +kernel
    exact exists_ofParts?_of_bounds negative (by omega) (by decide) hpower hbound
      ((mul_le_mul_of_nonneg_left hle (magnitude_nonneg _)).trans hgreatest)

/-! ## What is read is one of the format -/

theorem isBounded_of_mul? {x y z : Binary64} (hz : x.mul? y = some z) : z.IsBounded :=
  isBounded_of_nearest? (Nat.mul_pos x.ratio_pos y.ratio_pos).ne' hz

theorem isBounded_of_div? {x y z : Binary64} (hy : 1 ≤ y.magnitude) (hz : x.div? y = some z) :
    z.IsBounded :=
  isBounded_of_nearest?
    (Nat.mul_ne_zero x.ratio_pos.ne' (ratio_ne_zero (one_pos.trans_le hy))) hz

theorem isBounded_of_scaleByTen? {x y : Binary64} (hx : x.IsBounded) {exponent : ℤ}
    (hy : x.scaleByTen? exponent = some y) : y.IsBounded := by
  induction hsize : (-exponent).toNat using Nat.strong_induction_on generalizing x exponent with
  | _ size ih =>
    rw [scaleByTen?] at hy
    split at hy
    · cases hy
      exact hx
    · split at hy
      · split at hy
        · obtain ⟨power, -, hmul⟩ := Option.bind_eq_some_iff.mp hy
          exact isBounded_of_mul? hmul
        · cases hy
      · split at hy
        · obtain ⟨power, hpower, hdiv⟩ := Option.bind_eq_some_iff.mp hy
          exact isBounded_of_div? (one_le_magnitude_of_tenTo? hpower) hdiv
        · obtain ⟨power, hpower, hrest⟩ := Option.bind_eq_some_iff.mp hy
          obtain ⟨z, hdiv, hscale⟩ := Option.bind_eq_some_iff.mp hrest
          have hz := isBounded_of_div? (one_le_magnitude_of_tenTo? hpower) hdiv
          exact ih (-(exponent + 308)).toNat (by omega) hz hscale rfl

/-- Whatever a decimal is read as is a number of the format. -/
theorem isBounded_of_ofParts? {negative : Bool} {significand : ℕ} {exponent : ℤ} {x : Binary64}
    (hx : ofParts? negative significand exponent = some x) : x.IsBounded := by
  obtain ⟨rounded, hrounded, hrest⟩ := Option.bind_eq_some_iff.mp hx
  obtain ⟨y, hy, hsign⟩ := Option.bind_eq_some_iff.mp hrest
  cases hsign
  exact (isBounded_of_scaleByTen? (isBounded_of_nearest? one_ne_zero hrounded) hy).withSign negative

end ChatSteward.Binary64
