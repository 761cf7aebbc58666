import ChatSteward.Number.Shortest
import ChatSteward.Proofs.Number.Rounding
import Mathlib.Algebra.Order.Field.Power

/-!
# Shortest decimals are read

The shortest decimal of a number lies in its neighbourhood and has no more than seventeen digits.
Reading rounds the coefficient and the power of ten before their product, so the decimal need not
be read as the number; but it is read as one. This turns on the greatest numbers alone: below the
greatest one the products of all rounded factors stay within the format, and the decimal of the
greatest is computed.

## Main definitions

* `Decimal.value` — the value of a decimal

## Main results

* `Binary64.shortest_coefficient_le`, `Binary64.shortest_value_le` — bounds of the shortest decimal
* `Binary64.exists_ofParts?_shortest` — it is read as a number
-/

namespace ChatSteward

/-- The value of a decimal. -/
def Decimal.value (d : Decimal) : ℚ := d.coefficient * 10 ^ d.exponent

@[simp] theorem Decimal.value_natCast (c k : ℕ) : (Decimal.mk c k).value = (c * 10 ^ k : ℕ) := by
  rw [Decimal.value, zpow_natCast, Nat.cast_mul, Nat.cast_pow, Nat.cast_ofNat]

namespace Neighbourhood

/-! ## Decimals of a neighbourhood -/

/-- A decimal in a neighbourhood is not above its upper end. -/
theorem value_le_of_has {around : Neighbourhood} (hpos : 0 < around.denominator) {d : Decimal}
    (hhas : around.has d = true) : d.value ≤ around.high / around.denominator := by
  have hnat : d.coefficient * Nat.pow 10 d.exponent.toNat * around.denominator ≤
      around.high * Nat.pow 10 (-d.exponent).toNat := by
    simp only [has] at hhas
    split at hhas
    · exact of_decide_eq_true (Bool.and_eq_true _ _ ▸ hhas).2
    · exact (of_decide_eq_true (Bool.and_eq_true _ _ ▸ hhas).2).le
  have hscale : 0 < Nat.pow 10 (-d.exponent).toNat := Nat.pow_pos (by decide)
  rw [Decimal.value, Binary64.ten_zpow_eq, mul_div_assoc', div_le_div_iff₀ (by exact_mod_cast hscale)
    (by exact_mod_cast hpos)]
  exact_mod_cast hnat

/-- Zero is in no neighbourhood that ends above it. -/
theorem coefficient_ne_zero_of_has {around : Neighbourhood} (hlow : 0 < around.low) {d : Decimal}
    (hhas : around.has d = true) : d.coefficient ≠ 0 := by
  intro hzero
  have hscale : 0 < around.low * Nat.pow 10 (-d.exponent).toNat :=
    Nat.mul_pos hlow (Nat.pow_pos (by decide))
  simp only [has, hzero, Nat.zero_mul] at hhas
  split at hhas
  · have hle : around.low * Nat.pow 10 (-d.exponent).toNat ≤ 0 :=
      of_decide_eq_true (Bool.and_eq_true _ _ ▸ hhas).1
    exact absurd hle (not_le.mpr hscale)
  · have hlt : around.low * Nat.pow 10 (-d.exponent).toNat < 0 :=
      of_decide_eq_true (Bool.and_eq_true _ _ ▸ hhas).1
    exact absurd hlt (Nat.not_lt_zero _)

/-- A number is below the power of ten that has one digit more. -/
theorem lt_ten_pow_length (n : ℕ) : n < 10 ^ (Nat.toDigits 10 n).length :=
  (Nat.length_toDigits_le_iff (by decide) Nat.length_toDigits_pos).mp le_rfl

/-- A positive number is not below the power of ten that has as many digits. -/
theorem ten_pow_le_of_length {n : ℕ} (hpos : 0 < n) {k : ℕ}
    (hlength : (Nat.toDigits 10 n).length = k + 1) : 10 ^ k ≤ n := by
  rcases Nat.eq_zero_or_pos k with rfl | hk
  · exact hpos
  · by_contra hlt
    have hle := (Nat.length_toDigits_le_iff (b := 10) (by decide) hk).mpr (not_le.mp hlt)
    omega

/-- The number in the middle is below the power of ten behind its leading digit. -/
theorem middle_lt_leading {around : Neighbourhood} (hpos : 0 < around.denominator) :
    (around.middle : ℚ) / around.denominator < 10 ^ (around.leading + 1) := by
  have hden : (0 : ℚ) < around.denominator := by exact_mod_cast hpos
  set guess : ℤ := ((Nat.toDigits 10 around.middle).length : ℤ) -
    (Nat.toDigits 10 around.denominator).length with hguess
  by_cases hreaches : around.denominator * Nat.pow 10 guess.toNat ≤
      around.middle * Nat.pow 10 (-guess).toNat
  · -- the guess counts the digits of both numbers, so it is not below the power that is sought
    have hleading : around.leading = guess := by
      simp only [leading, ← hguess, if_pos hreaches]
    obtain ⟨k, hk⟩ : ∃ k, (Nat.toDigits 10 around.denominator).length = k + 1 :=
      Nat.exists_eq_add_one_of_ne_zero Nat.length_toDigits_pos.ne'
    have htop : (around.middle : ℚ) < 10 ^ (Nat.toDigits 10 around.middle).length := by
      exact_mod_cast lt_ten_pow_length around.middle
    have hbottom : (10 : ℚ) ^ k ≤ around.denominator := by
      exact_mod_cast ten_pow_le_of_length hpos hk
    have hsplit : (10 : ℚ) ^ (guess + 1) =
        10 ^ (Nat.toDigits 10 around.middle).length / 10 ^ k := by
      have hexponent : guess + 1 = ((Nat.toDigits 10 around.middle).length : ℤ) - k := by omega
      rw [hexponent, zpow_sub₀ (by norm_num), zpow_natCast, zpow_natCast]
    rw [hleading, hsplit, div_lt_div_iff₀ hden (by positivity)]
    calc (around.middle : ℚ) * 10 ^ k
        ≤ around.middle * around.denominator := by gcongr
      _ < 10 ^ (Nat.toDigits 10 around.middle).length * around.denominator := by gcongr
  · have hleading : around.leading + 1 = guess := by
      simp only [leading, ← hguess, if_neg hreaches, sub_add_cancel]
    have hscale : 0 < Nat.pow 10 (-guess).toNat := Nat.pow_pos (by decide)
    have hlt := not_le.mp hreaches
    rw [mul_comm around.denominator] at hlt
    rw [hleading, Binary64.ten_zpow_eq, div_lt_div_iff₀ hden (by exact_mod_cast hscale)]
    exact_mod_cast hlt

/-- The natural below the number in the middle, in units of the last digit. -/
theorem floor_lt_ten_pow {around : Neighbourhood} (hpos : 0 < around.denominator) (digits : ℕ) :
    around.middle * Nat.pow 10 (-(around.leading + 1 - digits)).toNat /
        (around.denominator * Nat.pow 10 (around.leading + 1 - digits).toNat) < 10 ^ digits := by
  have hbottom : 0 < around.denominator * Nat.pow 10 (around.leading + 1 - digits).toNat :=
    Nat.mul_pos hpos (Nat.pow_pos (by decide))
  have hquotient : (around.middle * Nat.pow 10 (-(around.leading + 1 - digits)).toNat : ℚ) /
      (around.denominator * Nat.pow 10 (around.leading + 1 - digits).toNat) =
        around.middle / around.denominator / 10 ^ (around.leading + 1 - digits) := by
    rw [Binary64.ten_zpow_eq, div_div_div_eq]
  have hsplit : (10 : ℚ) ^ digits * 10 ^ (around.leading + 1 - digits) =
      10 ^ (around.leading + 1) := by
    rw [← zpow_natCast, ← zpow_add₀ (by norm_num), add_sub_cancel]
  have hlt : (around.middle * Nat.pow 10 (-(around.leading + 1 - digits)).toNat : ℚ) /
      (around.denominator * Nat.pow 10 (around.leading + 1 - digits).toNat) < 10 ^ digits := by
    rw [hquotient, div_lt_iff₀ (zpow_pos (by norm_num) _), hsplit]
    exact middle_lt_leading hpos
  rw [div_lt_iff₀ (by exact_mod_cast hbottom)] at hlt
  rw [Nat.div_lt_iff_lt_mul hbottom]
  exact_mod_cast hlt

/-- A quotient is rounded to one of its two neighbours. -/
theorem roundQuotient_eq_or (numerator denominator : ℕ) :
    Binary64.roundQuotient numerator denominator = numerator / denominator ∨
      Binary64.roundQuotient numerator denominator = numerator / denominator + 1 := by
  simp only [Binary64.roundQuotient]
  split_ifs <;> simp

/-- What is found on a grid is in the neighbourhood and has no more digits than the grid. -/
theorem onGrid?_spec {around : Neighbourhood} (hpos : 0 < around.denominator) {digits : ℕ}
    {d : Decimal} (hgrid : around.onGrid? digits = some d) :
    around.has d = true ∧ d.coefficient ≤ 10 ^ digits := by
  have hfloor := floor_lt_ten_pow hpos digits
  simp only [onGrid?] at hgrid
  split at hgrid
  case h_1 hlower hupper =>
    cases hgrid
    -- both neighbours are read back, and one of them is the nearer
    rcases roundQuotient_eq_or
        (around.middle * Nat.pow 10 (-(around.leading + 1 - digits)).toNat)
        (around.denominator * Nat.pow 10 (around.leading + 1 - digits).toNat) with heq | heq
    · rw [heq]
      exact ⟨hlower, hfloor.le⟩
    · rw [heq]
      exact ⟨hupper, hfloor⟩
  case h_2 hlower _ =>
    cases hgrid
    exact ⟨hlower, hfloor.le⟩
  case h_3 _ hupper =>
    cases hgrid
    exact ⟨hupper, hfloor⟩
  case h_4 => cases hgrid

end Neighbourhood

namespace Decimal

/-! ## Zeros at the end -/

/-- A decimal is the same number without the zeros at the end of its coefficient. -/
theorem strip_value (d : Decimal) : d.strip.value = d.value := by
  fun_induction strip d with
  | case1 d hzero ih =>
    have hsplit : d.coefficient = 10 * (d.coefficient / 10) := by omega
    have hcoefficient : (d.coefficient : ℚ) = 10 * (d.coefficient / 10 : ℕ) := by
      exact_mod_cast hsplit
    rw [ih, value, value, hcoefficient, zpow_add_one₀ (by norm_num)]
    ring
  | case2 d => rfl

theorem strip_coefficient_ne_zero {d : Decimal} (hne : d.coefficient ≠ 0) :
    d.strip.coefficient ≠ 0 := by
  fun_induction strip d with
  | case1 d hzero ih =>
    have hquotient : d.coefficient / 10 ≠ 0 := by omega
    exact ih hquotient
  | case2 d => exact hne

theorem strip_coefficient_le (d : Decimal) : d.strip.coefficient ≤ d.coefficient := by
  fun_induction strip d with
  | case1 d hzero ih => exact ih.trans (Nat.div_le_self _ _)
  | case2 d => exact le_rfl

end Decimal

namespace Binary64

/-! ## Bounds of the shortest decimal -/

theorem high_div (x : Binary64) :
    ((Neighbourhood.of x).high : ℚ) / (Neighbourhood.of x).denominator =
      (2 * x.significand + 1) / 2 * 2 ^ x.exponent := by
  rw [Neighbourhood.of, two_zpow_eq]
  push_cast
  ring

theorem denominator_pos (x : Binary64) : 0 < (Neighbourhood.of x).denominator :=
  Nat.mul_pos (by decide) (Nat.two_pow_pos _)

theorem low_pos {x : Binary64} (hne : x.significand ≠ 0) : 0 < (Neighbourhood.of x).low := by
  refine Nat.mul_pos ?_ (Nat.two_pow_pos _)
  split <;> omega

/-- The shortest decimal of a number is one of its neighbourhood without the zeros at its end, or
zero. -/
theorem shortest_cases (x : Binary64) :
    x.shortest = ⟨0, 0⟩ ∨ x.significand ≠ 0 ∧ ∃ digits d, digits ≤ 17 ∧
      (Neighbourhood.of x).onGrid? digits = some d ∧ x.shortest = d.strip := by
  by_cases hzero : x.significand = 0
  · exact .inl (by rw [shortest, if_pos hzero])
  · cases hfound : (List.range 17).findSome? fun n => (Neighbourhood.of x).onGrid? (n + 1) with
    | none =>
      refine .inl ?_
      simp only [shortest, if_neg hzero, hfound, Option.getD_none]
      rw [Decimal.strip, if_neg (by decide)]
    | some d =>
      obtain ⟨n, hn, hgrid⟩ := List.exists_of_findSome?_eq_some hfound
      refine .inr ⟨hzero, n + 1, d, List.mem_range.mp hn, hgrid, ?_⟩
      simp only [shortest, if_neg hzero, hfound, Option.getD_some]

/-- The shortest decimal has no more than seventeen digits. -/
theorem shortest_coefficient_le (x : Binary64) : x.shortest.coefficient ≤ 10 ^ 17 := by
  rcases x.shortest_cases with heq | ⟨-, digits, d, hdigits, hgrid, heq⟩
  · rw [heq]
    exact Nat.zero_le _
  · rw [heq]
    calc d.strip.coefficient ≤ d.coefficient := d.strip_coefficient_le
      _ ≤ 10 ^ digits := (Neighbourhood.onGrid?_spec x.denominator_pos hgrid).2
      _ ≤ 10 ^ 17 := Nat.pow_le_pow_right (by decide) hdigits

/-- The shortest decimal is not above the neighbourhood of the number. -/
theorem shortest_value_le (x : Binary64) :
    x.shortest.value ≤ (2 * x.significand + 1) / 2 * 2 ^ x.exponent := by
  rcases x.shortest_cases with heq | ⟨-, digits, d, -, hgrid, heq⟩
  · rw [heq, Decimal.value, Nat.cast_zero, zero_mul]
    positivity
  · rw [heq, Decimal.strip_value, ← high_div]
    exact Neighbourhood.value_le_of_has x.denominator_pos
      (Neighbourhood.onGrid?_spec x.denominator_pos hgrid).1

/-- Only zero has a shortest decimal without digits, and that is written with no power of ten. -/
theorem shortest_of_coefficient_eq_zero {x : Binary64} (hzero : x.shortest.coefficient = 0) :
    x.shortest = ⟨0, 0⟩ := by
  rcases x.shortest_cases with heq | ⟨hne, digits, d, -, hgrid, heq⟩
  · exact heq
  · have hhas := (Neighbourhood.onGrid?_spec x.denominator_pos hgrid).1
    rw [heq] at hzero
    exact absurd hzero
      (Decimal.strip_coefficient_ne_zero
        (Neighbourhood.coefficient_ne_zero_of_has (low_pos hne) hhas))

/-- The power of ten of a shortest decimal is one of those that are applied at once, if it is not
below one. -/
theorem shortest_exponent_le {x : Binary64} (hx : x.IsBounded) : x.shortest.exponent ≤ 308 := by
  by_contra hbeyond
  have hsplit : x.shortest.exponent = (x.shortest.exponent.toNat : ℤ) := by omega
  have hpos : 0 < x.shortest.coefficient := by
    refine Nat.pos_of_ne_zero fun hzero => hbeyond ?_
    rw [shortest_of_coefficient_eq_zero hzero]
    decide
  have hlow : ((10 ^ 309 : ℕ) : ℚ) ≤ x.shortest.value := by
    have hvalue : x.shortest.value =
        (x.shortest.coefficient * 10 ^ x.shortest.exponent.toNat : ℕ) := by
      rw [← Decimal.value_natCast, ← hsplit]
    rw [hvalue, Nat.cast_le]
    exact (pow_le_pow_right₀ (by decide) (by omega)).trans (Nat.le_mul_of_pos_left _ hpos)
  have hhigh : x.shortest.value ≤ ((2 * leastFull * 2 ^ 971 : ℕ) : ℚ) := by
    have hbits : (2 * x.significand + 1 : ℚ) / 2 ≤ (2 * leastFull : ℕ) := by
      have hnat : 2 * x.significand + 1 ≤ 2 * leastFull * 2 := by
        have hlt := hx.significand_lt
        omega
      rw [div_le_iff₀ (by norm_num)]
      exact_mod_cast hnat
    have hexponent : (2 : ℚ) ^ x.exponent ≤ 2 ^ (971 : ℤ) :=
      zpow_le_zpow_right₀ (by norm_num) hx.exponent_le
    have hcast : ((2 ^ 971 : ℕ) : ℚ) = 2 ^ (971 : ℤ) := by
      rw [Nat.cast_pow, Nat.cast_ofNat]
      rfl
    rw [Nat.cast_mul, hcast]
    exact x.shortest_value_le.trans
      (mul_le_mul hbits hexponent (two_zpow_pos _).le (Nat.cast_nonneg _))
  have hless : 2 * leastFull * 2 ^ 971 < 10 ^ 309 := by decide +kernel
  exact absurd (Nat.cast_le.mp (hlow.trans hhigh)) (not_le.mpr hless)

/-! ## Reading it -/

/-- What no shortest decimal is above, unless it is the one of the greatest number. -/
def ceiling : ℕ := (4 * leastFull - 3) * 2 ^ 970

/-- The shortest decimal of a number below the greatest is not above this ceiling. -/
theorem shortest_value_le_ceiling {x : Binary64} (hx : x.IsBounded)
    (hless : x.exponent = greatestExponent → x.significand ≠ 2 * leastFull - 1) :
    x.shortest.value ≤ ceiling := by
  obtain ⟨top, htop⟩ : ∃ top, top = 4 * leastFull - 3 := ⟨_, rfl⟩
  have hbits := hx.significand_lt
  have hroom : 2 ≤ leastFull := by decide
  have hceiling : (ceiling : ℚ) = top / 2 * 2 ^ greatestExponent := by
    have hsplit : greatestExponent = 1 + (970 : ℕ) := rfl
    rw [ceiling, ← htop, hsplit, zpow_one_add₀ (by norm_num), zpow_natCast, Nat.cast_mul,
      Nat.cast_pow, Nat.cast_ofNat]
    generalize (2 : ℚ) ^ 970 = power
    ring
  refine x.shortest_value_le.trans ?_
  rw [hceiling]
  rcases eq_or_lt_of_le hx.exponent_le with heq | hlt
  · have hnat : 2 * x.significand + 1 ≤ top := by
      have hne := hless heq
      omega
    have hcast : (2 * x.significand + 1 : ℚ) ≤ top := by exact_mod_cast hnat
    rw [heq]
    gcongr
  · -- a lower exponent leaves room for all significands
    have hnat : 2 * x.significand + 1 ≤ 2 * top := by omega
    have hcast : (2 * x.significand + 1 : ℚ) ≤ 2 * top := by exact_mod_cast hnat
    have hstep : (2 : ℚ) * 2 ^ x.exponent ≤ 2 ^ greatestExponent := by
      rw [← zpow_one_add₀ (by norm_num)]
      exact zpow_le_zpow_right₀ (by norm_num) (by omega)
    calc (2 * (x.significand : ℚ) + 1) / 2 * 2 ^ x.exponent
        ≤ 2 * top / 2 * 2 ^ x.exponent :=
          mul_le_mul_of_nonneg_right (div_le_div_of_nonneg_right hcast (by norm_num))
            (two_zpow_pos _).le
      _ = top / 2 * (2 * 2 ^ x.exponent) := by ring
      _ ≤ top / 2 * 2 ^ greatestExponent :=
          mul_le_mul_of_nonneg_left hstep (div_nonneg (Nat.cast_nonneg _) (by norm_num))

/-- The greatest coefficient with a power of ten of a decimal below the ceiling. -/
def coefficientBound (k : ℕ) : ℕ := min (Nat.pow 10 17) (ceiling / Nat.pow 10 k)

/-- Whether the greatest coefficient with a power of ten is a number of the format, and its product
with the rounded power is within the format. -/
def keepsWithin (k : ℕ) : Bool :=
  (nearest? (coefficientBound k) 1).any fun bound => (tenTo? k).any fun power =>
    bound.ratio.1 = coefficientBound k * bound.ratio.2 ∧
      bound.ratio.1 * power.ratio.1 ≤ greatest.ratio.1 * (bound.ratio.2 * power.ratio.2)

theorem keepsWithin_great : ∀ k < 20, keepsWithin (289 + k) = true := by decide +kernel

theorem exists_of_keepsWithin {k : ℕ} (hkeeps : keepsWithin k = true) :
    ∃ bound power : Binary64, bound.IsBounded ∧ bound.magnitude = coefficientBound k ∧
      tenTo? k = some power ∧ bound.magnitude * power.magnitude ≤ greatest.magnitude := by
  obtain ⟨bound, hbound, hany⟩ := (Option.any_eq_true _ _).mp hkeeps
  obtain ⟨power, hpower, hkept⟩ := (Option.any_eq_true _ _).mp hany
  obtain ⟨hexact, hle⟩ := of_decide_eq_true hkept
  have hbottom : (0 : ℚ) < bound.ratio.2 := by exact_mod_cast bound.ratio_pos
  refine ⟨bound, power, isBounded_of_nearest? one_ne_zero hbound, ?_, hpower, ?_⟩
  · rw [← ratio_div, div_eq_iff hbottom.ne']
    exact_mod_cast hexact
  · have hpos : 0 < bound.ratio.2 * power.ratio.2 := Nat.mul_pos bound.ratio_pos power.ratio_pos
    have hgreatest : greatest.magnitude = greatest.ratio.1 := by
      have hone : greatest.ratio.2 = 1 := by decide
      rw [← ratio_div, hone, Nat.cast_one, div_one]
    rw [hgreatest, ← ratio_div bound, ← ratio_div power, div_mul_div_comm,
      div_le_iff₀ (by exact_mod_cast hpos)]
    exact_mod_cast hle

/-- A decimal that is not above the ceiling has no greater coefficient than the bound. -/
theorem coefficient_le_bound {c k : ℕ} (hdigits : c ≤ 10 ^ 17)
    (hle : (Decimal.mk c k).value ≤ ceiling) : c ≤ coefficientBound k := by
  have hpos : 0 < 10 ^ k := Nat.pow_pos (by decide)
  rw [Decimal.value_natCast, Nat.cast_le] at hle
  exact le_min hdigits ((Nat.le_div_iff_mul_le hpos).mpr hle)

/-- A decimal that is not above the ceiling is read as a number. -/
theorem exists_ofParts?_of_le_ceiling (negative : Bool) {c k : ℕ} (hdigits : c ≤ 10 ^ 17)
    (hgreat : 289 ≤ k) (hk : k ≤ 308) (hle : (Decimal.mk c k).value ≤ ceiling) :
    ∃ y, ofParts? negative c k = some y := by
  obtain ⟨step, rfl⟩ := Nat.exists_eq_add_of_le hgreat
  obtain ⟨bound, power, hbound, hexact, hpower, hproduct⟩ :=
    exists_of_keepsWithin (keepsWithin_great step (by omega))
  have hcoefficient : (c : ℚ) ≤ bound.magnitude := by
    rw [hexact]
    exact_mod_cast coefficient_le_bound hdigits hle
  exact exists_ofParts?_of_bounds negative hk hbound hpower hcoefficient hproduct

/-- The shortest decimal of the greatest number. -/
theorem shortest_greatest (negative : Bool) :
    shortest ⟨negative, 2 * leastFull - 1, greatestExponent⟩ = ⟨17976931348623157, 292⟩ := by
  cases negative <;> decide +kernel

/-- The shortest decimal of a number is read as a number. -/
theorem exists_ofParts?_shortest {x : Binary64} (hx : x.IsBounded) (negative : Bool) :
    ∃ y, ofParts? negative x.shortest.coefficient x.shortest.exponent = some y := by
  have hdigits := x.shortest_coefficient_le
  rcases le_or_gt x.shortest.exponent 288 with hsmall | hgreat
  · exact exists_ofParts?_of_le negative (hdigits.trans (by decide)) hsmall
  · by_cases hgreatest : x.exponent = greatestExponent ∧ x.significand = 2 * leastFull - 1
    · obtain ⟨negative', significand, exponent⟩ := x
      obtain ⟨rfl, rfl⟩ := hgreatest
      rw [shortest_greatest]
      exact Option.isSome_iff_exists.mp (by cases negative <;> decide +kernel)
    · have hle := shortest_value_le_ceiling hx fun hexponent hsignificand =>
        hgreatest ⟨hexponent, hsignificand⟩
      -- the exponent is a natural, as one above the small ones
      have hsplit : x.shortest.exponent = (x.shortest.exponent.toNat : ℤ) := by omega
      have hvalue : (Decimal.mk x.shortest.coefficient x.shortest.exponent.toNat).value =
          x.shortest.value := by
        rw [← hsplit]
      rw [hsplit]
      have hexponent := shortest_exponent_le hx
      exact exists_ofParts?_of_le_ceiling negative hdigits (by omega) (by omega)
        (hvalue.trans_le hle)

end Binary64

end ChatSteward
