import BenchReport.Proofs.Binary64.Correct
import BenchReport.Proofs.Decimal.Layout
import BenchReport.Proofs.Decimal.Shortest
import Mathlib.Algebra.Order.Field.Power

/-!
# Decimals become the nearest numbers

A decimal becomes the number nearest to its exact value.  Very large and very small decimals are
told by the place of their first digit, and what is made of them then is what rounding would make of
them, too.

## Main results

* `Decimal.ten_zpow_lead_le`, `Decimal.value_lt` — what the place of the first digit says.
* `Binary64.limit_le_value`, `Binary64.isNearest_zero_of_lead` — very large and very small decimals.
* `Binary64.ofDecimal_eq_finite_iff` — **which decimals become a finite number.**
-/

namespace BenchReport

namespace Decimal

/-- The first digit of a decimal counts for its power of ten at least. -/
theorem ten_zpow_lead_le {d : Decimal} (hd : 0 < d.digits) : (10 : ℚ) ^ d.lead ≤ d.value := by
  have hlength := List.length_pos_iff.2 (Text.digits_ne_nil d.digits)
  obtain ⟨places, hplaces⟩ := Nat.exists_eq_add_one_of_ne_zero (Nat.ne_of_gt hlength)
  have hfirst : (10 : ℚ) ^ places ≤ d.digits := by
    exact_mod_cast Text.ten_pow_le_of_length_digits hd hplaces
  have hscale : (0 : ℚ) ≤ 10 ^ d.exponent := by positivity
  calc (10 : ℚ) ^ d.lead = 10 ^ places * 10 ^ d.exponent := by
        rw [← zpow_natCast, ← zpow_add₀ (by norm_num), lead, hplaces]
        congr 1
        omega
    _ ≤ d.digits * 10 ^ d.exponent := mul_le_mul_of_nonneg_right hfirst hscale

/-- A decimal is less than the power of ten before its first digit. -/
theorem value_lt (d : Decimal) : d.value < 10 ^ (d.lead + 1) := by
  have hlength := List.length_pos_iff.2 (Text.digits_ne_nil d.digits)
  have hdigits : (d.digits : ℚ) < 10 ^ (Text.digits d.digits).length := by
    exact_mod_cast (Text.length_digits_le_iff hlength).1 le_rfl
  have hscale : (0 : ℚ) < 10 ^ d.exponent := by positivity
  calc d.value < 10 ^ (Text.digits d.digits).length * 10 ^ d.exponent :=
        mul_lt_mul_of_pos_right hdigits hscale
    _ = 10 ^ (d.lead + 1) := by
        rw [← zpow_natCast, ← zpow_add₀ (by norm_num), lead]
        congr 1
        omega

end Decimal

namespace Binary64

theorem limit_le_mul_one : limit ≤ 10 ^ 400 * one := by decide +kernel

theorem two_mul_one_le : 2 * one ≤ 10 ^ 400 := by decide +kernel

theorem gap_limit_dvd : gap limit ∣ limit := by
  rw [limit_eq]
  exact gap_mul_topGap_dvd le_rfl

/-- A count of units beyond the finite numbers has no nearest one. -/
theorem IsNearest.not_limit_le {q : ℚ} {m : Magnitude} (h : IsNearest q m.units) :
    ¬ (limit : ℚ) ≤ q :=
  fun hle => Nat.not_le.2 m.lt_limit (h.le_of_le gap_limit_dvd hle)

variable {negative s : Bool} {m : Magnitude}

/-- All that is rounded to zero keeps its sign. -/
theorem zero_eq_finite_iff {q : ℚ} (hq : IsNearest q 0) :
    zero negative = .finite s m ↔ s = negative ∧ IsNearest q m.units := by
  have hzero : 0 = m.units ↔ IsNearest q m.units := ⟨fun h => h ▸ hq, hq.unique⟩
  rw [zero, round_eq_finite_iff Nat.one_pos, isNearest_iff Nat.one_pos, nearest_zero_left, hzero]

/-- A decimal whose first digit has a large exponent is beyond the finite numbers. -/
theorem limit_le_value {d : Decimal} (hd : 0 < d.digits) (hlead : 400 ≤ d.lead) :
    (limit : ℚ) ≤ d.value * one :=
  calc (limit : ℚ) ≤ 10 ^ 400 * one := by exact_mod_cast limit_le_mul_one
    _ = 10 ^ (400 : Int) * one := by rw [← zpow_natCast]; rfl
    _ ≤ 10 ^ d.lead * one :=
        mul_le_mul_of_nonneg_right (zpow_le_zpow_right₀ (by norm_num) hlead) (Nat.cast_nonneg one)
    _ ≤ d.value * one :=
        mul_le_mul_of_nonneg_right (Decimal.ten_zpow_lead_le hd) (Nat.cast_nonneg one)

theorem value_nonneg (d : Decimal) : 0 ≤ d.value * one := by
  rw [Decimal.value]
  positivity

/-- A decimal whose first digit has a very negative exponent is rounded to zero. -/
theorem isNearest_zero_of_lead {d : Decimal} (hlead : d.lead + 1 ≤ -400) :
    IsNearest (d.value * one) 0 := by
  refine isNearest_zero (value_nonneg d) ?_
  have hpow : (10 : ℚ) ^ (400 : Int) * 10 ^ (-400 : Int) = 1 := by
    rw [← zpow_add₀ (by norm_num)]
    rfl
  have hone : (2 * one : ℚ) ≤ 10 ^ (400 : Int) := by
    rw [show (400 : Int) = (400 : Nat) from rfl, zpow_natCast]
    exact_mod_cast two_mul_one_le
  have hvalue : d.value ≤ 10 ^ (-400 : Int) :=
    d.value_lt.le.trans (zpow_le_zpow_right₀ (by norm_num) hlead)
  have hnonneg : (0 : ℚ) ≤ 10 ^ (-400 : Int) := by positivity
  calc 2 * (d.value * one) = d.value * (2 * one) := by ring
    _ ≤ 10 ^ (-400 : Int) * (2 * one) := mul_le_mul_of_nonneg_right hvalue
        (mul_nonneg zero_le_two (Nat.cast_nonneg one))
    _ ≤ 10 ^ (-400 : Int) * 10 ^ (400 : Int) := mul_le_mul_of_nonneg_left hone hnonneg
    _ = 1 := by rw [mul_comm, hpow]

/-- **Which decimals become a finite number**: those whose nearest point is one. -/
theorem ofDecimal_eq_finite_iff (d : Decimal) :
    ofDecimal negative d.digits d.exponent = .finite s m ↔
      s = negative ∧ IsNearest (d.value * one) m.units := by
  have hlead : d.exponent + (Text.digits d.digits).length = d.lead + 1 := by
    rw [Decimal.lead]
    omega
  simp only [ofDecimal, hlead]
  split
  · rename_i hzero
    refine zero_eq_finite_iff (isNearest_zero (value_nonneg d) ?_)
    rw [Decimal.value, hzero, Nat.cast_zero, zero_mul, zero_mul, mul_zero]
    exact zero_le_one
  · rename_i hne
    split
    · -- neither side holds
      rename_i hlarge
      have hbeyond := limit_le_value (Nat.pos_of_ne_zero hne) (by omega : 400 ≤ d.lead)
      exact iff_of_false Binary64.noConfusion fun h => h.2.not_limit_le hbeyond
    · split
      · rename_i hsmall
        exact zero_eq_finite_iff (isNearest_zero_of_lead hsmall.le)
      · have hden : 0 < Nat.pow 10 (-d.exponent).toNat := Nat.pow_pos (by decide)
        have hquotient : ((d.digits * Nat.pow 10 d.exponent.toNat * one : Nat) : ℚ) /
            (Nat.pow 10 (-d.exponent).toNat : Nat) = d.value * one := by
          rw [div_eq_iff (by exact_mod_cast hden.ne'), Decimal.value]
          simp only [Nat.pow_eq, Nat.cast_mul, Nat.cast_pow, Nat.cast_ofNat]
          rw [← Decimal.ten_zpow_mul d.exponent]
          ring
        rw [round_eq_finite_iff hden, hquotient]

end Binary64

end BenchReport
