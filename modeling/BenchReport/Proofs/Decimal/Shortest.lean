import BenchReport.Decimal.Shortest
import BenchReport.Proofs.Binary64.Nearest
import BenchReport.Proofs.Text.Digits
import Mathlib.Algebra.Order.Field.Basic
import Mathlib.Data.Rat.Cast.Order
import Mathlib.Tactic.LinearCombination
import Mathlib.Tactic.Positivity
import Mathlib.Tactic.Ring

/-!
# The shortest decimal lies near its magnitude

The decimal that is written for a positive magnitude is positive and does not lie beyond
the upper end of the interval of reals that are rounded to the magnitude.

## Main definitions

* `Decimal.value` — the value of a decimal as a rational number.
* `Decimal.WrittenFor` — what is known of the decimal that is written for a magnitude.

## Main results

* `Decimal.isLE_compareQuarterUnits` — comparing with quarter units compares values.
* `Decimal.value_stripZeros` — stripping zeros keeps the value.
* `Magnitude.shortest_writtenFor` — **the shortest decimal lies near its magnitude.**
-/

namespace BenchReport

namespace Decimal

/-- The value of the decimal. -/
def value (d : Decimal) : ℚ := d.digits * 10 ^ d.exponent

theorem ten_zpow_mul (e : Int) : (10 : ℚ) ^ e * 10 ^ (-e).toNat = 10 ^ e.toNat := by
  rw [← zpow_natCast (10 : ℚ) (-e).toNat, ← zpow_natCast (10 : ℚ) e.toNat,
    ← zpow_add₀ (by norm_num)]
  congr 1
  omega

/-- Comparing with quarter units compares values. -/
theorem isLE_compareQuarterUnits (d : Decimal) (num : Nat) :
    (d.compareQuarterUnits num).isLE ↔ d.value * (4 * Binary64.one) ≤ num := by
  have hpow : (0 : ℚ) < 10 ^ (-d.exponent).toNat := by positivity
  rw [compareQuarterUnits, Nat.isLE_compare, ← mul_le_mul_iff_left₀ hpow, value]
  have hleft : (d.digits * 10 ^ d.exponent * (4 * Binary64.one) : ℚ) * 10 ^ (-d.exponent).toNat =
      d.digits * 10 ^ d.exponent.toNat * (4 * Binary64.one) := by
    rw [← ten_zpow_mul d.exponent]
    ring
  rw [hleft]
  exact_mod_cast Iff.rfl

/-- Stripping zeros keeps the value. -/
theorem value_stripZeros (digits : Nat) (exponent : Int) :
    (stripZeros digits exponent).value = digits * 10 ^ exponent := by
  fun_induction stripZeros digits exponent with
  | case1 digits exponent h ih =>
    have hdigits : ((digits / 10 : Nat) : ℚ) * 10 = digits := by
      exact_mod_cast Nat.div_mul_cancel (Nat.dvd_of_mod_eq_zero h.2)
    rw [ih, zpow_add₀ (by norm_num), zpow_one, ← hdigits]
    ring
  | case2 digits exponent h => rfl

theorem stripZeros_pos {digits : Nat} (h : 0 < digits) (exponent : Int) :
    0 < (stripZeros digits exponent).digits := by
  fun_induction stripZeros digits exponent with
  | case1 digits exponent hzero ih => exact ih (by omega)
  | case2 digits exponent hzero => exact h

theorem le_exponent_stripZeros (digits : Nat) (exponent : Int) :
    exponent ≤ (stripZeros digits exponent).exponent := by
  fun_induction stripZeros digits exponent with
  | case1 digits exponent hzero ih => omega
  | case2 digits exponent hzero => exact le_refl _

/-- What is known of the decimal that is written for a magnitude: it is positive, does not
lie beyond the upper end of the interval, and is a multiple of `10 ^ (-1074)`. -/
structure WrittenFor (d : Decimal) (m : Magnitude) : Prop where
  digits_pos : 0 < d.digits
  value_le : d.value * (4 * Binary64.one) ≤ m.upperQuarters
  le_exponent : -1074 ≤ d.exponent

/-- Neither does a whole number that does not exceed the decimal. -/
theorem WrittenFor.mul_le_upperQuarters {d : Decimal} {m : Magnitude} (h : d.WrittenFor m)
    {n : Nat} (hn : (n : ℚ) ≤ d.value) : n * (4 * Binary64.one) ≤ m.upperQuarters := by
  have hone : (0 : ℚ) ≤ 4 * Binary64.one := mul_nonneg (by norm_num) (Nat.cast_nonneg _)
  have hupper := le_trans (mul_le_mul_of_nonneg_right hn hone) h.value_le
  exact_mod_cast hupper

theorem WrittenFor.stripZeros {d : Decimal} {m : Magnitude} (h : d.WrittenFor m) :
    (Decimal.stripZeros d.digits d.exponent).WrittenFor m where
  digits_pos := stripZeros_pos h.digits_pos _
  value_le := by
    rw [value_stripZeros]
    exact h.value_le
  le_exponent := le_trans h.le_exponent (le_exponent_stripZeros _ _)

end Decimal

namespace Magnitude

open Decimal

variable {m : Magnitude} {d : Decimal}

theorem upperQuarters_lt (m : Magnitude) : m.upperQuarters < 6 * Binary64.limit := by
  have hgap := Binary64.gap_le_topGap m.lt_limit
  have htop : Binary64.topGap ≤ Binary64.limit := by
    rw [Binary64.limit_eq]
    exact Nat.le_mul_of_pos_left _ (by decide)
  have hlt := m.lt_limit
  rw [upperQuarters]
  omega

theorem lowerQuarters_pos (h : 0 < m.units) : 0 < m.lowerQuarters := by
  have hgap : Binary64.gap m.units ≤ m.units := Nat.le_of_dvd h m.onGrid
  rw [lowerQuarters]
  split <;> omega

/-- A decimal in the interval does not lie beyond its upper end. -/
theorem value_le_of_readsBack (h : m.readsBack d) :
    d.value * (4 * Binary64.one) ≤ m.upperQuarters := by
  rw [← isLE_compareQuarterUnits]
  simp only [readsBack, Bool.and_eq_true, Bool.or_eq_true, beq_iff_eq] at h
  rcases h.2 with h | ⟨-, h⟩ <;> rw [h] <;> rfl

theorem digits_pos_of_readsBack (hm : 0 < m.units) (h : m.readsBack d) : 0 < d.digits := by
  apply Nat.pos_of_ne_zero
  intro hzero
  have hlow : d.compareQuarterUnits m.lowerQuarters = .lt := by
    rw [compareQuarterUnits, hzero, Nat.zero_mul, Nat.zero_mul, Nat.compare_eq_lt]
    exact Nat.mul_pos (lowerQuarters_pos hm) (Nat.pow_pos (by decide))
  simp [readsBack, hlow] at h

theorem writtenFor_of_readsBack (hm : 0 < m.units) (h : m.readsBack d)
    (hexponent : -1074 ≤ d.exponent) : d.WrittenFor m :=
  ⟨digits_pos_of_readsBack hm h, value_le_of_readsBack h, hexponent⟩

theorem le_leadingPlace (m : Magnitude) : -399 ≤ m.leadingPlace := by
  have hlength : ∀ ds : List Char, ds ≠ [] → -399 ≤ (ds.length : Int) - 400 := by
    intro ds hds
    have hpos := List.length_pos_iff.2 hds
    omega
  exact hlength _ (Text.digits_ne_nil _)

theorem roundHalfEven_eq_or (num den : Nat) :
    roundHalfEven num den = num / den ∨ roundHalfEven num den = num / den + 1 := by
  have hle := le_roundHalfEven num den
  have hsucc := roundHalfEven_le_succ num den
  omega

theorem neighbour?_writtenFor (hm : 0 < m.units) {exponent : Int} {num den : Nat}
    (hexponent : -1074 ≤ exponent) (h : m.neighbour? exponent num den = some d) :
    d.WrittenFor m := by
  rw [neighbour?] at h
  split at h
  · rename_i hbelow
    split at h
    · rename_i habove
      obtain rfl := Option.some.inj h
      rcases roundHalfEven_eq_or num den with heq | heq <;> rw [heq]
      · exact writtenFor_of_readsBack hm hbelow hexponent
      · exact writtenFor_of_readsBack hm habove hexponent
    · obtain rfl := Option.some.inj h
      exact writtenFor_of_readsBack hm hbelow hexponent
  · split at h
    · rename_i habove
      obtain rfl := Option.some.inj h
      exact writtenFor_of_readsBack hm habove hexponent
    · cases h

theorem candidate?_writtenFor (hm : 0 < m.units) {count : Nat} (hcount : count ≤ 17)
    (h : m.candidate? count = some d) : d.WrittenFor m := by
  have hlead := le_leadingPlace m
  exact neighbour?_writtenFor hm (by omega) h

/-- The exact value, with the number of binary places as a variable. -/
theorem exists_exactDecimal_eq : ∃ k : Nat, (k : Int) ≤ 1074 ∧ Binary64.one = 2 ^ k ∧
    ∀ m : Magnitude, m.exactDecimal = ⟨m.units * 5 ^ k, -k⟩ :=
  ⟨1074, by decide, by decide +kernel, fun _ => rfl⟩

theorem exactDecimal_writtenFor (hm : 0 < m.units) : m.exactDecimal.WrittenFor m := by
  obtain ⟨k, hk, hone, hexact⟩ := exists_exactDecimal_eq
  rw [hexact]
  -- a unit is `2 ^ (-k)`, so the fives and the power of ten make up one unit
  refine ⟨Nat.mul_pos hm (Nat.pow_pos (by decide)), ?_, by simpa using hk⟩
  have htwo : (5 : ℚ) ^ k * 10 ^ (-k : Int) * 2 ^ k = 1 := by
    rw [mul_right_comm, ← mul_pow, zpow_neg, zpow_natCast]
    norm_num
  have hvalue : value ⟨m.units * 5 ^ k, -k⟩ * (4 * Binary64.one) = 4 * m.units := by
    rw [value, hone]
    push_cast
    linear_combination 4 * (m.units : ℚ) * htwo
  rw [hvalue, upperQuarters]
  exact_mod_cast Nat.le_add_right _ _

/-- **The shortest decimal lies near its magnitude.** -/
theorem shortest_writtenFor (hm : 0 < m.units) : m.shortest.WrittenFor m := by
  rw [shortest]
  apply WrittenFor.stripZeros
  cases hfound : (List.range 17).findSome? fun i => m.candidate? (i + 1) with
  | none => exact exactDecimal_writtenFor hm
  | some d =>
    obtain ⟨i, hi, hcandidate⟩ := List.exists_of_findSome?_eq_some hfound
    exact candidate?_writtenFor hm (List.mem_range.1 hi) hcandidate

end Magnitude

end BenchReport
