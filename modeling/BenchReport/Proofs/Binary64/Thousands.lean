import BenchReport.Proofs.Binary64.Value

/-!
# Chart values are ordered and near

A chart shows a number in thousands to one place by four steps, each of which is rounded: division
by a thousand, multiplication by ten, rounding to a whole number and division by ten.  The order of
the numbers is kept, and nothing becomes a NaN.  Up to `2 ^ 50` the first two steps move the
hundredth of the number by less than a hundredth, so the chart shows a number of tenths that is off
by little more than a half.

## Main definitions

* `Binary64.RoundsTo` — a number is the one to which a rational number is rounded.

## Main results

* `Binary64.exists_tenths` — the tenths that a magnitude in thousands has.
* `Binary64.chartValues_ordered_and_near` — **chart values keep the order, and a number in thousands
  is a whole number of tenths, as near as it can be but for a hundredth.**
-/

namespace BenchReport.Binary64

/-- **The tenths of a number in thousands.**  There are as many of them as hundreds in the number,
but for half a tenth that is rounded and a hundredth of one that the steps before it cost. -/
theorem exists_tenths (s : Bool) {m : Magnitude} (hm : m.units ≤ 2 ^ 50 * one) :
    ∃ (n : Nat) (q : Magnitude), (Binary64.finite s m).toThousands = .finite s q ∧
      q.units = nearest (n * one) 10 ∧ 100 * (n * one) ≤ m.units + 51 * one ∧
      m.units ≤ 100 * (n * one) + 51 * one := by
  have hone := one_pos
  obtain ⟨a, ha, haunits⟩ := finite_div_ofNat s m (n := 1000) (by decide) (by decide)
  -- the thousandth
  have hgap : gap (m.units / 1000) * 2000 < one := by
    have hdiv := Nat.div_mul_le_self m.units 1000
    refine gap_mul_lt (by decide +kernel) ?_
    linarith
  have hlow := le_nearest_mul m.units (show 0 < 1000 by decide)
  have hhigh := nearest_mul_le m.units 1000
  rw [← haunits] at hlow hhigh
  -- its tenfold, which is small enough to be finite
  have hgap' : gap (a.units * 10) * 256 < one := by
    refine gap_mul_lt (by decide +kernel) ?_
    linarith
  have hlow' := le_nearest_mul (a.units * 10) Nat.one_pos
  have hhigh' := nearest_mul_le (a.units * 10) 1
  rw [Nat.div_one] at hlow' hhigh'
  have hlimit := mul_one_lt_limit (n := 2 ^ 53) le_rfl
  have hlt : nearest (a.units * 10) 1 < limit := by linarith
  obtain ⟨z, hz, hzunits⟩ : ∃ z : Magnitude, .finite s a * ofNat 10 = .finite s z ∧
      z.units = nearest (a.units * 10) 1 :=
    ⟨_, (finite_mul_ofNat s a (by decide)).trans (round_eq_finite hlt), rfl⟩
  rw [← hzunits] at hlow' hhigh'
  -- the whole number of tenths
  obtain ⟨w, hw, hwunits⟩ := finite_roundHalfAway s z
  obtain ⟨q, hq, hqunits⟩ := finite_div_ofNat s w (n := 10) (by decide) (by decide)
  obtain ⟨hbelow, habove⟩ := roundHalfUp_near z.units hone
  refine ⟨roundHalfUp z.units one, q, ?_, by rw [hqunits, hwunits], by linarith, by linarith⟩
  rw [toThousands, show (1000 : Binary64) = ofNat 1000 from rfl, ha, roundTo_one, hz, hw, hq]

/-- The number is the one to which a rational number is rounded: its magnitude is the nearest, and
it has the sign of the rational number unless that is zero. -/
def RoundsTo (q : ℚ) (x : Binary64) : Prop :=
  ∃ s m, x = .finite s m ∧ IsNearest (|q| * one) m.units ∧ (q < 0 → s = true) ∧ (0 < q → s = false)

/-- A signed number of tenths is rounded to the number of the same sign whose magnitude is rounded
to. -/
theorem roundsTo_tenths (s : Bool) {n : Nat} {q : Magnitude} (hq : q.units = nearest (n * one) 10) :
    RoundsTo (signed s n / 10) (.finite s q) := by
  have hnearest : IsNearest ((n : ℚ) / 10 * one) q.units := by
    have h := isNearest_nearest (n * one) (show 0 < 10 by decide)
    rw [← hq, Nat.cast_mul, Nat.cast_ofNat, mul_div_right_comm] at h
    exact h
  have hnonneg : (0 : ℚ) ≤ n / 10 := by positivity
  cases s with
  | false =>
    have hvalue : (signed false n : ℚ) / 10 = n / 10 := rfl
    rw [hvalue]
    refine ⟨false, q, rfl, ?_, fun h => absurd h hnonneg.not_gt, fun _ => rfl⟩
    rwa [abs_of_nonneg hnonneg]
  | true =>
    have hvalue : (signed true n : ℚ) / 10 = -(n / 10) := by
      rw [signed_true, Int.cast_neg, neg_div]
      rfl
    rw [hvalue]
    refine ⟨true, q, rfl, ?_, fun _ => rfl, fun h => ?_⟩
    · rwa [abs_neg, abs_of_nonneg hnonneg]
    · linarith

/-- The number of tenths and the number of hundreds are signed alike, so they are as near as their
absolute values. -/
theorem abs_tenths_sub_le (s : Bool) {m : Magnitude} {n : Nat}
    (hlow : 100 * (n * one) ≤ m.units + 51 * one) (hhigh : m.units ≤ 100 * (n * one) + 51 * one) :
    |(signed s n : ℚ) - (Binary64.finite s m).toRat / 100| ≤ 51 / 100 := by
  have hone := one_cast_pos
  have hlow' : (n : ℚ) * 100 ≤ m.units / one + 51 := by
    rw [← mul_le_mul_iff_left₀ hone, add_mul, div_mul_cancel₀ _ hone.ne']
    have hcast : (100 * (n * one) : ℚ) ≤ m.units + 51 * one := by exact_mod_cast hlow
    linarith
  have hhigh' : (m.units : ℚ) / one ≤ n * 100 + 51 := by
    rw [← mul_le_mul_iff_left₀ hone, add_mul, div_mul_cancel₀ _ hone.ne']
    have hcast : (m.units : ℚ) ≤ 100 * (n * one) + 51 * one := by exact_mod_cast hhigh
    linarith
  rw [toRat_finite, abs_le]
  cases s with
  | false =>
    simp only [signed, Bool.false_eq_true, if_false, Int.cast_natCast]
    constructor <;> linarith
  | true =>
    simp only [signed, if_true, Int.cast_neg, Int.cast_natCast, neg_div]
    constructor <;> linarith

/-- **Chart values are ordered and near.**  Rounding to a whole number, to one place, and to one
place in thousands keeps the order, infinite values included, and makes no NaN of a finite number.
Up to `2 ^ 50` a number in thousands is the one nearest to a whole number of tenths, which differs
from the number of hundreds by less than a half and a hundredth; whole hundreds are exact. -/
theorem chartValues_ordered_and_near :
    (∀ x y : Binary64, x ≤ y → x.toThousands ≤ y.toThousands ∧ x.roundTo 0 ≤ y.roundTo 0 ∧
      x.roundTo 1 ≤ y.roundTo 1) ∧
    (∀ x : Binary64, x.isFinite → x.toThousands ≠ .nan ∧ x.roundTo 0 ≠ .nan ∧
      x.roundTo 1 ≠ .nan) ∧
    ∀ x : Binary64, x.isFinite → |x.toRat| ≤ 2 ^ 50 →
      ∃ n : Int, RoundsTo (n / 10) x.toThousands ∧ |n - x.toRat / 100| ≤ 51 / 100 ∧
        ∀ k : Int, x.toRat = 100 * k → n = k := by
  have hordered : ∀ x y : Binary64, x ≤ y → x.toThousands ≤ y.toThousands ∧
      x.roundTo 0 ≤ y.roundTo 0 ∧ x.roundTo 1 ≤ y.roundTo 1 := fun x y h =>
    ⟨toThousands_le_toThousands h, roundTo_le_roundTo zero_le_one h, roundTo_le_roundTo le_rfl h⟩
  refine ⟨hordered, fun x hx => ?_, fun x hx hsmall => ?_⟩
  · obtain ⟨hthousands, hwhole, htenths⟩ := hordered x x (le_self_of_isFinite hx)
    exact ⟨ne_nan_of_le hthousands, ne_nan_of_le hwhole, ne_nan_of_le htenths⟩
  · obtain ⟨s, m, rfl⟩ := exists_eq_finite hx
    have hunits : m.units ≤ 2 ^ 50 * one := by
      rw [abs_toRat_finite, div_le_iff₀ one_cast_pos] at hsmall
      exact_mod_cast hsmall
    obtain ⟨n, q, hq, hnearest, hlow, hhigh⟩ := exists_tenths s hunits
    have hnear := abs_tenths_sub_le s hlow hhigh
    refine ⟨signed s n, hq ▸ roundsTo_tenths s hnearest, hnear, fun k hk => ?_⟩
    -- two whole numbers that are less than one apart are equal
    rw [hk, mul_div_cancel_left₀ _ (by norm_num : (100 : ℚ) ≠ 0)] at hnear
    have hlt : |signed s n - k| < 1 := by
      have h := hnear.trans_lt (by norm_num : (51 / 100 : ℚ) < 1)
      exact_mod_cast h
    exact sub_eq_zero.1 (Int.abs_lt_one_iff.1 hlt)

/-- A half of a tenth is rounded up, and a little less is rounded down. -/
theorem chartValues_halfTenth : (1249 : Binary64) ≤ 1250 ∧
    (1249 : Binary64).toThousands = 12 / 10 ∧ (1250 : Binary64).toThousands = 13 / 10 ∧
    (12 / 10 : Binary64) ≤ 13 / 10 ∧ (13 / 10 : Binary64) ≠ .nan ∧
    ∃ n : Int, RoundsTo (n / 10) (13 / 10) ∧ |n - (1250 : ℚ) / 100| ≤ 51 / 100 := by
  have hle : (1249 : Binary64) ≤ 1250 := by decide +kernel
  have hfinite : (1250 : Binary64).isFinite := by decide +kernel
  have hlow : (1249 : Binary64).toThousands = 12 / 10 := by decide +kernel
  have hhigh : (1250 : Binary64).toThousands = 13 / 10 := by decide +kernel
  have hvalue : (1250 : Binary64).toRat = 1250 := toRat_ofNat (n := 1250) (by decide)
  obtain ⟨hordered, hnan, hnear⟩ := chartValues_ordered_and_near
  have hthousands := (hordered 1249 1250 hle).1
  have hnotNan := (hnan 1250 hfinite).1
  obtain ⟨n, hn, hclose, -⟩ := hnear 1250 hfinite (by rw [hvalue]; norm_num)
  rw [hlow, hhigh] at hthousands
  rw [hhigh] at hnotNan hn
  rw [hvalue] at hclose
  exact ⟨hle, hlow, hhigh, hthousands, hnotNan, n, hn, hclose⟩

end BenchReport.Binary64
