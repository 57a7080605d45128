import BenchReport.Proofs.Binary64.Scaling
import Mathlib.Algebra.Order.Field.Basic
import Mathlib.Data.Nat.Cast.Order.Field
import Mathlib.Data.Rat.Cast.Order
import Mathlib.Tactic.LinearCombination

/-!
# Rounding is correct

An exact quotient is rounded to the nearest point of the grid, and of two equally near points to the
one whose count of gaps is even.  There is only one such point, so rounding is described without
saying how it is done.  The grid goes on beyond the finite numbers: what is rounded to the limit or
to a point behind it has no finite number.

## Main definitions

* `Binary64.IsNearest` — the point of the grid to which an exact count of units is rounded.

## Main results

* `Binary64.isNearest_nearest` — **the rounded quotient is the nearest point.**
* `Binary64.IsNearest.unique` — there is no other.
* `Binary64.round_eq_finite_iff` — which quotients become a finite number.
-/

namespace BenchReport

/-- A quotient that lies in the middle between two whole numbers is rounded to the even one. -/
theorem even_roundHalfEven {num den : Nat}
    (h : 2 * (roundHalfEven num den * den) = 2 * num + den ∨
      2 * num = 2 * (roundHalfEven num den * den) + den) (hden : 0 < den) :
    Even (roundHalfEven num den) := by
  have hdiv := Nat.div_add_mod num den
  have hmod := Nat.mod_lt num hden
  rw [Nat.mul_comm] at hdiv
  simp only [roundHalfEven] at h ⊢
  split at h
  · omega
  · split at h
    · rw [Nat.add_mul, Nat.one_mul] at h
      omega
    · rename_i hlow hhigh
      rw [if_neg hlow, if_neg hhigh, Nat.even_iff]
      omega

/-- A quotient is off from the rounded one by a half at most. -/
theorem abs_sub_roundHalfEven_le (num : Nat) {den : Nat} (hden : 0 < den) :
    2 * |(num / den : ℚ) - roundHalfEven num den| ≤ 1 := by
  have hpos : (0 : ℚ) < den := by exact_mod_cast hden
  have hnum : (num : ℚ) = num / den * den := (div_mul_cancel₀ _ hpos.ne').symm
  have hhigh : (2 * (roundHalfEven num den * den) : ℚ) ≤ 2 * num + den := by
    exact_mod_cast roundHalfEven_le num den
  have hlow : (2 * num : ℚ) ≤ 2 * (roundHalfEven num den * den) + den := by
    exact_mod_cast le_roundHalfEven_mul num hden
  have habs : |(num / den : ℚ) - roundHalfEven num den| ≤ 1 / 2 := by
    rw [abs_le]
    constructor
    · refine le_of_mul_le_mul_right ?_ hpos
      linarith
    · refine le_of_mul_le_mul_right ?_ hpos
      linarith
  linarith

/-- When it is off by a half, it has been rounded to an even number. -/
theorem even_roundHalfEven_of_tie {num den : Nat} (hden : 0 < den)
    (htie : 2 * |(num / den : ℚ) - roundHalfEven num den| = 1) :
    Even (roundHalfEven num den) := by
  have hpos : (0 : ℚ) < den := by exact_mod_cast hden
  have hnum : (num : ℚ) = num / den * den := (div_mul_cancel₀ _ hpos.ne').symm
  refine even_roundHalfEven ?_ hden
  generalize roundHalfEven num den = k at htie ⊢
  generalize (num / den : ℚ) = q at hnum htie
  rcases abs_choice (q - k) with habs | habs
  · right
    rw [habs] at htie
    have hexact : (2 * num : ℚ) = 2 * (k * den) + den := by
      linear_combination 2 * hnum + den * htie
    exact_mod_cast hexact
  · left
    rw [habs] at htie
    have hexact : (2 * (k * den) : ℚ) = 2 * num + den := by
      linear_combination -2 * hnum + den * htie
    exact_mod_cast hexact

namespace Binary64

/-- The point of the grid nearest to an exact count of units; of two equally near ones the one with
an even number of gaps. -/
structure IsNearest (q : ℚ) (u : Nat) : Prop where
  onGrid : gap u ∣ u
  closest : ∀ v : Nat, gap v ∣ v → |q - u| ≤ |q - v|
  even : ∀ v : Nat, gap v ∣ v → v ≠ u → |q - v| = |q - u| → Even (u / gap u)

/-! ### The rounded quotient -/

variable (num : Nat) {den : Nat}

/-- A quotient is as far from the rounded one as its number of gaps is from a whole number. -/
theorem abs_sub_nearest (num den : Nat) : |(num / den : ℚ) - nearest num den| =
    |(num / (den * gap (num / den) : Nat) : ℚ) - roundHalfEven num (den * gap (num / den))| *
      gap (num / den) := by
  have hg : (0 : ℚ) < gap (num / den) := by exact_mod_cast gap_pos (num / den)
  rw [nearest]
  generalize gap (num / den) = g at hg ⊢
  rw [← abs_of_pos hg, ← abs_mul, sub_mul, Nat.cast_mul, Nat.cast_mul, ← div_div,
    div_mul_cancel₀ _ hg.ne']

/-- A rounded quotient is off by half a gap at most. -/
theorem abs_sub_nearest_le (hden : 0 < den) :
    2 * |(num / den : ℚ) - nearest num den| ≤ gap (num / den) := by
  have hround := abs_sub_roundHalfEven_le num (Nat.mul_pos hden (gap_pos (num / den)))
  have hmul := mul_le_mul_of_nonneg_right hround (Nat.cast_nonneg (gap (num / den)))
  rwa [mul_assoc, ← abs_sub_nearest, one_mul] at hmul

/-- Another multiple of the gap is half a gap away at least. -/
theorem gap_le_abs_sub (hden : 0 < den) {v : Nat} (hv : gap (num / den) ∣ v)
    (hne : v ≠ nearest num den) : (gap (num / den) : ℚ) ≤ 2 * |(num / den : ℚ) - v| := by
  have hround := abs_sub_nearest_le num hden
  have hmultiple : gap (num / den) ∣ nearest num den := Nat.dvd_mul_left _ _
  -- two multiples of the gap are a gap apart
  have hapart : (gap (num / den) : ℚ) ≤ |(nearest num den : ℚ) - v| := by
    have hdvd : (gap (num / den) : Int) ∣ (nearest num den : Int) - v :=
      dvd_sub (Int.natCast_dvd_natCast.2 hmultiple) (Int.natCast_dvd_natCast.2 hv)
    have hle := Int.le_of_dvd (abs_pos.2 (by omega)) ((dvd_abs _ _).2 hdvd)
    exact_mod_cast hle
  have htriangle := abs_sub_le (nearest num den : ℚ) (num / den) v
  rw [abs_sub_comm (nearest num den : ℚ) (num / den)] at htriangle
  linarith

/-- A quotient in the middle between two points of its binade is rounded to an even number of
gaps. -/
theorem even_of_tie (hden : 0 < den)
    (htie : 2 * |(num / den : ℚ) - nearest num den| = gap (num / den)) :
    Even (roundHalfEven num (den * gap (num / den))) := by
  have hg := gap_pos (num / den)
  rw [abs_sub_nearest, ← mul_assoc] at htie
  refine even_roundHalfEven_of_tie (Nat.mul_pos hden hg) ?_
  exact mul_right_cancel₀ (Nat.cast_ne_zero.2 hg.ne') (htie.trans (one_mul _).symm)

/-- An even multiple of a gap has an even number of gaps, also where the gap is wider. -/
theorem even_div_gap {k j : Nat} (hk : Even k) (hle : k ≤ 2 ^ 53) :
    Even (k * 2 ^ j / gap (k * 2 ^ j)) := by
  rcases Nat.lt_or_ge (52 + j) (k * 2 ^ j).log2 with hlog | hlog
  · -- only the first point of the next binade is reached
    have hne : k * 2 ^ j ≠ 0 := by
      intro hzero
      rw [hzero] at hlog
      simp at hlog
    have hreach : 2 ^ 53 * 2 ^ j ≤ k * 2 ^ j := by
      rw [← Nat.pow_add]
      exact (Nat.le_log2 hne).1 (by omega)
    obtain rfl : k = 2 ^ 53 :=
      Nat.le_antisymm hle (Nat.le_of_mul_le_mul_right hreach (Nat.two_pow_pos j))
    have hgap : gap (2 ^ 53 * 2 ^ j) = 2 ^ (j + 1) := by
      rw [← Nat.pow_add, gap, Nat.log2_two_pow, Nat.pow_eq]
      congr 1
      omega
    have hsplit : 2 ^ 53 * 2 ^ j = 2 ^ 52 * 2 ^ (j + 1) := by ring
    rw [hgap, hsplit, Nat.mul_div_cancel _ (Nat.two_pow_pos _)]
    decide
  · have hdvd : gap (k * 2 ^ j) ∣ 2 ^ j := Nat.pow_dvd_pow 2 (by omega)
    rw [Nat.mul_div_assoc k hdvd]
    exact hk.mul_right _

/-- A point that is no multiple of a gap lies below the binade of that gap. -/
theorem lt_of_not_gap_dvd {u v : Nat} (hv : gap v ∣ v) (h : ¬ gap u ∣ v) : v < 2 ^ u.log2 := by
  by_contra hge
  rw [Nat.not_lt] at hge
  have hne : v ≠ 0 := by
    have hpos := Nat.two_pow_pos u.log2
    omega
  have hlog : u.log2 ≤ v.log2 := (Nat.le_log2 hne).2 hge
  exact h (Nat.dvd_trans (Nat.pow_dvd_pow 2 (Nat.sub_le_sub_right hlog 52)) hv)

/-- Points of lower binades are farther away than the rounded quotient. -/
theorem abs_sub_nearest_lt (hden : 0 < den) {v : Nat} (hv : gap v ∣ v)
    (h : ¬ gap (num / den) ∣ v) :
    |(num / den : ℚ) - nearest num den| < |(num / den : ℚ) - v| := by
  have hbelow := lt_of_not_gap_dvd hv h
  have hne : num / den ≠ 0 := by
    intro hzero
    rw [hzero] at h
    exact h (Nat.one_dvd v)
  -- the first point of the binade lies between the two
  obtain ⟨first, hfirst⟩ : ∃ first, first = 2 ^ (num / den).log2 := ⟨_, rfl⟩
  rw [← hfirst] at hbelow
  have hle : (first : ℚ) ≤ num / den := by
    have hfloor : first ≤ num / den := hfirst ▸ Nat.log2_self_le hne
    exact (Nat.cast_le.2 hfloor).trans Nat.cast_div_le
  have hnear : |(num / den : ℚ) - nearest num den| ≤ |(num / den : ℚ) - first| := by
    have hdvd : gap (num / den) ∣ first := hfirst ▸ Nat.pow_dvd_pow 2 (Nat.sub_le _ _)
    rcases eq_or_ne first (nearest num den) with heq | hother
    · rw [heq]
    · have hround := abs_sub_nearest_le num hden
      have hfar := gap_le_abs_sub num hden hdvd hother
      linarith
  have hlt : (v : ℚ) < first := by exact_mod_cast hbelow
  rw [abs_of_nonneg (by linarith : (0 : ℚ) ≤ num / den - first)] at hnear
  rw [abs_of_nonneg (by linarith : (0 : ℚ) ≤ num / den - v)]
  linarith

/-- **The rounded quotient is the nearest point.** -/
theorem isNearest_nearest (hden : 0 < den) : IsNearest (num / den) (nearest num den) := by
  have hround := abs_sub_nearest_le num hden
  refine ⟨gap_nearest_dvd num den, fun v hv => ?_, fun v hv hne htie => ?_⟩
  · by_cases hdvd : gap (num / den) ∣ v
    · rcases eq_or_ne v (nearest num den) with rfl | hne
      · exact le_rfl
      · have hfar := gap_le_abs_sub num hden hdvd hne
        linarith
    · exact (abs_sub_nearest_lt num hden hv hdvd).le
  · by_cases hdvd : gap (num / den) ∣ v
    · have hfar := gap_le_abs_sub num hden hdvd hne
      have heven := even_of_tie num hden (le_antisymm hround (by linarith))
      have hle : roundHalfEven num (den * gap (num / den)) ≤ 2 ^ 53 := by
        have hlt := div_gap_lt num den
        have hsucc := roundHalfEven_le_succ num (den * gap (num / den))
        rw [Nat.pow_eq] at hlt
        omega
      exact even_div_gap heven hle
    · exact absurd htie (abs_sub_nearest_lt num hden hv hdvd).ne'

/-! ### No other point is nearest -/

variable {q : ℚ} {u v : Nat}

/-- The point behind another one in its binade, which may be the first of the next. -/
theorem gap_add_gap_dvd (hu : gap u ∣ u) : gap (u + gap u) ∣ u + gap u := by
  obtain ⟨k, hk⟩ := hu
  have hcount : k < 2 ^ 53 := by
    have hlt := div_gap_lt u 1
    rw [Nat.div_one, Nat.one_mul, Nat.pow_eq] at hlt
    rwa [← Nat.mul_div_cancel_left k (gap_pos u), ← hk]
  have hnext : u + gap u = (k + 1) * gap u := by
    rw [Nat.add_mul, Nat.one_mul, Nat.mul_comm k, ← hk]
  rw [hnext, gap]
  exact gap_mul_two_pow_dvd hcount

/-- Two points are not both nearest: the greater one would be the point behind the other, and
neighbours do not both have an even number of gaps. -/
theorem IsNearest.not_lt (hu : IsNearest q u) (hv : IsNearest q v) : ¬ u < v := by
  intro hlt
  have htie : |q - v| = |q - u| := le_antisymm (hv.closest u hu.onGrid) (hu.closest v hv.onGrid)
  have hlt' : (u : ℚ) < v := by exact_mod_cast hlt
  have hmiddle : 2 * q = u + v := by
    rcases abs_eq_abs.1 htie with h | h <;> linarith
  have hgap : gap u ∣ gap v := gap_dvd_gap hlt.le
  -- no point lies between the two
  have hnext : v = u + gap u := by
    have hle : u + gap u ≤ v := by
      have hdvd := Nat.dvd_sub (hgap.trans hv.onGrid) hu.onGrid
      have hsub := Nat.le_of_dvd (Nat.sub_pos_of_lt hlt) hdvd
      omega
    refine (Nat.eq_or_lt_of_le hle).elim Eq.symm fun hbetween => ?_
    have hfar := hu.closest _ (gap_add_gap_dvd hu.onGrid)
    have hpos : (u : ℚ) < (u + gap u : Nat) := by exact_mod_cast Nat.lt_add_of_pos_right (gap_pos u)
    have hbetween' : ((u + gap u : Nat) : ℚ) < v := by exact_mod_cast hbetween
    rw [abs_of_nonneg (by linarith : 0 ≤ q - u)] at hfar
    exact absurd hfar (not_le.2 (abs_lt.2 ⟨by linarith, by linarith⟩))
  -- an even number of the wider gaps is an even number of the others
  have heven : Even (v / gap u) := by
    rw [← Nat.div_mul_cancel hv.onGrid, Nat.mul_div_assoc _ hgap]
    exact (hv.even u hu.onGrid hlt.ne htie.symm).mul_right _
  have hcount : v / gap u = u / gap u + 1 := by
    rw [hnext, Nat.add_div_right _ (gap_pos u)]
  rw [hcount] at heven
  exact Nat.not_even_iff_odd.2 (hu.even v hv.onGrid hlt.ne' htie).add_one heven

theorem IsNearest.unique (hu : IsNearest q u) (hv : IsNearest q v) : u = v :=
  Nat.le_antisymm (Nat.not_lt.1 (hv.not_lt hu)) (Nat.not_lt.1 (hu.not_lt hv))

theorem isNearest_iff {num den : Nat} (hden : 0 < den) :
    IsNearest (num / den) u ↔ nearest num den = u :=
  ⟨(isNearest_nearest num hden).unique, fun h => h ▸ isNearest_nearest num hden⟩

/-! ### Finite numbers -/

/-- A quotient becomes a finite number when the nearest point is one. -/
theorem round_eq_finite_iff {negative s : Bool} {num den : Nat} {m : Magnitude} (hden : 0 < den) :
    round negative num den = .finite s m ↔ s = negative ∧ IsNearest (num / den) m.units := by
  rw [isNearest_iff hden]
  constructor
  · intro h
    rcases Nat.lt_or_ge (nearest num den) limit with hlt | hge
    · rw [round_eq_finite hlt, finite.injEq] at h
      obtain ⟨rfl, rfl⟩ := h
      exact ⟨rfl, rfl⟩
    · rw [round_eq_infinite hge] at h
      cases h
  · rintro ⟨rfl, h⟩
    exact round_eq_finite_of_eq h

/-- The number of an integer has its sign, and the magnitude nearest to it. -/
theorem ofInt_eq_finite_iff {k : Int} {s : Bool} {m : Magnitude} :
    ofInt k = .finite s m ↔ s = decide (k < 0) ∧ IsNearest (k.natAbs * one) m.units := by
  rw [ofInt, round_eq_finite_iff Nat.one_pos, Nat.cast_one, div_one, Nat.cast_mul]

/-- Points of the grid up to the exact count are not beyond the nearest one. -/
theorem IsNearest.le_of_le (h : IsNearest q u) (hv : gap v ∣ v) (hle : (v : ℚ) ≤ q) : v ≤ u := by
  by_contra hlt
  have hlt' : (u : ℚ) < v := by exact_mod_cast Nat.lt_of_not_le hlt
  have hclosest := h.closest v hv
  rw [abs_of_nonneg (by linarith), abs_of_nonneg (by linarith)] at hclosest
  linarith

theorem exists_zero_eq_finite (negative : Bool) :
    ∃ m : Magnitude, zero negative = .finite negative m ∧ m.units = 0 :=
  ⟨⟨0, Nat.dvd_zero _, by decide +kernel⟩, round_eq_finite_of_eq (nearest_zero_left 1), rfl⟩

/-- Up to half a unit all is rounded to zero. -/
theorem isNearest_zero (hq : 0 ≤ q) (hsmall : 2 * q ≤ 1) : IsNearest q 0 := by
  refine ⟨Nat.dvd_zero _, fun v _ => ?_, fun v _ _ _ => ?_⟩
  · rw [Nat.cast_zero, sub_zero, abs_of_nonneg hq]
    rcases Nat.eq_zero_or_pos v with rfl | hv
    · rw [Nat.cast_zero, sub_zero, abs_of_nonneg hq]
    · have hone : (1 : ℚ) ≤ v := by exact_mod_cast hv
      have hfar := neg_le_abs (q - v)
      linarith
  · rw [Nat.zero_div]
    exact Even.zero

end Binary64

end BenchReport
