/-!
# Rounding to the binary64 grid

Every finite binary64 magnitude is a whole number of *units* of `2 ^ (-1074)`.
Below `2 ^ 53` units each count is a magnitude; above, only the multiples of a
power of two are, so that fifty-three leading bits suffice.  An exact quotient of
natural numbers is rounded onto this grid by one function, and every arithmetic
operation of the library is an exact quotient followed by that rounding.

## Main definitions

* `roundHalfEven`, `roundHalfUp` — a quotient rounded to a whole number.
* `Binary64.gap u` — the distance of neighbouring magnitudes around `u` units.
* `Binary64.nearest num den` — the grid point nearest to `num / den` units.

## Main results

* `Binary64.gap_nearest_dvd` — what `nearest` returns lies on the grid.
-/

namespace BenchReport

/-- `num / den` rounded to the nearest whole number, a half to the even one. -/
def roundHalfEven (num den : Nat) : Nat :=
  let q := num / den
  let r := num % den
  if 2 * r < den then q else if den < 2 * r then q + 1 else q + q % 2

/-- `num / den` rounded to the nearest whole number, a half upwards. -/
def roundHalfUp (num den : Nat) : Nat := (2 * num + den) / (2 * den)

theorem roundHalfEven_le_succ (num den : Nat) : roundHalfEven num den ≤ num / den + 1 := by
  simp only [roundHalfEven]
  split
  · omega
  · split
    · omega
    · have := Nat.mod_lt (num / den) (show 0 < 2 by decide)
      omega

namespace Binary64

-- in definitions a power is `Nat.pow`: the sign `^` is another function beside an algebra library

/-- The number of units in one. -/
def one : Nat := Nat.pow 2 1074

/-- The first count of units that is too large for a finite magnitude. -/
def limit : Nat := Nat.pow 2 2098

/-- The distance between neighbouring magnitudes in the binade of `u` units. -/
def gap (u : Nat) : Nat := Nat.pow 2 (u.log2 - 52)

theorem gap_pos (u : Nat) : 0 < gap u := Nat.two_pow_pos _

/-- The grid point nearest to `num / den` units; of two equally near ones the one
with an even number of gaps. -/
def nearest (num den : Nat) : Nat :=
  let g := gap (num / den)
  roundHalfEven num (den * g) * g

/-- A number of gaps that fits fifty-three bits lies on the grid, whatever the gap:
the product may only reach the next binade at its first point. -/
theorem gap_mul_two_pow_dvd {q k : Nat} (h : q ≤ Nat.pow 2 53) :
    gap (q * Nat.pow 2 k) ∣ q * Nat.pow 2 k := by
  show gap (q * 2 ^ k) ∣ q * 2 ^ k
  by_cases h0 : q = 0
  · simp [h0]
  have hne : q * 2 ^ k ≠ 0 := Nat.mul_ne_zero h0 (Nat.ne_of_gt (Nat.two_pow_pos k))
  rcases Nat.lt_or_eq_of_le h with hlt | heq
  · have hlog : (q * 2 ^ k).log2 < 53 + k := by
      rw [Nat.log2_lt hne, Nat.pow_add]
      exact Nat.mul_lt_mul_of_pos_right hlt (Nat.two_pow_pos k)
    exact Nat.dvd_trans (Nat.pow_dvd_pow 2 (by omega)) (Nat.dvd_mul_left _ _)
  · rw [heq, Nat.pow_eq, ← Nat.pow_add, gap, Nat.log2_two_pow]
    exact Nat.pow_dvd_pow 2 (by omega)

/-- A quotient has fewer than fifty-four bits when counted in gaps. -/
theorem div_gap_lt (num den : Nat) : num / (den * gap (num / den)) < Nat.pow 2 53 := by
  rw [← Nat.div_div_eq_div_mul, Nat.div_lt_iff_lt_mul (gap_pos _)]
  have h := Nat.lt_log2_self (n := num / den)
  refine Nat.lt_of_lt_of_le h ?_
  rw [gap, Nat.pow_eq, Nat.pow_eq, ← Nat.pow_add]
  exact Nat.pow_le_pow_right (by decide) (by omega)

/-- **What is rounded lies on the grid.** -/
theorem gap_nearest_dvd (num den : Nat) : gap (nearest num den) ∣ nearest num den := by
  have hq := roundHalfEven_le_succ num (den * gap (num / den))
  have hlt := div_gap_lt num den
  exact gap_mul_two_pow_dvd (by omega)

end Binary64

end BenchReport
