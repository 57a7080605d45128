import BenchReport.Proofs.Binary64.Value

/-!
# Rounding to decimal places

A value is rounded to a whole number of last places: the nearest one, and of two equally near ones
the even one.  There is only one such number, so it is described here without saying how it is
found, and it does not become smaller when the value grows.

## Main definitions

* `IsRounded` — the number of last places to which a value is rounded.

## Main results

* `IsRounded.mono`, `IsRounded.unique` — **rounding keeps the order, and its result is one.**
* `isRounded_natCast` — whole numbers are not moved.
* `Magnitude.isRounded_toFixed` — **a decimal with fixed places is the rounded value.**
-/

namespace BenchReport

/-- The value, counted in units of the last of some decimal places, is off from a whole number by a
half at most, and by a half only when that number is even. -/
structure IsRounded (places : Nat) (q : ℚ) (n : Int) : Prop where
  near : 2 * |q * 10 ^ places - n| ≤ 1
  even : 2 * |q * 10 ^ places - n| = 1 → Even n

variable {places : Nat} {p q : ℚ} {k n : Int}

/-- **Rounding keeps the order**: neighbours are not both even, so a tie between them is not
rounded both ways. -/
theorem IsRounded.mono (hk : IsRounded places p k) (hn : IsRounded places q n) (hle : p ≤ q) :
    k ≤ n := by
  by_contra hlt
  have hsucc : (n + 1 : ℚ) ≤ k := by exact_mod_cast Int.add_one_le_of_lt (Int.lt_of_not_ge hlt)
  have hscaled : p * 10 ^ places ≤ q * 10 ^ places :=
    mul_le_mul_of_nonneg_right hle (by positivity)
  have hlow := neg_abs_le (p * 10 ^ places - k)
  have hhigh := le_abs_self (q * 10 ^ places - n)
  have hnear := hk.near
  have hnear' := hn.near
  -- both values are the middle between the two numbers
  have hk' := hk.even (le_antisymm hnear (by linarith))
  have hn' := hn.even (le_antisymm hnear' (by linarith))
  have hnext : k = n + 1 := by
    have hle : (k : ℚ) ≤ n + 1 := by linarith
    have hcast : (k : ℚ) = n + 1 := le_antisymm hle hsucc
    exact_mod_cast hcast
  rw [hnext, Int.even_add_one] at hk'
  exact hk' hn'

theorem IsRounded.unique (hk : IsRounded places q k) (hn : IsRounded places q n) : k = n :=
  le_antisymm (hk.mono hn le_rfl) (hn.mono hk le_rfl)

/-- Rounding is the same on both sides of zero. -/
theorem IsRounded.neg (h : IsRounded places q n) : IsRounded places (-q) (-n) := by
  have habs : |-q * 10 ^ places - (-n : Int)| = |q * 10 ^ places - n| := by
    rw [← abs_neg, Int.cast_neg]
    congr 1
    ring
  refine ⟨habs ▸ h.near, fun htie => ?_⟩
  rw [habs] at htie
  exact (h.even htie).neg

/-- Whole numbers are not moved. -/
theorem isRounded_natCast (places k : Nat) : IsRounded places k (k * 10 ^ places : Nat) := by
  have hzero : |(k : ℚ) * 10 ^ places - ((k * 10 ^ places : Nat) : Int)| = 0 := by
    push_cast
    rw [sub_self, abs_zero]
  constructor
  · rw [hzero]
    norm_num
  · rw [hzero]
    norm_num

/-! ### Rounded values -/

/-- A greater value is no smaller when it is rounded. -/
theorem IsRounded.div_le_div (hk : IsRounded places p k) (hn : IsRounded places q n)
    (hle : p ≤ q) : (k / 10 ^ places : ℚ) ≤ n / 10 ^ places :=
  div_le_div_of_nonneg_right (Int.cast_le.2 (hk.mono hn hle)) (by positivity)

theorem natCast_eq_div (places m : Nat) :
    (((m * 10 ^ places : Nat) : Int) / 10 ^ places : ℚ) = m := by
  rw [Int.cast_natCast, Nat.cast_mul, Nat.cast_pow, Nat.cast_ofNat]
  exact mul_div_cancel_right₀ _ (pow_ne_zero _ (by norm_num))

/-- Rounding does not lead past a whole number from below. -/
theorem IsRounded.div_le_natCast {m : Nat} (h : IsRounded places q n) (hq : q ≤ m) :
    (n / 10 ^ places : ℚ) ≤ m := by
  have hle := h.div_le_div (isRounded_natCast places m) hq
  rwa [natCast_eq_div] at hle

/-- Nor from above. -/
theorem IsRounded.natCast_le_div {m : Nat} (h : IsRounded places q n) (hq : m ≤ q) :
    (m : ℚ) ≤ n / 10 ^ places := by
  have hle := (isRounded_natCast places m).div_le_div h hq
  rwa [natCast_eq_div] at hle

/-! ### Decimals with fixed places -/

/-- A quotient rounded to a whole number, a half to the even one. -/
theorem isRounded_roundHalfEven {num den : Nat} (hden : 0 < den)
    (hq : q * 10 ^ places = num / den) : IsRounded places q (roundHalfEven num den) := by
  constructor
  · rw [hq, Int.cast_natCast]
    exact abs_sub_roundHalfEven_le num hden
  · intro htie
    rw [hq, Int.cast_natCast] at htie
    rw [Int.even_coe_nat]
    exact even_roundHalfEven_of_tie hden htie

/-- **A decimal with fixed places is the rounded value.** -/
theorem Magnitude.isRounded_toFixed (m : Magnitude) (s : Bool) (places : Nat) :
    IsRounded places (m.units / Binary64.one) (m.toFixed s places).scaled := by
  rw [scaled_toFixed]
  refine isRounded_roundHalfEven Binary64.one_pos ?_
  rw [Nat.cast_mul, Nat.cast_pow, Nat.cast_ofNat, div_mul_eq_mul_div]

/-- With its sign it is that of the value with its sign. -/
theorem Magnitude.isRounded_signed_toFixed (m : Magnitude) (s : Bool) (places : Nat) :
    IsRounded places (Binary64.finite s m).toRat
      (Binary64.signed s (m.toFixed s places).scaled) := by
  have h := m.isRounded_toFixed s places
  rw [Binary64.toRat_finite]
  cases s with
  | false => exact h
  | true => rw [Binary64.signed_true, Binary64.signed_true, Int.cast_neg, neg_div]; exact h.neg

end BenchReport
