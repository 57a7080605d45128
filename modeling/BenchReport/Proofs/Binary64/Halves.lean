import BenchReport.Proofs.Binary64.Scaling

/-!
# Two ways to round to decimal places

A label rounds the exact value of a number once, a half to the even digit.  A chart
multiplies first, which rounds to the grid, then rounds to a whole number, a half upwards,
and divides again.  The halves are points of the grid, so the multiplication can move a
quotient onto a half but not past it.  The two ways therefore differ only where the
multiplied number is a half exactly, and then by one in the last place.

## Main definitions

* `half` — the number of units in a half.
* `Binary64.IsMiddleAfter` — a number lies in the middle between two whole numbers.

## Main results

* `roundHalfEven_eq_of_near` — what is nearer than a half is rounded there.
* `roundHalfUp_nearest` — **rounding to the grid and then to a whole number, a half upwards,
  is rounding to a whole number but for the halves.**
* `roundHalfEven_nearest_mul` — dividing a whole number by ten and showing one place gives
  back the number.
* `exists_toFixed_roundTo` — the last place of a chart value and of a label.
-/

namespace BenchReport

/-! ### Rounding to whole numbers -/

/-- What is nearer than a half to a whole number is rounded to it. -/
theorem roundHalfEven_eq_of_near {num den k : Nat} (hden : 0 < den)
    (hlow : 2 * (k * den) < 2 * num + den) (hhigh : 2 * num < 2 * (k * den) + den) :
    roundHalfEven num den = k := by
  have habove := roundHalfEven_le num den
  have hbelow := le_roundHalfEven_mul num hden
  apply Nat.le_antisymm
  · have hlt : roundHalfEven num den * den < (k + 1) * den := by
      rw [Nat.add_mul, Nat.one_mul]
      omega
    exact Nat.le_of_lt_succ (Nat.lt_of_mul_lt_mul_right hlt)
  · have hlt : k * den < (roundHalfEven num den + 1) * den := by
      rw [Nat.add_mul, Nat.one_mul]
      omega
    exact Nat.le_of_lt_succ (Nat.lt_of_mul_lt_mul_right hlt)

/-- Rounding a half upwards leads to `k` from the half before it up to that behind it. -/
theorem roundHalfUp_eq_of_le_of_lt {num den k : Nat} (hlow : 2 * (k * den) ≤ 2 * num + den)
    (hhigh : 2 * num < 2 * (k * den) + den) : roundHalfUp num den = k := by
  rw [roundHalfUp]
  refine Nat.div_eq_of_lt_le ?_ ?_ <;> linarith

/-- Rounding a half upwards leads no farther than a half. -/
theorem roundHalfUp_near (num : Nat) {den : Nat} (hden : 0 < den) :
    2 * (roundHalfUp num den * den) ≤ 2 * num + den ∧
      2 * num < 2 * (roundHalfUp num den * den) + den := by
  have hdiv := Nat.div_add_mod (2 * num + den) (2 * den)
  have hmod := Nat.mod_lt (2 * num + den) (Nat.mul_pos two_pos hden)
  rw [roundHalfUp]
  rw [Nat.mul_assoc, Nat.mul_comm den] at hdiv
  omega

namespace Binary64

/-! ### Halves -/

/-- The number of units in a half. -/
def half : Nat := 2 ^ 1073

theorem exists_half_eq_two_pow : ∃ k, half = 2 ^ k := ⟨1073, by decide +kernel⟩

theorem mul_one_eq (n : Nat) : n * one = 2 * (n * half) := by
  have hone : one = 2 * half := by decide +kernel
  rw [hone, Nat.mul_left_comm]

/-- Small multiples of a half lie on the grid. -/
theorem gap_mul_half_dvd {n : Nat} (h : n ≤ 2 ^ 53) : gap (n * half) ∣ n * half := by
  obtain ⟨k, hk⟩ := exists_half_eq_two_pow
  rw [hk]
  exact gap_mul_two_pow_dvd h

/-- The half behind a whole number is on the grid, so what is rounded to that number is not
taken past the half. -/
theorem nearest_le_middle {q n : Nat} (hn : roundHalfEven q one = n) (hsmall : n < 2 ^ 52) :
    nearest q 1 ≤ (2 * n + 1) * half := by
  have hone := mul_one_eq 1
  have hmul := mul_one_eq n
  have hbelow := le_roundHalfEven_mul q one_pos
  rw [hn] at hbelow
  refine nearest_le_of_dvd (gap_mul_half_dvd (by omega)) Nat.one_pos ?_
  linarith

/-- **Rounding to the grid and then to a whole number, a half upwards, is rounding to a whole
number, but for what becomes a half.** -/
theorem roundHalfUp_nearest {q n : Nat} (hn : roundHalfEven q one = n) (hsmall : n < 2 ^ 52) :
    roundHalfUp (nearest q 1) one =
      if 2 * nearest q 1 = (2 * n + 1) * one then n + 1 else n := by
  have hone := mul_one_eq 1
  have hmul := mul_one_eq n
  have hhigh := nearest_le_middle hn hsmall
  -- the half before `n` is on the grid too
  have habove := roundHalfEven_le q one
  rw [hn] at habove
  have hlow : 2 * (n * one) ≤ 2 * nearest q 1 + one := by
    cases n with
    | zero => omega
    | succ k =>
      have hpoint : (2 * k + 1) * half ≤ nearest q 1 := by
        refine le_nearest_of_dvd (gap_mul_half_dvd (by omega)) ?_
        rw [Nat.div_one]
        linarith
      linarith
  split
  · rename_i hmiddle
    have hpos := one_pos
    refine roundHalfUp_eq_of_le_of_lt ?_ ?_ <;> linarith
  · rename_i hother
    refine roundHalfUp_eq_of_le_of_lt hlow ?_
    have hne : nearest q 1 ≠ (2 * n + 1) * half := by
      intro h
      apply hother
      rw [h, mul_one_eq]
    have hlt := Nat.lt_of_le_of_ne hhigh hne
    linarith

/-! ### There and back -/

/-- Dividing a small whole number and showing the places of the divisor gives back the
number: the rounding of the quotient moves it by less than a half of the last place. -/
theorem roundHalfEven_nearest_mul {n den : Nat} (hn : n < 2 ^ 52) (hden : 0 < den)
    (hsmall : den < one) : roundHalfEven (nearest (n * one) den * den) one = n := by
  have hgap : gap (n * one / den) * den < one := by
    have hdiv := Nat.div_mul_le_self (n * one) den
    have hlt := Nat.mul_lt_mul_of_pos_right hn one_pos
    exact gap_mul_lt hsmall (Nat.lt_of_le_of_lt hdiv hlt)
  rw [Nat.mul_comm] at hgap
  have habove := nearest_mul_le (n * one) den
  have hbelow := le_nearest_mul (n * one) hden
  refine roundHalfEven_eq_of_near one_pos ?_ ?_ <;> omega

/-! ### Chart values -/

/-- The number lies in the middle between `n` and the whole number behind it. -/
def IsMiddleAfter (n : Nat) (x : Binary64) : Prop :=
  ∃ p ∈ x.position, 2 * p = (2 * n + 1) * one

theorem placesFactor_of_le_one {places : Nat} (h : places ≤ 1) :
    placesFactor places = ofNat (10 ^ places) := by
  obtain rfl | rfl : places = 0 ∨ places = 1 := by omega
  · exact placesFactor_zero
  · exact placesFactor_one

end Binary64

open Binary64

theorem Magnitude.scaled_toFixed (m : Magnitude) (s : Bool) (places : Nat) :
    (m.toFixed s places).scaled = roundHalfEven (m.units * 10 ^ places) one := by
  simp only [toFixed, Nat.pow_eq]

/-- **The last place of a chart value and of a label.**  When the label of a number shows `n`
in units of the last place, so does the label of the chart value, unless the chart rounds a
number in the middle behind `n`; then it shows the next. -/
theorem exists_toFixed_roundTo {s : Bool} {m : Magnitude} {places n : Nat} (hplaces : places ≤ 1)
    (hn : (m.toFixed s places).scaled = n) (hsmall : n + 1 < 2 ^ 52) :
    ∃ z b : Magnitude, .finite s m * ofNat (10 ^ places) = .finite s z ∧
      z.units = nearest (m.units * 10 ^ places) 1 ∧
      (Binary64.finite s m).roundTo places = .finite s b ∧
      (b.toFixed s places).scaled = if 2 * z.units = (2 * n + 1) * one then n + 1 else n := by
  have hten : 0 < 10 ^ places ∧ 10 ^ places ≤ 10 := by
    obtain rfl | rfl : places = 0 ∨ places = 1 := by omega
    all_goals decide
  have hfactor : 10 ^ places ≤ 2 ^ 53 := Nat.le_trans hten.2 (by decide)
  -- the multiplied number is finite, as it lies before the half behind `n`
  have hlabel : roundHalfEven (m.units * 10 ^ places) one = n := by
    rw [← hn, Magnitude.scaled_toFixed]
  have hbefore := nearest_le_middle hlabel (by omega)
  have hlimit := mul_one_lt_limit (n := n + 1) (by omega)
  have hmul := mul_one_eq (n + 1)
  have hlt : nearest (m.units * 10 ^ places) 1 < limit := by linarith
  obtain ⟨z, hz, hunits⟩ : ∃ z : Magnitude, .finite s m * ofNat (10 ^ places) = .finite s z ∧
      z.units = nearest (m.units * 10 ^ places) 1 := by
    rw [finite_mul_ofNat s m hfactor]
    exact ⟨_, round_eq_finite hlt, rfl⟩
  obtain ⟨w, hw, hwhole⟩ := finite_roundHalfAway s z
  obtain ⟨b, hb, hquotient⟩ := finite_div_ofNat s w hten.1 hfactor
  refine ⟨z, b, hz, hunits, ?_, ?_⟩
  · rw [roundTo, placesFactor_of_le_one hplaces, hz, hw, hb]
  · have hlast := roundHalfUp_nearest hlabel (by omega)
    have hone : 10 < one := by decide +kernel
    rw [← hunits] at hlast
    rw [Magnitude.scaled_toFixed, hquotient, hwhole, hlast]
    refine roundHalfEven_nearest_mul ?_ hten.1 (Nat.lt_of_le_of_lt hten.2 hone)
    split <;> omega

end BenchReport
