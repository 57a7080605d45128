import BenchReport.Proofs.Binary64.Order

/-!
# The exact value of a number

A finite number is a rational number, exactly.  The order of the numbers is that of their values.

## Main definitions

* `Binary64.toRat` — the value of a number.

## Main results

* `Binary64.toRat_ofNat` — small whole numbers are exact.
* `Binary64.le_iff_toRat_le`, `Binary64.lt_iff_toRat_lt` — **numbers are ordered as their values.**
* `Binary64.sameNumber_iff_toRat_eq` — numbers that compare equal have one value.
* `Binary64.toRat_div_ofNat_le` — division by a small whole number keeps the order.
-/

namespace BenchReport.Binary64

/-- The exact value of a finite number; zero stands for the others. -/
def toRat : Binary64 → ℚ
  | .finite s m => signed s m.units / one
  | _ => 0

theorem toRat_finite (s : Bool) (m : Magnitude) :
    (Binary64.finite s m).toRat = signed s m.units / one := rfl

theorem one_cast_pos : (0 : ℚ) < one := by exact_mod_cast one_pos

variable {x y : Binary64} {n : Nat}

/-- A small whole number is exact. -/
theorem toRat_ofNat (hn : n ≤ 2 ^ 53) : (ofNat n).toRat = n := by
  rw [ofNat_eq_finite hn, toRat_finite, wholeMagnitude_units, signed, if_neg Bool.false_ne_true,
    Int.cast_natCast, Nat.cast_mul, mul_div_cancel_right₀ _ one_cast_pos.ne']

theorem signed_true (n : Nat) : signed true n = -signed false n := rfl

/-- The absolute value is that of the magnitude. -/
theorem abs_toRat_finite (s : Bool) (m : Magnitude) :
    |(Binary64.finite s m).toRat| = m.units / one := by
  have hnonneg : (0 : ℚ) ≤ m.units / one := by positivity
  rw [toRat_finite]
  cases s with
  | false => exact abs_of_nonneg hnonneg
  | true => rw [signed_true, Int.cast_neg, neg_div, abs_neg]; exact abs_of_nonneg hnonneg

/-! ### Order -/

/-- **Numbers are ordered as their values.** -/
theorem le_iff_toRat_le (hx : x.isFinite) (hy : y.isFinite) : x ≤ y ↔ x.toRat ≤ y.toRat := by
  obtain ⟨s, m, rfl⟩ := exists_eq_finite hx
  obtain ⟨t, k, rfl⟩ := exists_eq_finite hy
  rw [toRat_finite, toRat_finite, div_le_div_iff_of_pos_right one_cast_pos, Int.cast_le]
  show Binary64.le _ _ ↔ _
  simp only [Binary64.le, position, Option.mem_def, Option.some.injEq, exists_eq_left']

theorem lt_iff_toRat_lt (hx : x.isFinite) (hy : y.isFinite) : x < y ↔ x.toRat < y.toRat := by
  obtain ⟨s, m, rfl⟩ := exists_eq_finite hx
  obtain ⟨t, k, rfl⟩ := exists_eq_finite hy
  rw [toRat_finite, toRat_finite, div_lt_div_iff_of_pos_right one_cast_pos, Int.cast_lt]
  show Binary64.lt _ _ ↔ _
  simp only [Binary64.lt, position, Option.mem_def, Option.some.injEq, exists_eq_left']

theorem isFinite_ofNat_of_le (hn : n ≤ 2 ^ 53) : (ofNat n).isFinite := by
  rw [ofNat_eq_finite hn]
  rfl

theorem ofNat_le_iff (hx : x.isFinite) (hn : n ≤ 2 ^ 53) : ofNat n ≤ x ↔ (n : ℚ) ≤ x.toRat := by
  rw [le_iff_toRat_le (isFinite_ofNat_of_le hn) hx, toRat_ofNat hn]

theorem lt_ofNat_iff (hx : x.isFinite) (hn : n ≤ 2 ^ 53) : x < ofNat n ↔ x.toRat < n := by
  rw [lt_iff_toRat_lt hx (isFinite_ofNat_of_le hn), toRat_ofNat hn]

/-- A finite number that does not reach a small whole number lies before it. -/
theorem lt_ofNat_of_not_le (hx : x.isFinite) (hn : n ≤ 2 ^ 53) (h : ¬ ofNat n ≤ x) :
    x < ofNat n := by
  rw [ofNat_le_iff hx hn] at h
  rw [lt_ofNat_iff hx hn]
  exact lt_of_not_ge h

/-! ### Numbers that compare equal -/

/-- Numbers compare equal when neither lies before the other. -/
theorem sameNumber_iff : x.sameNumber y = true ↔ x ≤ y ∧ y ≤ x := by
  show _ ↔ Binary64.le x y ∧ Binary64.le y x
  rw [sameNumber, Binary64.le, Binary64.le]
  cases x.position with
  | none => simp
  | some a =>
    cases y.position with
    | none => simp
    | some b => simpa using le_antisymm_iff

theorem sameNumber_nan (x : Binary64) : x.sameNumber .nan = false := by
  rw [Bool.eq_false_iff]
  exact fun h => ne_nan_of_le (sameNumber_iff.1 h).2 rfl

/-- Nothing but a finite number compares equal to one. -/
theorem isFinite_of_sameNumber (hy : y.isFinite) (h : x.sameNumber y = true) : x.isFinite := by
  obtain ⟨s, m, rfl⟩ := exists_eq_finite hy
  cases x with
  | finite t k => rfl
  | nan => cases h
  | infinite t =>
    -- the infinities lie outside
    have hplace : signed t limit = signed s m.units := by simpa [sameNumber, position] using h
    have habs : limit = m.units := by rw [← natAbs_signed t limit, hplace, natAbs_signed]
    exact absurd habs m.lt_limit.ne'

/-- **Numbers that compare equal have one value.** -/
theorem sameNumber_iff_toRat_eq (hy : y.isFinite) :
    x.sameNumber y = true ↔ x.isFinite = true ∧ x.toRat = y.toRat := by
  constructor
  · intro h
    have hx := isFinite_of_sameNumber hy h
    obtain ⟨hle, hge⟩ := sameNumber_iff.1 h
    exact ⟨hx, le_antisymm ((le_iff_toRat_le hx hy).1 hle) ((le_iff_toRat_le hy hx).1 hge)⟩
  · rintro ⟨hx, hrat⟩
    exact sameNumber_iff.2 ⟨(le_iff_toRat_le hx hy).2 hrat.le, (le_iff_toRat_le hy hx).2 hrat.ge⟩

/-- An integer that is the value of a number has the place of that number. -/
theorem position_ofInt_of_toRat {k : Int} (hx : x.isFinite) (h : x.toRat = k) :
    (ofInt k).position = x.position := by
  obtain ⟨s, m, rfl⟩ := exists_eq_finite hx
  have hplace : signed s m.units = k * one := by
    rw [toRat_finite, div_eq_iff one_cast_pos.ne'] at h
    exact_mod_cast h
  have hunits : k.natAbs * one = m.units := by
    rw [← natAbs_signed s m.units, hplace, Int.natAbs_mul, Int.natAbs_natCast]
  -- the place is one of the grid, so nothing is rounded
  rw [ofInt, position_round, hunits, nearest_one_of_dvd m.onGrid,
    Nat.min_eq_left m.lt_limit.le, ← hunits, signed_natAbs_mul_one, ← hplace]
  rfl

/-- An integer that is the value of a number compares as that number does. -/
theorem sameNumber_ofInt_of_toRat {k : Int} (hx : x.isFinite) (h : x.toRat = k) (y : Binary64) :
    (ofInt k).sameNumber y = x.sameNumber y := by
  rw [sameNumber, sameNumber, position_ofInt_of_toRat hx h]

/-! ### Quotients -/

/-- The value of a quotient is kept in order by the values of the dividends. -/
theorem toRat_div_ofNat_le (hx : x.isFinite) (hy : y.isFinite) (hpos : 0 < n) (hn : n ≤ 2 ^ 53)
    (h : x.toRat ≤ y.toRat) : (x / ofNat n).toRat ≤ (y / ofNat n).toRat := by
  have hle := div_ofNat_le_div_ofNat hpos hn ((le_iff_toRat_le hx hy).2 h)
  rwa [le_iff_toRat_le ((isFinite_div_ofNat x hpos hn).trans hx)
    ((isFinite_div_ofNat y hpos hn).trans hy)] at hle

/-- A small multiple of the divisor is divided exactly. -/
theorem toRat_ofNat_mul_div {k : Nat} (hpos : 0 < n) (hn : n ≤ 2 ^ 53) (hk : k * n ≤ 2 ^ 53) :
    (ofNat (k * n) / ofNat n).toRat = k := by
  obtain ⟨q, hq, hunits⟩ := finite_div_ofNat false (wholeMagnitude (k * n) hk) hpos hn
  have hgrid := gap_mul_one_dvd (Nat.le_trans (Nat.le_mul_of_pos_right k hpos) hk)
  rw [wholeMagnitude_units, Nat.mul_right_comm, nearest_mul_of_dvd hgrid hpos] at hunits
  rw [ofNat_eq_finite hk, hq, toRat_finite, hunits, signed, if_neg Bool.false_ne_true,
    Int.cast_natCast, Nat.cast_mul, mul_div_cancel_right₀ _ one_cast_pos.ne']

/-- The quotient of a number up to a multiple of the divisor is no greater than that multiple of
one. -/
theorem toRat_div_ofNat_le_natCast {k : Nat} (hx : x.isFinite) (hpos : 0 < n) (hn : n ≤ 2 ^ 53)
    (hk : k * n ≤ 2 ^ 53) (h : x.toRat ≤ (k * n : Nat)) : (x / ofNat n).toRat ≤ k := by
  rw [← toRat_ofNat_mul_div hpos hn hk]
  refine toRat_div_ofNat_le hx (isFinite_ofNat_of_le hk) hpos hn ?_
  rwa [toRat_ofNat hk]

theorem natCast_le_toRat_div_ofNat {k : Nat} (hx : x.isFinite) (hpos : 0 < n) (hn : n ≤ 2 ^ 53)
    (hk : k * n ≤ 2 ^ 53) (h : ((k * n : Nat) : ℚ) ≤ x.toRat) : k ≤ (x / ofNat n).toRat := by
  rw [← toRat_ofNat_mul_div hpos hn hk]
  refine toRat_div_ofNat_le (isFinite_ofNat_of_le hk) hx hpos hn ?_
  rwa [toRat_ofNat hk]

end BenchReport.Binary64
