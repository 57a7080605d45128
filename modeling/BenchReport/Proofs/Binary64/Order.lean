import BenchReport.Proofs.Binary64.Correct
import BenchReport.Proofs.Binary64.Halves

/-!
# Rounding keeps the order

Rounding to the grid takes a greater quotient to a greater point or to the same one.  Scaling by a
small whole number and rounding to a whole number therefore act on the magnitudes by a monotone
function and leave the signs and the infinities alone, and whatever acts in this way keeps the order
of the number line.  Chart values are made of such steps.

## Main definitions

* `Binary64.ActsBy` — a function takes magnitudes by another one and keeps signs and infinities.

## Main results

* `Binary64.IsNearest.mono` — **the nearest point of a greater count is no smaller.**
* `Binary64.ActsBy.le_of_le` — what acts by a monotone function keeps the order.
* `Binary64.div_ofNat_le_div_ofNat` — division by a small whole number keeps the order.
* `Binary64.roundTo_le_roundTo`, `Binary64.toThousands_le_toThousands` — **so do chart values.**
-/

namespace BenchReport

theorem roundHalfUp_le_roundHalfUp {a b : Nat} (h : a ≤ b) (den : Nat) :
    roundHalfUp a den ≤ roundHalfUp b den :=
  Nat.div_le_div_right (by omega)

namespace Binary64

/-! ### The nearest point -/

/-- **The nearest point of a greater count is no smaller.** -/
theorem IsNearest.mono {p q : ℚ} {u v : Nat} (hu : IsNearest p u) (hv : IsNearest q v)
    (hle : p ≤ q) : u ≤ v := by
  by_contra hlt
  have hlt' : (v : ℚ) < u := by exact_mod_cast Nat.lt_of_not_le hlt
  -- `p` does not lie before the middle of the two points, and `q` not behind it
  have hbehind : (u + v : ℚ) ≤ 2 * p := by
    by_contra hbefore
    have hnear := hu.closest v hv.onGrid
    rw [abs_of_neg (by linarith : p - u < 0), le_abs] at hnear
    rcases hnear with h | h <;> linarith
  have hbefore : 2 * q ≤ u + v := by
    by_contra hbehind
    have hnear := hv.closest u hu.onGrid
    rw [abs_of_pos (by linarith : 0 < q - v), le_abs] at hnear
    rcases hnear with h | h <;> linarith
  obtain rfl : p = q := by linarith
  exact hlt (hu.unique hv).le

theorem nearest_le_nearest {a b den : Nat} (hden : 0 < den) (h : a ≤ b) :
    nearest a den ≤ nearest b den := by
  refine (isNearest_nearest a hden).mono (isNearest_nearest b hden) ?_
  have hcast : (a : ℚ) ≤ b := by exact_mod_cast h
  exact div_le_div_of_nonneg_right hcast (Nat.cast_nonneg den)

/-! ### Acting on magnitudes -/

/-- A monotone function of the magnitudes that fixes zero is one of the number line. -/
theorem signed_le_signed {g : Nat → Nat} (hmono : Monotone g) (hzero : g 0 = 0) {s t : Bool}
    {u v : Nat} (h : signed s u ≤ signed t v) : signed s (g u) ≤ signed t (g v) := by
  cases s <;> cases t <;> simp only [signed, if_true, Bool.false_eq_true, if_false] at h ⊢
  · have huv := hmono (show u ≤ v by omega)
    omega
  · obtain ⟨rfl, rfl⟩ : u = 0 ∧ v = 0 := by omega
    omega
  · omega
  · have hvu := hmono (show v ≤ u by omega)
    omega

/-- The function takes finite numbers to numbers of the same sign, magnitudes by a monotone
function, and changes no infinity. -/
structure ActsBy (f : Binary64 → Binary64) (g : Nat → Nat) : Prop where
  mono : Monotone g
  zero : g 0 = 0
  finite : ∀ s m, (f (.finite s m)).position = some (signed s (g m.units))
  infinite : ∀ s, f (.infinite s) = .infinite s
  le_limit : ∀ m : Magnitude, g m.units ≤ limit

/-- **What acts by a monotone function keeps the order.** -/
theorem ActsBy.le_of_le {f : Binary64 → Binary64} {g : Nat → Nat} (h : ActsBy f g)
    {x y : Binary64} (hle : x ≤ y) : f x ≤ f y := by
  obtain ⟨p, hp, q, hq, hpq⟩ := hle
  cases x with
  | nan => cases hp
  | finite s m =>
    obtain rfl := Option.some.inj hp
    cases y with
    | nan => cases hq
    | finite t n =>
      obtain rfl := Option.some.inj hq
      exact ⟨_, h.finite s m, _, h.finite t n, signed_le_signed h.mono h.zero hpq⟩
    | infinite t =>
      obtain rfl := Option.some.inj hq
      refine ⟨_, h.finite s m, _, congrArg position (h.infinite t), ?_⟩
      have hm := m.lt_limit
      have hg := h.le_limit m
      cases s <;> cases t <;> simp only [signed, if_true, Bool.false_eq_true, if_false] at hpq ⊢ <;>
        omega
  | infinite s =>
    obtain rfl := Option.some.inj hp
    cases y with
    | nan => cases hq
    | finite t n =>
      obtain rfl := Option.some.inj hq
      refine ⟨_, congrArg position (h.infinite s), _, h.finite t n, ?_⟩
      have hn := n.lt_limit
      have hg := h.le_limit n
      cases s <;> cases t <;> simp only [signed, if_true, Bool.false_eq_true, if_false] at hpq ⊢ <;>
        omega
    | infinite t =>
      rw [h.infinite s, h.infinite t]
      exact ⟨_, hp, _, hq, hpq⟩

/-! ### The steps of a chart value -/

variable {n : Nat}

theorem actsBy_div_ofNat (hpos : 0 < n) (hn : n ≤ 2 ^ 53) :
    ActsBy (· / ofNat n) fun u => nearest u n where
  mono _ _ h := nearest_le_nearest hpos h
  zero := nearest_zero_left n
  finite s m := by
    obtain ⟨q, hq, hunits⟩ := finite_div_ofNat s m hpos hn
    rw [hq, ← hunits]
    rfl
  infinite s := by
    rw [ofNat_eq_finite hn]
    show Binary64.div _ _ = _
    rw [Binary64.div, Bool.xor_false]
  le_limit m := by
    obtain ⟨q, -, hunits⟩ := finite_div_ofNat false m hpos hn
    rw [← hunits]
    exact q.lt_limit.le

/-- The product of a magnitude that is too large is an infinity, whose place is the limit. -/
theorem actsBy_mul_ofNat (hpos : 0 < n) (hn : n ≤ 2 ^ 53) :
    ActsBy (· * ofNat n) fun u => min (nearest (u * n) 1) limit where
  mono _ _ h := min_le_min_right limit (nearest_le_nearest Nat.one_pos (Nat.mul_le_mul_right n h))
  zero := by rw [Nat.zero_mul, nearest_zero_left, Nat.zero_min]
  finite s m := by rw [finite_mul_ofNat s m hn, position_round]
  infinite s := by
    have hne : (wholeMagnitude n hn).units ≠ 0 := Nat.mul_ne_zero hpos.ne' one_pos.ne'
    rw [ofNat_eq_finite hn]
    show Binary64.mul _ _ = _
    rw [Binary64.mul, if_neg hne, Bool.xor_false]
  le_limit _ := Nat.min_le_right _ _

theorem actsBy_roundHalfAway : ActsBy roundHalfAway fun u => roundHalfUp u one * one where
  mono _ _ h := Nat.mul_le_mul_right one (roundHalfUp_le_roundHalfUp h one)
  zero := by decide +kernel
  finite s m := by
    obtain ⟨q, hq, hunits⟩ := finite_roundHalfAway s m
    rw [hq, ← hunits]
    rfl
  infinite _ := rfl
  le_limit m := by
    obtain ⟨q, -, hunits⟩ := finite_roundHalfAway false m
    rw [← hunits]
    exact q.lt_limit.le

variable {x y : Binary64}

/-- **Division by a small whole number keeps the order.** -/
theorem div_ofNat_le_div_ofNat (hpos : 0 < n) (hn : n ≤ 2 ^ 53) (h : x ≤ y) :
    x / ofNat n ≤ y / ofNat n :=
  (actsBy_div_ofNat hpos hn).le_of_le h

/-- **Rounding to one place or none keeps the order**, also where the tenfold is infinite. -/
theorem roundTo_le_roundTo {places : Nat} (hplaces : places ≤ 1) (h : x ≤ y) :
    x.roundTo places ≤ y.roundTo places := by
  have hten : 0 < 10 ^ places ∧ 10 ^ places ≤ 2 ^ 53 := by
    obtain rfl | rfl : places = 0 ∨ places = 1 := by omega
    all_goals decide
  unfold roundTo
  rw [placesFactor_of_le_one hplaces]
  apply (actsBy_div_ofNat hten.1 hten.2).le_of_le
  apply actsBy_roundHalfAway.le_of_le
  exact (actsBy_mul_ofNat hten.1 hten.2).le_of_le h

theorem toThousands_le_toThousands (h : x ≤ y) : x.toThousands ≤ y.toThousands :=
  roundTo_le_roundTo le_rfl (div_ofNat_le_div_ofNat (by decide) (by decide) h)

/-! ### The order itself -/

protected theorem le_trans {z : Binary64} (hxy : x ≤ y) (hyz : y ≤ z) : x ≤ z := by
  obtain ⟨p, hp, q, hq, hpq⟩ := hxy
  obtain ⟨q', hq', r, hr, hqr⟩ := hyz
  obtain rfl : q = q' := Option.some.inj (hq.symm.trans hq')
  exact ⟨p, hp, r, hr, hpq.trans hqr⟩

protected theorem not_le_of_lt (h : x < y) : ¬ y ≤ x := by
  rintro ⟨q, hq, p, hp, hqp⟩
  obtain ⟨p', hp', q', hq', hpq⟩ := h
  obtain rfl : p = p' := Option.some.inj (hp.symm.trans hp')
  obtain rfl : q = q' := Option.some.inj (hq.symm.trans hq')
  omega

/-- What lies on the number line is no NaN. -/
theorem ne_nan_of_le (h : x ≤ y) : x ≠ .nan := by
  rintro rfl
  obtain ⟨p, hp, -⟩ := h
  cases hp

theorem le_self_of_isFinite (h : x.isFinite) : x ≤ x := by
  obtain ⟨s, m, rfl⟩ := exists_eq_finite h
  exact ⟨_, rfl, _, rfl, le_rfl⟩

end Binary64

end BenchReport
