import BenchReport.Binary64.Basic
import Mathlib.Tactic.Linarith
import Mathlib.Tactic.Ring

/-!
# Where rounding leads

Rounding takes an exact quotient to a point of the grid.  This file says how far the
point can be from the quotient, that a quotient on the grid stays where it is, and that
rounding does not cross a point of the grid.  Whole numbers below `2 ^ 53` are points of
the grid, so they are their own binary64 numbers and no other integer is taken for one.

## Main results

* `roundHalfEven_le`, `le_roundHalfEven` — a rounded quotient is off by a half at most.
* `nearest_mul_of_dvd`, `le_nearest_of_dvd` — points of the grid and rounding.
* `nearest_one_mul_le` — rounding a whole count adds one part in `2 ^ 53` at most.
* `nearest_lt_limit` — what lies half a gap below the limit is rounded to less.
* `isFinite_mul_ofNat` — a product that stays well below the limit is finite.
* `position_ofInt_eq_iff` — which integers become a small whole number.
-/

namespace BenchReport

/-! ### Whole numbers -/

/-- A rounded quotient exceeds the quotient by a half at most. -/
theorem roundHalfEven_le (num den : Nat) :
    2 * (roundHalfEven num den * den) ≤ 2 * num + den := by
  have hdiv := Nat.div_add_mod num den
  simp only [roundHalfEven]
  split
  · rw [Nat.mul_comm (num / den)]
    omega
  · split
    · rw [Nat.add_mul, Nat.one_mul, Nat.mul_comm (num / den)]
      omega
    · have hle : num / den + num / den % 2 ≤ num / den + 1 := by omega
      have hmul := Nat.mul_le_mul_right den hle
      rw [Nat.add_mul, Nat.add_mul, Nat.one_mul, Nat.mul_comm (num / den)] at hmul
      rw [Nat.add_mul, Nat.mul_comm (num / den)]
      omega

/-- The whole part of a quotient is not rounded away. -/
theorem le_roundHalfEven (num den : Nat) : num / den ≤ roundHalfEven num den := by
  simp only [roundHalfEven]
  split
  · exact Nat.le_refl _
  · split <;> omega

theorem roundHalfEven_mul_self (k : Nat) {den : Nat} (hden : 0 < den) :
    roundHalfEven (k * den) den = k := by
  simp only [roundHalfEven]
  rw [Nat.mul_div_cancel _ hden, Nat.mul_mod_left]
  simp [hden]

theorem Magnitude.eq_of_units_eq {a b : Magnitude} (h : a.units = b.units) : a = b := by
  cases a
  cases b
  cases h
  rfl

namespace Binary64

/-! ### The three large constants

They are powers of two.  Nothing below has to compute them. -/

/-- The distance between the largest magnitudes. -/
def topGap : Nat := 2 ^ 2045

theorem exists_one_eq_two_pow : ∃ k, one = 2 ^ k := ⟨1074, by decide +kernel⟩

theorem exists_topGap_eq_two_pow : ∃ k, topGap = 2 ^ k := ⟨2045, by decide +kernel⟩

theorem limit_eq : limit = 2 ^ 53 * topGap := by decide +kernel

theorem one_pos : 0 < one := by decide +kernel

theorem topGap_pos : 0 < topGap := by decide +kernel

theorem one_lt_topGap : one < topGap := by decide +kernel

/-! ### Points of the grid -/

/-- A quotient on the grid is not moved. -/
theorem nearest_mul_of_dvd {u den : Nat} (hu : gap u ∣ u) (hden : 0 < den) :
    nearest (u * den) den = u := by
  obtain ⟨k, hk⟩ := hu
  simp only [nearest]
  rw [Nat.mul_div_cancel _ hden]
  have hsplit : u * den = k * (den * gap u) := by
    rw [Nat.mul_left_comm, Nat.mul_comm k, ← hk, Nat.mul_comm]
  rw [hsplit, roundHalfEven_mul_self k (Nat.mul_pos hden (gap_pos u)), Nat.mul_comm, ← hk]

theorem nearest_one_of_dvd {u : Nat} (hu : gap u ∣ u) : nearest u 1 = u := by
  simpa using nearest_mul_of_dvd hu Nat.one_pos

/-- The whole gaps below a count are not rounded away. -/
theorem div_gap_mul_le_nearest (num den : Nat) :
    num / den / gap (num / den) * gap (num / den) ≤ nearest num den := by
  rw [Nat.div_div_eq_div_mul]
  exact Nat.mul_le_mul_right _ (le_roundHalfEven _ _)

/-- **Rounding does not cross a point of the grid from above.**  Inside one binade the
point is among the whole gaps below the quotient; a point of a lower binade lies below
the power of two at which the binade of the quotient begins. -/
theorem le_nearest_of_dvd {v num den : Nat} (hv : gap v ∣ v) (hle : v ≤ num / den) :
    v ≤ nearest num den := by
  refine Nat.le_trans ?_ (div_gap_mul_le_nearest num den)
  generalize num / den = u at hle ⊢
  -- the whole gaps below `u` reach every multiple of its gap
  have keep : ∀ w, gap u ∣ w → w ≤ u → w ≤ u / gap u * gap u := by
    rintro _ ⟨k, rfl⟩ hw
    rw [Nat.mul_comm]
    exact Nat.mul_le_mul_right _ ((Nat.le_div_iff_mul_le (gap_pos u)).2 (by rwa [Nat.mul_comm]))
  by_cases hu : u = 0
  · omega
  rcases Nat.lt_or_ge v (2 ^ u.log2) with hlt | hge
  · have hbinade : 2 ^ u.log2 ≤ u := Nat.log2_self_le hu
    have hdvd : gap u ∣ 2 ^ u.log2 := Nat.pow_dvd_pow 2 (Nat.sub_le _ _)
    exact Nat.le_trans (Nat.le_of_lt hlt) (keep _ hdvd hbinade)
  · have hv0 : v ≠ 0 := by
      have := Nat.two_pow_pos u.log2
      omega
    have hlog : v.log2 = u.log2 := by
      rw [Nat.log2_eq_iff hv0]
      exact ⟨hge, Nat.lt_of_le_of_lt hle Nat.lt_log2_self⟩
    have hgap : gap v = gap u := by rw [gap, gap, hlog]
    exact keep v (hgap ▸ hv) hle

/-! ### How far rounding leads -/

/-- What is rounded up grows by half a gap at most. -/
theorem nearest_mul_le (num den : Nat) :
    2 * (nearest num den * den) ≤ 2 * num + den * gap (num / den) := by
  have h := roundHalfEven_le num (den * gap (num / den))
  rw [nearest, Nat.mul_assoc, Nat.mul_comm (gap _) den]
  exact h

/-- The gap around a count is one, or one part in `2 ^ 52` of the count at most. -/
theorem gap_eq_one_or (u : Nat) : gap u = 1 ∨ gap u * 2 ^ 52 ≤ u := by
  rcases Nat.lt_or_ge u.log2 52 with h | h
  · left
    rw [gap, Nat.sub_eq_zero_of_le (Nat.le_of_lt h), Nat.pow_eq, Nat.pow_zero]
  · right
    have hu : u ≠ 0 := by
      rintro rfl
      simp at h
    rw [gap, Nat.pow_eq, ← Nat.pow_add, Nat.sub_add_cancel h]
    exact Nat.log2_self_le hu

/-- **Rounding a whole count adds one part in `2 ^ 53` at most.** -/
theorem nearest_one_mul_le (n : Nat) : nearest n 1 * 2 ^ 53 ≤ n * (2 ^ 53 + 1) := by
  rcases gap_eq_one_or n with h | h
  · rw [nearest_one_of_dvd (h ▸ Nat.one_dvd n)]
    omega
  · have hle := nearest_mul_le n 1
    rw [Nat.div_one, Nat.mul_one, Nat.one_mul] at hle
    linarith

theorem gap_le_topGap {u : Nat} (hu : u < limit) : gap u ≤ topGap := by
  obtain ⟨k, hk⟩ := exists_topGap_eq_two_pow
  rw [limit_eq, hk, ← Nat.pow_add] at hu
  have hlog : u.log2 < 53 + k := by
    by_cases h0 : u = 0
    · simp [h0]
    · exact (Nat.log2_lt h0).2 hu
  rw [hk, gap]
  exact Nat.pow_le_pow_right (by decide) (by omega)

/-- Counts in the top binade are multiples of its gap. -/
theorem topGap_dvd {u : Nat} (hu : gap u ∣ u) (hle : 2 ^ 52 * topGap ≤ u) : topGap ∣ u := by
  obtain ⟨k, hk⟩ := exists_topGap_eq_two_pow
  rw [hk, ← Nat.pow_add] at hle
  have hne : u ≠ 0 := by
    rintro rfl
    exact absurd hle (Nat.not_le.2 (Nat.two_pow_pos _))
  have hlog : 52 + k ≤ u.log2 := (Nat.le_log2 hne).2 hle
  rw [hk]
  exact Nat.dvd_trans (Nat.pow_dvd_pow 2 (by omega)) hu

/-- Only three magnitudes are less than four gaps below the limit. -/
theorem exists_eq_sub_mul_topGap {u : Nat} (hu : gap u ∣ u) (hlt : u < limit)
    (hgreat : limit < u + 4 * topGap) : ∃ k ∈ [1, 2, 3], u = (2 ^ 53 - k) * topGap := by
  have hlimit := limit_eq
  have hgap := topGap_pos
  obtain ⟨q, hq⟩ := topGap_dvd hu (by linarith)
  rw [Nat.mul_comm] at hq
  rw [hlimit, hq] at hlt
  rw [hlimit, hq, ← Nat.add_mul] at hgreat
  have hbelow : q < 2 ^ 53 := Nat.lt_of_mul_lt_mul_right hlt
  have habove : 2 ^ 53 < q + 4 := Nat.lt_of_mul_lt_mul_right hgreat
  refine ⟨2 ^ 53 - q, ?_, ?_⟩
  · simp only [List.mem_cons, List.not_mem_nil, or_false]
    omega
  · rw [hq, Nat.sub_sub_self (Nat.le_of_lt hbelow)]

/-- **A quotient more than half a gap below the limit stays below it.** -/
theorem nearest_lt_limit {num den : Nat} (h : 2 * num + den * topGap < 2 * (limit * den)) :
    nearest num den < limit := by
  have hden : 0 < den := Nat.pos_of_ne_zero (by rintro rfl; simp at h)
  have hu : num / den < limit := by
    rw [Nat.div_lt_iff_lt_mul hden]
    omega
  have hgap := Nat.mul_le_mul_left den (gap_le_topGap hu)
  have hle := nearest_mul_le num den
  exact Nat.lt_of_mul_lt_mul_right (a := den) (by omega)

/-! ### Places on the number line -/

/-- A finite number has a sign and a magnitude. -/
theorem exists_eq_finite {x : Binary64} (h : x.isFinite) : ∃ s m, x = .finite s m := by
  cases x with
  | finite s m => exact ⟨s, m, rfl⟩
  | infinite s => cases h
  | nan => cases h

/-- The place of what is rounded; the place of the infinities is the limit. -/
theorem position_round (negative : Bool) (num den : Nat) :
    (round negative num den).position = some (signed negative (min (nearest num den) limit)) := by
  unfold round Magnitude.nearest?
  split <;> rename_i h <;> split at h
  · rename_i hlt
    obtain rfl := Option.some.inj h
    rw [Nat.min_eq_left (Nat.le_of_lt hlt)]
    rfl
  · simp at h
  · simp at h
  · rename_i hge
    rw [Nat.min_eq_right (Nat.le_of_not_lt hge)]
    rfl

theorem round_eq_finite {negative : Bool} {num den : Nat} (h : nearest num den < limit) :
    round negative num den =
      .finite negative ⟨nearest num den, gap_nearest_dvd num den, h⟩ := by
  unfold round Magnitude.nearest?
  rw [dif_pos h]

/-- Whole numbers up to `2 ^ 53` lie on the grid. -/
theorem gap_mul_one_dvd {n : Nat} (h : n ≤ 2 ^ 53) : gap (n * one) ∣ n * one := by
  obtain ⟨k, hk⟩ := exists_one_eq_two_pow
  rw [hk]
  exact gap_mul_two_pow_dvd h

theorem mul_one_lt_limit {n : Nat} (h : n ≤ 2 ^ 53) : n * one < limit := by
  rw [limit_eq]
  exact Nat.lt_of_le_of_lt (Nat.mul_le_mul_right _ h)
    (Nat.mul_lt_mul_of_pos_left one_lt_topGap (by decide))

/-- A whole number up to `2 ^ 53` is its own binary64 number. -/
theorem position_ofNat {n : Nat} (h : n ≤ 2 ^ 53) : (ofNat n).position = some (n * one : Int) := by
  rw [ofNat, position_round, nearest_one_of_dvd (gap_mul_one_dvd h),
    Nat.min_eq_left (Nat.le_of_lt (mul_one_lt_limit h))]
  simp only [signed, Bool.false_eq_true, if_false, Nat.cast_mul]

theorem natAbs_signed (s : Bool) (n : Nat) : (signed s n).natAbs = n := by
  cases s <;> simp [signed]

/-- The place of an integer, sign and absolute value put together. -/
theorem signed_natAbs_mul_one (k : Int) : signed (decide (k < 0)) (k.natAbs * one) = k * one := by
  by_cases hneg : k < 0
  · rw [signed, decide_eq_true hneg, if_pos rfl, Int.natCast_mul, ← Int.neg_mul]
    congr 1
    omega
  · rw [signed, decide_eq_false hneg, if_neg (by decide), Int.natCast_mul]
    congr 1
    omega

/-- **No other integer is taken for a small whole number.** -/
theorem position_ofInt_eq_iff {n : Nat} (hn : n < 2 ^ 53) (k : Int) :
    (ofInt k).position = some (n * one : Int) ↔ k = n := by
  have hone : (0 : Int) < one := by exact_mod_cast one_pos
  rw [ofInt, position_round, Option.some.injEq]
  rcases Nat.lt_or_ge (2 ^ 53) k.natAbs with hk | hk
  · -- beyond `2 ^ 53` the magnitude is rounded to that point of the grid or more
    have hfar : 2 ^ 53 * one ≤ min (nearest (k.natAbs * one) 1) limit := by
      refine Nat.le_min.2 ⟨le_nearest_of_dvd (gap_mul_one_dvd (Nat.le_refl _)) ?_,
        Nat.le_of_lt (mul_one_lt_limit (Nat.le_refl _))⟩
      rw [Nat.div_one]
      exact Nat.mul_le_mul_right _ (Nat.le_of_lt hk)
    have hnear : n * one < 2 ^ 53 * one := Nat.mul_lt_mul_of_pos_right hn one_pos
    have hne : k ≠ n := by omega
    simp only [hne, iff_false, signed]
    have hcast : ((n * one : Nat) : Int) = n * one := Int.natCast_mul n one
    split <;> omega
  · rw [nearest_one_of_dvd (gap_mul_one_dvd hk),
      Nat.min_eq_left (Nat.le_of_lt (mul_one_lt_limit hk)), signed_natAbs_mul_one]
    exact Int.mul_eq_mul_right_iff (Int.ne_of_gt hone)

/-! ### Products of whole numbers -/

/-- A whole number that is not too large becomes a finite number, which exceeds it by one
part in `2 ^ 53` at most. -/
theorem exists_ofNat_eq_finite {n : Nat} (h : 2 * (n * one) + topGap < 2 * limit) :
    ∃ m, ofNat n = .finite false m ∧ m.units * 2 ^ 53 ≤ n * one * (2 ^ 53 + 1) := by
  have hlt : nearest (n * one) 1 < limit := nearest_lt_limit (by omega)
  exact ⟨_, round_eq_finite hlt, nearest_one_mul_le _⟩

/-- When two factors grow by one part in `2 ^ 53` at most, the product grows by two such parts
and one part of a part. -/
theorem mul_mul_two_pow_le {x y a b : Nat} (hx : x * 2 ^ 53 ≤ a * (2 ^ 53 + 1))
    (hy : y * 2 ^ 53 ≤ b * (2 ^ 53 + 1)) :
    x * y * (2 ^ 53 * 2 ^ 53) ≤ a * b * ((2 ^ 53 + 1) * (2 ^ 53 + 1)) := by
  have hmul := Nat.mul_le_mul hx hy
  rwa [Nat.mul_mul_mul_comm, Nat.mul_mul_mul_comm a] at hmul

/-- A product of rounded factors is rounded to less than the limit when the exact product
stays three and a half gaps below it. -/
theorem nearest_lt_limit_of_rounded {p q : Nat}
    (hp : p * (2 ^ 53 * 2 ^ 53) ≤ q * one * ((2 ^ 53 + 1) * (2 ^ 53 + 1)))
    (hq : 2 * q + 7 * topGap ≤ 2 * limit) : nearest p one < limit := by
  -- in gaps of the top binade twice the limit is `2 * 2 ^ 53`
  obtain ⟨c, hc⟩ : ∃ c, c = 2 * 2 ^ 53 - 7 := ⟨_, rfl⟩
  have hroom : 2 * q ≤ c * topGap := by
    have hlimit := limit_eq
    have hseven : c * topGap + 7 * topGap = 2 * 2 ^ 53 * topGap := by
      rw [← Nat.add_mul, hc, Nat.sub_add_cancel (by decide)]
    linarith
  have hscaled := Nat.mul_le_mul_right (one * ((2 ^ 53 + 1) * (2 ^ 53 + 1))) hroom
  have hconstant : c * ((2 ^ 53 + 1) * (2 ^ 53 + 1)) + 2 ^ 53 * 2 ^ 53 <
      2 * 2 ^ 53 * (2 ^ 53 * 2 ^ 53) := by
    rw [hc]
    decide
  have hstrict := Nat.mul_lt_mul_of_pos_right hconstant (Nat.mul_pos topGap_pos one_pos)
  apply nearest_lt_limit
  rw [limit_eq]
  apply Nat.lt_of_mul_lt_mul_right (a := 2 ^ 53 * 2 ^ 53)
  calc (2 * p + one * topGap) * (2 ^ 53 * 2 ^ 53)
      = 2 * (p * (2 ^ 53 * 2 ^ 53)) + 2 ^ 53 * 2 ^ 53 * (topGap * one) := by ring
    _ ≤ 2 * (q * one * ((2 ^ 53 + 1) * (2 ^ 53 + 1))) + 2 ^ 53 * 2 ^ 53 * (topGap * one) :=
        Nat.add_le_add_right (Nat.mul_le_mul_left 2 hp) _
    _ = 2 * q * (one * ((2 ^ 53 + 1) * (2 ^ 53 + 1))) + 2 ^ 53 * 2 ^ 53 * (topGap * one) := by
        ring
    _ ≤ c * topGap * (one * ((2 ^ 53 + 1) * (2 ^ 53 + 1))) +
          2 ^ 53 * 2 ^ 53 * (topGap * one) := Nat.add_le_add_right hscaled _
    _ = (c * ((2 ^ 53 + 1) * (2 ^ 53 + 1)) + 2 ^ 53 * 2 ^ 53) * (topGap * one) := by ring
    _ < 2 * 2 ^ 53 * (2 ^ 53 * 2 ^ 53) * (topGap * one) := hstrict
    _ = 2 * (2 ^ 53 * topGap * one) * (2 ^ 53 * 2 ^ 53) := by ring

/-- **A product that stays four gaps below the limit is finite**, although both factors and
the product are rounded. -/
theorem isFinite_mul_ofNat {a b u : Nat} (hu : u + 4 * topGap ≤ limit)
    (hab : 2 * (a * b * one) ≤ 2 * u + topGap) (hb : 0 < b)
    (hb' : 2 * (b * one) + topGap < 2 * limit) : (ofNat a * ofNat b).isFinite := by
  have hgap := topGap_pos
  have ha : a * one ≤ a * b * one :=
    Nat.mul_le_mul_right _ (Nat.le_mul_of_pos_right _ hb)
  obtain ⟨x, hx, hxle⟩ := exists_ofNat_eq_finite (n := a) (by omega)
  obtain ⟨y, hy, hyle⟩ := exists_ofNat_eq_finite hb'
  have hproduct := mul_mul_two_pow_le hxle hyle
  rw [Nat.mul_mul_mul_comm a, ← Nat.mul_assoc (a * b)] at hproduct
  have hlt := nearest_lt_limit_of_rounded hproduct (by omega)
  rw [hx, hy]
  show (Binary64.mul _ _).isFinite
  rw [Binary64.mul, round_eq_finite hlt]
  rfl

end Binary64

end BenchReport
