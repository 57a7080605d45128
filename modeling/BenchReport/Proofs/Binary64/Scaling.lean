import BenchReport.Label
import BenchReport.Proofs.Binary64.Nearest

/-!
# Scaling by small whole numbers

Chart values are figures divided and multiplied by small powers of ten and rounded to
whole numbers.  A small whole number is a point of the grid, so scaling by it is one
rounding of an exact quotient.  Division and rounding to a whole number never lead out of
the finite numbers; multiplication by ten does near the limit, and nothing else here does.

## Main results

* `nearest_le_of_dvd` — rounding does not cross a point of the grid from below.
* `finite_mul_ofNat`, `finite_div_ofNat` — scaling is one rounding.
* `isFinite_div_ofNat`, `isFinite_roundHalfAway`, `isFinite_trunc` — what stays finite.
* `isFinite_toThousands` — **a finite number is finite in thousands.**
* `isFinite_roundTo_one` — to one place it is finite exactly when its tenfold is.
-/

namespace BenchReport

/-! ### Rounded quotients -/

/-- A quotient is less than the rounded one by a half at most. -/
theorem le_roundHalfEven_mul (num : Nat) {den : Nat} (hden : 0 < den) :
    2 * num ≤ 2 * (roundHalfEven num den * den) + den := by
  have hdiv := Nat.div_add_mod num den
  have hmod := Nat.mod_lt num hden
  simp only [roundHalfEven]
  split
  · rw [Nat.mul_comm (num / den)]
    omega
  · split
    · rw [Nat.add_mul, Nat.one_mul, Nat.mul_comm (num / den)]
      omega
    · rw [Nat.add_mul, Nat.mul_comm (num / den)]
      omega

/-- Rounding does not lead past a whole number. -/
theorem roundHalfEven_le_of_le {num den k : Nat} (hden : 0 < den) (h : num ≤ k * den) :
    roundHalfEven num den ≤ k := by
  have hround := roundHalfEven_le num den
  by_contra hlt
  have hmul : (k + 1) * den ≤ roundHalfEven num den * den :=
    Nat.mul_le_mul_right _ (Nat.lt_of_not_le hlt)
  rw [Nat.add_mul, Nat.one_mul] at hmul
  omega

theorem roundHalfEven_mul_mul_right (num den : Nat) {k : Nat} (hk : 0 < k) :
    roundHalfEven (num * k) (den * k) = roundHalfEven num den := by
  simp only [roundHalfEven, Nat.mul_div_mul_right _ _ hk, Nat.mul_mod_mul_right, ← Nat.mul_assoc,
    Nat.mul_lt_mul_right hk]

namespace Binary64

/-! ### Points of the grid from below -/

theorem gap_dvd_gap {u v : Nat} (h : u ≤ v) : gap u ∣ gap v := by
  refine Nat.pow_dvd_pow 2 (Nat.sub_le_sub_right ?_ 52)
  by_cases hu : u = 0
  · simp [hu]
  · exact (Nat.le_log2 (by omega)).2 (Nat.le_trans (Nat.log2_self_le hu) h)

/-- **Rounding does not cross a point of the grid from below.** -/
theorem nearest_le_of_dvd {v num den : Nat} (hv : gap v ∣ v) (hden : 0 < den)
    (hle : num ≤ v * den) : nearest num den ≤ v := by
  have hdiv : num / den ≤ v := by
    rw [Nat.div_le_iff_le_mul_add_pred hden, Nat.mul_comm]
    omega
  -- the gap around the quotient divides that around the point, and so the point
  obtain ⟨k, hk⟩ := Nat.dvd_trans (gap_dvd_gap hdiv) hv
  have hround : roundHalfEven num (den * gap (num / den)) ≤ k := by
    refine roundHalfEven_le_of_le (Nat.mul_pos hden (gap_pos _)) ?_
    rwa [Nat.mul_left_comm, Nat.mul_comm k, ← hk, Nat.mul_comm]
  calc nearest num den ≤ k * gap (num / den) := Nat.mul_le_mul_right _ hround
    _ = v := by rw [Nat.mul_comm, ← hk]

/-- What is rounded down loses half a gap at most. -/
theorem le_nearest_mul (num : Nat) {den : Nat} (hden : 0 < den) :
    2 * num ≤ 2 * (nearest num den * den) + den * gap (num / den) := by
  have h := le_roundHalfEven_mul num (Nat.mul_pos hden (gap_pos (num / den)))
  rwa [nearest, Nat.mul_assoc, Nat.mul_comm (gap _) den]

/-- Up to a part of a whole number the gap is a smaller part of one, fifty-two bits farther down. -/
theorem gap_mul_lt {u k : Nat} (hk : k < one) (h : u * k < 2 ^ 52 * one) : gap u * k < one := by
  rcases gap_eq_one_or u with hgap | hgap
  · rwa [hgap, Nat.one_mul]
  · have hmul := Nat.mul_le_mul_right k hgap
    refine Nat.lt_of_mul_lt_mul_left (a := 2 ^ 52) ?_
    linarith

theorem nearest_mul_mul_right (num den : Nat) {k : Nat} (hk : 0 < k) :
    nearest (num * k) (den * k) = nearest num den := by
  simp only [nearest, Nat.mul_div_mul_right _ _ hk]
  rw [Nat.mul_right_comm, roundHalfEven_mul_mul_right _ _ hk]

theorem nearest_zero_left (den : Nat) : nearest 0 den = 0 := by
  simp [nearest, roundHalfEven]

/-! ### Small whole numbers -/

theorem finite_mul_finite (s t : Bool) (a b : Magnitude) :
    (.finite s a * .finite t b : Binary64) = round (xor s t) (a.units * b.units) one := by
  show Binary64.mul _ _ = _
  rw [Binary64.mul]

theorem finite_div_finite (s t : Bool) (a b : Magnitude) (hb : b.units ≠ 0) :
    (.finite s a / .finite t b : Binary64) = round (xor s t) (a.units * one) b.units := by
  show Binary64.div _ _ = _
  rw [Binary64.div, if_neg hb]

/-- What is rounded to a point below the limit. -/
theorem round_eq_finite_of_eq {negative : Bool} {num den : Nat} {q : Magnitude}
    (h : nearest num den = q.units) : round negative num den = .finite negative q := by
  have hlt : nearest num den < limit := by
    rw [h]
    exact q.lt_limit
  rw [round_eq_finite hlt]
  exact congrArg _ (Magnitude.eq_of_units_eq h)

theorem round_eq_infinite {negative : Bool} {num den : Nat} (h : limit ≤ nearest num den) :
    round negative num den = .infinite negative := by
  unfold round Magnitude.nearest?
  rw [dif_neg (Nat.not_lt.2 h)]

theorem round_congr {negative : Bool} {num den num' den' : Nat}
    (h : nearest num den = nearest num' den') :
    round negative num den = round negative num' den' := by
  rcases Nat.lt_or_ge (nearest num' den') limit with hlt | hge
  · rw [round_eq_finite hlt]
    exact round_eq_finite_of_eq h
  · rw [round_eq_infinite hge, round_eq_infinite (h ▸ hge)]

/-- The magnitude of a small whole number. -/
def wholeMagnitude (n : Nat) (h : n ≤ 2 ^ 53) : Magnitude :=
  ⟨n * one, gap_mul_one_dvd h, mul_one_lt_limit h⟩

theorem wholeMagnitude_units {n : Nat} (h : n ≤ 2 ^ 53) : (wholeMagnitude n h).units = n * one :=
  rfl

/-- A small whole number is finite, and exact. -/
theorem ofNat_eq_finite {n : Nat} (h : n ≤ 2 ^ 53) :
    ofNat n = .finite false (wholeMagnitude n h) :=
  round_eq_finite_of_eq (nearest_one_of_dvd (gap_mul_one_dvd h))

variable {n : Nat} (s : Bool) (m : Magnitude)

theorem ofNat_le_finite_iff (hn : n ≤ 2 ^ 53) :
    ofNat n ≤ .finite s m ↔ (n * one : Int) ≤ signed s m.units := by
  show Binary64.le _ _ ↔ _
  rw [Binary64.le, position_ofNat hn]
  simp only [position, Option.mem_def, Option.some.injEq, exists_eq_left']

theorem finite_lt_ofNat_iff (hn : n ≤ 2 ^ 53) :
    .finite s m < ofNat n ↔ signed s m.units < (n * one : Int) := by
  show Binary64.lt _ _ ↔ _
  rw [Binary64.lt, position_ofNat hn]
  simp only [position, Option.mem_def, Option.some.injEq, exists_eq_left']

/-- Multiplying by a small whole number is one rounding. -/
theorem finite_mul_ofNat (hn : n ≤ 2 ^ 53) :
    .finite s m * ofNat n = round s (m.units * n) 1 := by
  have hnearest : nearest (m.units * n * one) (1 * one) = nearest (m.units * n) 1 :=
    nearest_mul_mul_right _ _ one_pos
  rw [Nat.mul_assoc, Nat.one_mul] at hnearest
  rw [ofNat_eq_finite hn, finite_mul_finite, Bool.xor_false]
  exact round_congr hnearest

/-- Dividing by a small whole number is one rounding, and leads to no larger magnitude. -/
theorem finite_div_ofNat (hpos : 0 < n) (hn : n ≤ 2 ^ 53) :
    ∃ q : Magnitude, .finite s m / ofNat n = .finite s q ∧ q.units = nearest m.units n := by
  have hle : nearest m.units n ≤ m.units :=
    nearest_le_of_dvd m.onGrid hpos (Nat.le_mul_of_pos_right _ hpos)
  refine ⟨⟨nearest m.units n, gap_nearest_dvd _ _, Nat.lt_of_le_of_lt hle m.lt_limit⟩, ?_, rfl⟩
  have hne : (wholeMagnitude n hn).units ≠ 0 := Nat.mul_ne_zero hpos.ne' one_pos.ne'
  rw [ofNat_eq_finite hn, finite_div_finite _ _ _ _ hne, Bool.xor_false]
  exact round_eq_finite_of_eq (nearest_mul_mul_right _ _ one_pos)

/-- The factor one changes no finite number. -/
theorem finite_mul_one : .finite s m * ofNat 1 = .finite s m := by
  rw [finite_mul_ofNat s m (by decide), Nat.mul_one]
  exact round_eq_finite_of_eq (nearest_one_of_dvd m.onGrid)

/-! ### Rounding to whole numbers -/

/-- From `2 ^ 53` on every magnitude is a whole number. -/
theorem one_dvd_units {u : Nat} (hu : gap u ∣ u) (h : 2 ^ 53 * one ≤ u) : one ∣ u := by
  obtain ⟨k, hk⟩ := exists_one_eq_two_pow
  rw [hk, ← Nat.pow_add] at h
  have hne : u ≠ 0 := by
    rintro rfl
    exact absurd h (Nat.not_le.2 (Nat.two_pow_pos _))
  have hlog : 53 + k ≤ u.log2 := (Nat.le_log2 hne).2 h
  rw [hk]
  exact Nat.dvd_trans (Nat.pow_dvd_pow 2 (by omega)) hu

/-- A magnitude taken to a whole number is finite: below `2 ^ 53` the number is small, and
above it nothing is rounded. -/
theorem exists_whole_magnitude {k : Nat} (hsmall : m.units < 2 ^ 53 * one → k ≤ 2 ^ 53)
    (hwhole : one ∣ m.units → k = m.units / one) :
    ∃ q : Magnitude, round s (k * one) 1 = .finite s q ∧ q.units = k * one := by
  have hpoint : gap (k * one) ∣ k * one ∧ k * one < limit := by
    rcases Nat.lt_or_ge m.units (2 ^ 53 * one) with h | h
    · exact ⟨gap_mul_one_dvd (hsmall h), mul_one_lt_limit (hsmall h)⟩
    · have hdvd := one_dvd_units m.onGrid h
      rw [hwhole hdvd, Nat.div_mul_cancel hdvd]
      exact ⟨m.onGrid, m.lt_limit⟩
  exact ⟨⟨k * one, hpoint.1, hpoint.2⟩, round_eq_finite_of_eq (nearest_one_of_dvd hpoint.1), rfl⟩

theorem roundHalfUp_mul_self (k : Nat) {den : Nat} (hden : 0 < den) :
    roundHalfUp (k * den) den = k := by
  rw [roundHalfUp]
  refine Nat.div_eq_of_lt_le ?_ ?_ <;> linarith

theorem finite_roundHalfAway : ∃ q : Magnitude,
    (Binary64.finite s m).roundHalfAway = .finite s q ∧
      q.units = roundHalfUp m.units one * one := by
  rw [roundHalfAway]
  refine exists_whole_magnitude s m (fun h => ?_) ?_
  · have hone := one_pos
    rw [roundHalfUp, ← Nat.lt_succ_iff, Nat.div_lt_iff_lt_mul (by omega)]
    linarith
  · rintro ⟨k, hk⟩
    rw [hk, Nat.mul_comm, roundHalfUp_mul_self k one_pos, Nat.mul_div_cancel k one_pos]

theorem finite_trunc : ∃ q : Magnitude,
    (Binary64.finite s m).trunc = .finite s q ∧ q.units = m.units / one * one := by
  rw [trunc]
  refine exists_whole_magnitude s m (fun h => ?_) fun _ => rfl
  exact Nat.le_of_lt ((Nat.div_lt_iff_lt_mul one_pos).2 h)

/-! ### What stays finite -/

theorem isFinite_div_ofNat (x : Binary64) (hpos : 0 < n) (hn : n ≤ 2 ^ 53) :
    (x / ofNat n).isFinite = x.isFinite := by
  cases x with
  | finite s m =>
    obtain ⟨q, hq, -⟩ := finite_div_ofNat s m hpos hn
    rw [hq]
    rfl
  | infinite s =>
    rw [ofNat_eq_finite hn]
    rfl
  | nan => rfl

theorem isFinite_roundHalfAway (x : Binary64) : x.roundHalfAway.isFinite = x.isFinite := by
  cases x with
  | finite s m =>
    obtain ⟨q, hq, -⟩ := finite_roundHalfAway s m
    rw [hq]
    rfl
  | infinite s => rfl
  | nan => rfl

theorem isFinite_trunc (x : Binary64) : x.trunc.isFinite = x.isFinite := by
  cases x with
  | finite s m =>
    obtain ⟨q, hq, -⟩ := finite_trunc s m
    rw [hq]
    rfl
  | infinite s => rfl
  | nan => rfl

/-! ### Chart values -/

theorem placesFactor_zero : placesFactor 0 = ofNat 1 := by
  have hcount : Int.bmod (0 : Nat) (Nat.pow 2 32) = 0 := by decide
  rw [placesFactor, hcount, pow, if_neg (by decide), Int.natAbs_zero, powAcc, if_pos rfl]
  rfl

/-- Ten is reached by one multiplication, whose rounding changes nothing. -/
theorem placesFactor_one : placesFactor 1 = ofNat 10 := by
  have hcount : Int.bmod (1 : Nat) (Nat.pow 2 32) = 1 := by decide
  have hten : ofNat 1 * ofNat 10 = ofNat 10 := by
    have hunits : (wholeMagnitude 1 (by decide)).units * 10 = 10 * one := by
      rw [wholeMagnitude_units, Nat.one_mul one, Nat.mul_comm one 10]
    rw [ofNat_eq_finite (n := 1) (by decide), finite_mul_ofNat _ _ (by decide), hunits, ofNat]
  rw [placesFactor, hcount, pow, if_neg (by decide), Int.natAbs_one, powAcc, if_neg (by decide),
    if_pos (by decide), powAcc, if_pos (by decide)]
  rw [show (1 : Binary64) = ofNat 1 from rfl, show (10 : Binary64) = ofNat 10 from rfl]
  exact hten

theorem roundTo_zero (x : Binary64) : x.roundTo 0 = (x * ofNat 1).roundHalfAway / ofNat 1 := by
  rw [roundTo, placesFactor_zero]

theorem roundTo_one (x : Binary64) : x.roundTo 1 = (x * ofNat 10).roundHalfAway / ofNat 10 := by
  rw [roundTo, placesFactor_one]

theorem isFinite_roundTo_zero {x : Binary64} (h : x.isFinite) : (x.roundTo 0).isFinite := by
  rw [roundTo_zero, isFinite_div_ofNat _ (by decide) (by decide), isFinite_roundHalfAway]
  obtain ⟨s, m, rfl⟩ := exists_eq_finite h
  rw [finite_mul_one]
  rfl

/-- To one place a number is finite exactly when its tenfold is. -/
theorem isFinite_roundTo_one (x : Binary64) :
    (x.roundTo 1).isFinite = (x * ofNat 10).isFinite := by
  rw [roundTo_one, isFinite_div_ofNat _ (by decide) (by decide), isFinite_roundHalfAway]

/-- The gap between the largest magnitudes is the top gap. -/
theorem gap_eq_topGap {u : Nat} (hle : 2 ^ 52 * topGap ≤ u) (hlt : u < limit) :
    gap u = topGap := by
  refine Nat.le_antisymm (gap_le_topGap hlt) ?_
  obtain ⟨k, hk⟩ := exists_topGap_eq_two_pow
  rw [hk, ← Nat.pow_add] at hle
  have hne : u ≠ 0 := by
    rintro rfl
    exact absurd hle (Nat.not_le.2 (Nat.two_pow_pos _))
  have hlog : 52 + k ≤ u.log2 := (Nat.le_log2 hne).2 hle
  rw [hk, gap]
  exact Nat.pow_le_pow_right (by decide) (by omega)

theorem gap_mul_topGap_dvd {n : Nat} (h : n ≤ 2 ^ 53) : gap (n * topGap) ∣ n * topGap := by
  obtain ⟨k, hk⟩ := exists_topGap_eq_two_pow
  rw [hk]
  exact gap_mul_two_pow_dvd h

/-- **A count is rounded to less than the limit exactly when it stays more than half a gap
below it.**  From the middle of the last gap on, which ends at an even number of gaps, it is
rounded to the limit. -/
theorem nearest_one_lt_limit_iff (n : Nat) : nearest n 1 < limit ↔ 2 * n + topGap < 2 * limit := by
  constructor
  · intro h
    by_contra hfar
    have hlimit := limit_eq
    refine absurd h (Nat.not_lt.2 ?_)
    rcases Nat.lt_or_ge n limit with hlt | hge
    · have hgap : gap n = topGap := gap_eq_topGap (by omega) hlt
      have hq : n / topGap = 2 ^ 53 - 1 := by
        refine Nat.div_eq_of_lt_le ?_ ?_ <;> omega
      have hmod := Nat.div_add_mod n topGap
      rw [hq] at hmod
      have hround : roundHalfEven n topGap = 2 ^ 53 := by
        simp only [roundHalfEven, hq]
        rw [if_neg (by omega)]
        split <;> rfl
      rw [nearest, Nat.div_one, hgap, Nat.one_mul, hround, hlimit]
    · refine le_nearest_of_dvd ?_ (by rwa [Nat.div_one])
      rw [hlimit]
      exact gap_mul_topGap_dvd (Nat.le_refl _)
  · intro h
    exact nearest_lt_limit (by omega)

/-- The tenfold of a magnitude is finite while it stays half a gap below the limit. -/
theorem isFinite_mul_ten_iff (s : Bool) (m : Magnitude) :
    (.finite s m * ofNat 10).isFinite = true ↔ 20 * m.units + topGap < 2 * limit := by
  rw [finite_mul_ofNat s m (by decide)]
  have hlt := nearest_one_lt_limit_iff (m.units * 10)
  rw [show 2 * (m.units * 10) = 20 * m.units by ring] at hlt
  rw [← hlt]
  rcases Nat.lt_or_ge (nearest (m.units * 10) 1) limit with h | h
  · rw [round_eq_finite h]
    exact iff_of_true rfl h
  · rw [round_eq_infinite h]
    exact iff_of_false Bool.false_ne_true (Nat.not_lt.2 h)

/-- **A finite number is finite in thousands**: a thousandth is less than a part in `2 ^ 9` of
the limit, and its tenfold is far below the limit. -/
theorem isFinite_toThousands {x : Binary64} (h : x.isFinite) : x.toThousands.isFinite := by
  rw [toThousands, isFinite_roundTo_one]
  obtain ⟨s, m, rfl⟩ := exists_eq_finite h
  obtain ⟨q, hq, hunits⟩ := finite_div_ofNat s m (n := 1000) (by decide) (by decide)
  rw [show (1000 : Binary64) = ofNat 1000 from rfl, hq, isFinite_mul_ten_iff, hunits]
  have hm := m.lt_limit
  have hgap := topGap_pos
  have hlimit := limit_eq
  have hle : nearest m.units 1000 ≤ 2 ^ 44 * topGap :=
    nearest_le_of_dvd (gap_mul_topGap_dvd (by decide)) (by decide) (by omega)
  omega

end Binary64

end BenchReport
