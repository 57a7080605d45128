import BenchReport.Json.Token
import BenchReport.Proofs.Decimal.Correct
import BenchReport.Proofs.Decimal.Layout
import BenchReport.Proofs.Decimal.Shortest
import Mathlib.Algebra.Order.Field.Power

/-!
# Written numbers can be read

Every finite number has a written form, and the reader of JSON texts finds a number in it.
The reader collects at most sixty-four bits of digits and scales them by a power of ten in
binary64, so the result might have been too large.  It is not: what is scaled up does not
exceed the upper end of the interval of the number, and only the three greatest magnitudes
are so near to the infinities that the two roundings have to be looked at one by one.

## Main definitions

* `JsonNumber.Collected.Collects` — which digits were collected so far.

## Main results

* `JsonNumber.collects_collect` — what is collected does not exceed the numeral.
* `JsonNumber.magnitude?_isSome` — **a written decimal is not too large to be read.**
-/

namespace BenchReport

namespace JsonNumber

/-! ### Collecting digits -/

/-- The digits of `value`, of which `places` stand behind the point, were collected; the last
digits may have been left out, but only when the collector is full. -/
def Collected.Collects (s : Collected) (value places : Nat) : Prop :=
  ∃ omitted : Nat, s.power = omitted - places ∧ s.significand * 10 ^ omitted ≤ value ∧
    (s.full = false → omitted = 0 ∧ s.significand = value)

theorem Collected.Collects.pushFraction {s : Collected} {value places : Nat}
    (h : s.Collects value places) (c : Char) :
    (s.pushFraction c).Collects (10 * value + (c.toNat - '0'.toNat)) (places + 1) := by
  obtain ⟨omitted, hpower, hle, hfull⟩ := h
  rw [Collected.pushFraction]
  split
  · -- the digit is left out, which only makes what was collected less
    refine ⟨omitted + 1, ?_, ?_, by simp⟩
    · simp only [hpower]
      omega
    · rw [Nat.pow_succ, ← Nat.mul_assoc]
      simp only
      omega
  · rename_i hroom
    simp only [Bool.or_eq_true, decide_eq_true_eq, not_or, Bool.not_eq_true] at hroom
    obtain ⟨rfl, rfl⟩ := hfull hroom.1
    refine ⟨0, ?_, ?_, fun _ => ⟨rfl, ?_⟩⟩
    · simp only [hpower]
      omega
    · simp only [Nat.pow_zero, Nat.mul_one]
      omega
    · simp only
      omega

theorem Collected.Collects.foldl {s : Collected} {value places : Nat}
    (h : s.Collects value places) (ds : List Char) :
    (ds.foldl Collected.pushFraction s).Collects (Nat.ofDigitChars 10 ds value)
      (places + ds.length) := by
  induction ds generalizing s value places with
  | nil => exact h
  | cons c ds ih =>
    rw [List.foldl_cons, Nat.ofDigitChars_cons, List.length_cons, Nat.add_comm ds.length,
      ← Nat.add_assoc]
    exact ih (h.pushFraction c)

/-- Digits before the point that fit are all collected. -/
theorem foldl_pushWhole (ds : List Char) (value : Nat)
    (hfits : Nat.ofDigitChars 10 ds value < wordLimit) :
    ds.foldl Collected.pushWhole ⟨value, 0, false⟩ = ⟨Nat.ofDigitChars 10 ds value, 0, false⟩ := by
  induction ds generalizing value with
  | nil => rfl
  | cons c ds ih =>
    rw [Nat.ofDigitChars_cons] at hfits ⊢
    have hgrows : ∀ v : Nat, v ≤ Nat.ofDigitChars 10 ds v := by
      intro v
      rw [Nat.ofDigitChars_eq_ofDigitChars_zero]
      have hpow : 1 ≤ 10 ^ ds.length := Nat.pow_pos (by decide)
      have hmul := Nat.mul_le_mul_right v hpow
      omega
    have hnext := hgrows (10 * value + (c.toNat - '0'.toNat))
    -- more digits make the number larger, so the first ones fit as all of them do
    rw [List.foldl_cons, Collected.pushWhole]
    simp only [Bool.false_or]
    rw [Nat.mul_comm value, decide_eq_false (by omega), if_neg Bool.false_ne_true]
    exact ih _ hfits

/-- **What is collected does not exceed the numeral.** -/
theorem collects_collect {n : Numeral} (hfits : Text.digitsValue n.whole < wordLimit) :
    (collect n).Collects n.significand n.fractionDigits.length := by
  have hwhole : collectWhole n = ⟨Text.digitsValue n.whole, 0, false⟩ :=
    foldl_pushWhole n.whole 0 hfits
  have hstart : Collected.Collects ⟨Text.digitsValue n.whole, 0, false⟩
      (Text.digitsValue n.whole) 0 := ⟨0, by simp, by simp, by simp⟩
  have hall := hstart.foldl n.fractionDigits
  have hsignificand : n.significand =
      Nat.ofDigitChars 10 n.fractionDigits (Text.digitsValue n.whole) := by
    rw [Numeral.significand, Text.digitsValue, Nat.ofDigitChars_append]
    rfl
  rw [Nat.zero_add] at hall
  rw [collect, hwhole, hsignificand]
  exact hall

/-! ### Scaling -/

/-- What is collected does not exceed the decimal. -/
theorem value_collect_le {n : Numeral} {d : Decimal} (hfits : Text.digitsValue n.whole < wordLimit)
    (hdenotes : n.Denotes d) :
    ((collect n).significand : ℚ) * 10 ^ ((collect n).power + n.exponent.getD 0) ≤ d.value := by
  obtain ⟨omitted, hpower, hle, -⟩ := collects_collect hfits
  obtain ⟨zeros, hsignificand, hexponent⟩ := hdenotes
  have hsum : (collect n).power + n.exponent.getD 0 = omitted + (d.exponent - zeros) := by
    rw [← hexponent, hpower, Numeral.power]
    omega
  have hcast : ((collect n).significand : ℚ) * 10 ^ omitted ≤ d.digits * 10 ^ zeros := by
    rw [hsignificand] at hle
    exact_mod_cast hle
  have hscale : (0 : ℚ) ≤ 10 ^ (d.exponent - zeros) := by positivity
  calc ((collect n).significand : ℚ) * 10 ^ ((collect n).power + n.exponent.getD 0)
      = (collect n).significand * 10 ^ omitted * 10 ^ (d.exponent - zeros) := by
        rw [hsum, zpow_add₀ (by norm_num), zpow_natCast, mul_assoc]
    _ ≤ d.digits * 10 ^ zeros * 10 ^ (d.exponent - zeros) :=
        mul_le_mul_of_nonneg_right hcast hscale
    _ = d.value := by
        rw [Decimal.value, mul_assoc, ← zpow_natCast, ← zpow_add₀ (by norm_num)]
        congr 2
        omega

theorem ten_pow_topPower_lt :
    2 * (10 ^ topPower * Binary64.one) + Binary64.topGap < 2 * Binary64.limit := by
  decide +kernel

theorem limit_le_ten_pow : Binary64.limit ≤ 10 ^ (topPower + 1) * Binary64.one := by
  decide +kernel

/-- Scaling up stays finite when the exact product does not lie beyond the interval of a
magnitude that is not among the greatest. -/
theorem scaleUp?_isSome {m : Magnitude} (hm : m.units + 4 * Binary64.topGap ≤ Binary64.limit)
    {significand power : Nat}
    (h : significand * 10 ^ power * (4 * Binary64.one) ≤ m.upperQuarters) :
    (scaleUp? (.ofNat significand) power).isSome := by
  have hgap := Binary64.gap_le_topGap m.lt_limit
  rw [Magnitude.upperQuarters] at h
  rw [scaleUp?]
  split
  · rename_i hpower
    have hfactor : 10 ^ power * Binary64.one ≤ 10 ^ topPower * Binary64.one :=
      Nat.mul_le_mul_right _ (Nat.pow_le_pow_right (by decide) hpower)
    have hfinite : (Binary64.ofNat significand * .ofNat (10 ^ power)).isFinite := by
      refine Binary64.isFinite_mul_ofNat hm ?_ (Nat.pow_pos (by decide)) ?_
      · rw [Nat.mul_left_comm] at h
        omega
      · have htop := ten_pow_topPower_lt
        omega
    rw [Nat.pow_eq, if_pos hfinite]
    rfl
  · rename_i hpower
    rcases Nat.eq_zero_or_pos significand with hzero | hpos
    · rw [hzero, if_pos (by decide +kernel)]
      rfl
    · -- a digit and more than `topPower` zeros would lie beyond the limit
      exfalso
      have hlimit := limit_le_ten_pow
      have hgap' := Binary64.topGap_pos
      have hten : 10 ^ (topPower + 1) ≤ significand * 10 ^ power :=
        Nat.le_trans (Nat.pow_le_pow_right (by decide) (by omega))
          (Nat.le_mul_of_pos_left _ hpos)
      have hbeyond := Nat.mul_le_mul_right Binary64.one hten
      rw [Nat.mul_left_comm] at h
      omega

theorem magnitude?_isSome_of_le {n : Numeral} {d : Decimal} {m : Magnitude}
    (hfits : Text.digitsValue n.whole < wordLimit) (hdenotes : n.Denotes d)
    (hexponent : (n.exponent.getD 0).natAbs < exponentLimit) (hd : d.WrittenFor m)
    (hm : m.units + 4 * Binary64.topGap ≤ Binary64.limit) : (magnitude? n).isSome := by
  have hle := value_collect_le hfits hdenotes
  rw [magnitude?]
  simp only
  rw [if_neg (Nat.not_le.2 hexponent)]
  split
  · rename_i hpower
    apply scaleUp?_isSome hm
    rw [← Int.toNat_of_nonneg hpower, zpow_natCast] at hle
    exact hd.mul_le_upperQuarters (by exact_mod_cast hle)
  · rfl

/-! ### The numerals that are written -/

/-- The numeral has the form that a JSON text demands, its digits before the point fit
sixty-four bits, and its exponent fits thirty-one. -/
structure Formed (n : Numeral) : Prop where
  plain : Token.wholeIsPlain n.whole
  fraction : n.fraction ≠ some []
  fits : Text.digitsValue n.whole < wordLimit
  exponent : (n.exponent.getD 0).natAbs < exponentLimit

theorem wholeIsPlain_of_head? {ds : List Char} (hne : ds ≠ []) (hzero : ds.head? ≠ some '0') :
    Token.wholeIsPlain ds := by
  cases ds with
  | nil => exact absurd rfl hne
  | cons c ds =>
    cases ds with
    | nil => rfl
    | cons d ds =>
      rw [Token.wholeIsPlain, bne_iff_ne]
      · rintro rfl
        exact hzero rfl
      · exact List.cons_ne_nil _ _

/-- Sixteen digits fit. -/
theorem digitsValue_lt_wordLimit {ds : List Char} (hds : ∀ c ∈ ds, c.isDigit)
    (hlength : ds.length ≤ 16) : Text.digitsValue ds < wordLimit :=
  calc Text.digitsValue ds < 10 ^ ds.length := Text.digitsValue_lt hds
    _ ≤ 10 ^ 16 := Nat.pow_le_pow_right (by decide) hlength
    _ < wordLimit := by decide

variable {ds : List Char} {lead : Int}

theorem formed_positionalNumeral (hds : ∀ c ∈ ds, c.isDigit) (hne : ds ≠ [])
    (hzero : ds.head? ≠ some '0') (hlead : lead ≤ 15) :
    Formed (layout.positionalNumeral ds lead) := by
  have hdigital : (layout.positionalNumeral ds lead).Digital :=
    Layout.positionalNumeral_digital hds
  rw [Layout.positionalNumeral] at hdigital ⊢
  split at hdigital
  · rename_i hneg
    rw [if_pos hneg]
    refine ⟨rfl, by simp [hne], ?_, (by decide : 0 < exponentLimit)⟩
    exact digitsValue_lt_wordLimit hdigital.whole (by simp)
  · rename_i hneg
    rw [if_neg hneg]
    simp only at hdigital ⊢
    split at hdigital
    · -- the point stands between the digits
      rename_i hinside
      rw [if_pos hinside]
      refine ⟨wholeIsPlain_of_head? (by simp [hne]) ?_, ?_, ?_, (by decide : 0 < exponentLimit)⟩
      · rwa [List.head?_take, if_neg (by omega)]
      · simp only [ne_eq, Option.some.injEq, List.drop_eq_nil_iff]
        omega
      · exact digitsValue_lt_wordLimit hdigital.whole (by rw [List.length_take]; omega)
    · -- zeros stand between the digits and the point
      rename_i hbehind
      rw [if_neg hbehind]
      obtain ⟨c, others, rfl⟩ := List.exists_cons_of_ne_nil hne
      refine ⟨wholeIsPlain_of_head? (by simp) hzero, by simp [layout], ?_,
        (by decide : 0 < exponentLimit)⟩
      apply digitsValue_lt_wordLimit hdigital.whole
      rw [List.length_append, List.length_replicate]
      omega

theorem formed_scientificNumeral (hds : ∀ c ∈ ds, c.isDigit) (hne : ds ≠ [])
    (hlead : lead.natAbs < exponentLimit) : Formed (Layout.scientificNumeral ds lead) := by
  have hdigital : (Layout.scientificNumeral ds lead).Digital :=
    Layout.scientificNumeral_digital hds
  obtain ⟨c, others, rfl⟩ := List.exists_cons_of_ne_nil hne
  refine ⟨rfl, ?_, digitsValue_lt_wordLimit hdigital.whole (by simp [Layout.scientificNumeral]),
    hlead⟩
  cases others <;> simp [Layout.scientificNumeral]

/-- **The numeral of a written decimal has the form that a JSON text demands.** -/
theorem formed_numeral {d : Decimal} (hpos : 0 < d.digits) (hlead : d.lead.natAbs < exponentLimit) :
    Formed (layout.numeral d) := by
  have hds : ∀ c ∈ Text.digits d.digits, c.isDigit := fun c => Text.isDigit_of_mem_digits
  rw [Layout.numeral]
  split
  · rename_i hrange
    exact formed_positionalNumeral hds (Text.digits_ne_nil _) (Text.head?_digits_ne_zero hpos)
      hrange.2
  · exact formed_scientificNumeral hds (Text.digits_ne_nil _) hlead

/-! ### All magnitudes -/

/-- No magnitude reaches this power of ten, nor does the upper end of its interval. -/
theorem exists_limit_lt_ten_pow : ∃ k : Nat, k < 400 ∧
    6 * Binary64.limit < 10 ^ k * (4 * Binary64.one) :=
  ⟨310, by decide, by decide +kernel⟩

theorem natAbs_lead_lt {d : Decimal} {m : Magnitude} (hd : d.WrittenFor m) :
    d.lead.natAbs < exponentLimit := by
  have hlength := List.length_pos_iff.2 (Text.digits_ne_nil d.digits)
  have hexponent := hd.le_exponent
  obtain ⟨k, hk, hlimit⟩ := exists_limit_lt_ten_pow
  have hlead : d.lead < k := by
    by_contra hge
    rw [not_lt] at hge
    have hvalue : ((10 ^ k : Nat) : ℚ) ≤ d.value := by
      calc ((10 ^ k : Nat) : ℚ) = 10 ^ (k : Int) := by rw [zpow_natCast, Nat.cast_pow]; rfl
        _ ≤ 10 ^ d.lead := zpow_le_zpow_right₀ (by norm_num) hge
        _ ≤ d.value := Decimal.ten_zpow_lead_le hd.digits_pos
    have hupper := hd.mul_le_upperQuarters hvalue
    have hlt := m.upperQuarters_lt
    omega
  have hlarge : 1074 < exponentLimit := by decide
  rw [Decimal.lead] at hlead ⊢
  omega

/-- The three greatest magnitudes, whose decimals are scaled up to the greatest of all. -/
theorem magnitude?_top :
    ∀ k ∈ [1, 2, 3], ∀ (hgrid : Binary64.gap ((2 ^ 53 - k) * Binary64.topGap) ∣
        (2 ^ 53 - k) * Binary64.topGap)
      (hlt : (2 ^ 53 - k) * Binary64.topGap < Binary64.limit),
      (magnitude? (layout.numeral (Magnitude.mk _ hgrid hlt).shortest)).isSome := by
  decide +kernel

/-- **A written decimal is not too large to be read.** -/
theorem magnitude?_isSome (m : Magnitude) (hm : 0 < m.units) :
    (magnitude? (layout.numeral m.shortest)).isSome := by
  have hd := Magnitude.shortest_writtenFor hm
  have hform := formed_numeral hd.digits_pos (natAbs_lead_lt hd)
  rcases Nat.lt_or_ge Binary64.limit (m.units + 4 * Binary64.topGap) with hgreat | hm
  · -- no general bound is sharp enough here, but only three magnitudes are so great
    obtain ⟨k, hk, hunits⟩ := Binary64.exists_eq_sub_mul_topGap m.onGrid m.lt_limit hgreat
    have hgrid := m.onGrid
    have hlt := m.lt_limit
    rw [hunits] at hgrid hlt
    have heq : m = ⟨_, hgrid, hlt⟩ := Magnitude.eq_of_units_eq hunits
    rw [heq]
    exact magnitude?_top k hk hgrid hlt
  · exact magnitude?_isSome_of_le hform.fits (Layout.numeral_denotes rfl) hform.exponent hd hm

end JsonNumber

end BenchReport
