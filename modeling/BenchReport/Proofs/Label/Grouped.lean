import BenchReport.Proofs.Decimal.Exact
import BenchReport.Proofs.Decimal.Places
import BenchReport.Proofs.Label.Alphabet

/-!
# Numbers with commas

A number with commas shows its exact value rounded to some places.  From the right the whole digits
stand in groups of three with a comma in front of each, and what is left in front has one to three
digits.  Commas aside the text is a decimal, and a minus sign stands in front of it only when some
digit behind it is not zero.

## Main definitions

* `Text.withCommas` — digits in groups, written with commas.
* `Text.IsGrouped` — one to three digits and groups of three.
* `Label.ShowsGrouped` — a text shows a value with commas between the thousands.

## Main results

* `Text.exists_groups` — how the commas group the digits.
* `Text.exists_isGrouped_digits` — the digits of a number are grouped without a zero in front.
* `Label.showsGrouped_grouped` — **a number with commas shows its value.**
-/

namespace BenchReport

namespace Text

/-- The digits in front, and each group behind a comma. -/
def withCommas (lead : List Char) (groups : List (List Char)) : List Char :=
  lead ++ groups.flatMap (',' :: ·)

/-- One to three digits and groups of three digits; a zero in front stands alone. -/
structure IsGrouped (lead : List Char) (groups : List (List Char)) : Prop where
  ne_nil : lead ≠ []
  length_lead : lead.length ≤ 3
  length_group : ∀ g ∈ groups, g.length = 3
  isDigit : ∀ c ∈ lead ++ groups.flatten, c.isDigit
  leadingZero : lead.head? = some '0' → lead = ['0'] ∧ groups = []

theorem length_flatten_of_three {groups : List (List Char)} (h : ∀ g ∈ groups, g.length = 3) :
    groups.flatten.length = 3 * groups.length := by
  induction groups with
  | nil => rfl
  | cons g groups ih =>
    rw [List.forall_mem_cons] at h
    rw [List.flatten_cons, List.length_append, h.1, ih h.2, List.length_cons]
    omega

/-- **The commas group the characters from the right by threes**, and leave one to three in
front. -/
theorem exists_groups {text : List Char} (h : text ≠ []) :
    ∃ lead groups, groupThousands text = withCommas lead groups ∧
      lead ++ groups.flatten = text ∧ lead ≠ [] ∧ lead.length ≤ 3 ∧
      ∀ g ∈ groups, g.length = 3 := by
  fun_induction groupThousands text with
  | case1 => exact absurd rfl h
  | case2 c => exact ⟨[c], [], rfl, rfl, by simp, by simp, by simp⟩
  | case3 c d rest hthird ih =>
    obtain ⟨lead, groups, hcommas, hjoin, hne, hle, hthree⟩ := ih (List.cons_ne_nil d rest)
    -- as many characters are left as a multiple of three, so those in front are three
    have hlength := congrArg List.length hjoin
    rw [List.length_append, length_flatten_of_three hthree, List.length_cons] at hlength
    have hpos := List.length_pos_iff.2 hne
    have hlead : lead.length = 3 := by omega
    refine ⟨[c], lead :: groups, ?_, ?_, by simp, by simp, List.forall_mem_cons.2 ⟨hlead, hthree⟩⟩
    · rw [hcommas]
      simp [withCommas]
    · rw [← hjoin]
      simp
  | case4 c d rest hother ih =>
    obtain ⟨lead, groups, hcommas, hjoin, hne, hle, hthree⟩ := ih (List.cons_ne_nil d rest)
    have hlength := congrArg List.length hjoin
    rw [List.length_append, length_flatten_of_three hthree, List.length_cons] at hlength
    refine ⟨c :: lead, groups, ?_, ?_, by simp, ?_, hthree⟩
    · rw [hcommas]
      rfl
    · rw [← hjoin]
      rfl
    · rw [List.length_cons]
      omega

/-- The digits of a number with commas are grouped, and no zero stands in front of others. -/
theorem exists_isGrouped_digits (n : Nat) :
    ∃ lead groups, groupThousands (digits n) = withCommas lead groups ∧ IsGrouped lead groups := by
  obtain ⟨lead, groups, hcommas, hjoin, hne, hle, hthree⟩ := exists_groups (digits_ne_nil n)
  refine ⟨lead, groups, hcommas, hne, hle, hthree, fun c hc => ?_, fun hzero => ?_⟩
  · rw [hjoin] at hc
    exact isDigit_of_mem_digits hc
  · have hhead : (digits n).head? = some '0' := by
      rw [← hjoin, List.head?_append_of_ne_nil _ hne]
      exact hzero
    obtain rfl : n = 0 := by
      by_contra hn
      exact head?_digits_ne_zero (Nat.pos_of_ne_zero hn) hhead
    -- the only digit of zero is in front
    obtain ⟨c, rest, rfl⟩ := List.exists_cons_of_ne_nil hne
    have hjoin : c :: (rest ++ groups.flatten) = ['0'] := hjoin
    obtain ⟨rfl, hrest⟩ := List.cons.inj hjoin
    obtain ⟨rfl, hflat⟩ := List.append_eq_nil_iff.1 hrest
    have hlength := length_flatten_of_three hthree
    rw [hflat, List.length_nil] at hlength
    exact ⟨rfl, List.length_eq_zero_iff.1 (by omega)⟩

end Text

theorem Fixed.filter_groupedChars (x : Fixed) : x.groupedChars.filter (· != ',') = x.chars := by
  have hsign : x.signPart.filter (· != ',') = x.signPart := by
    rw [signPart]
    cases x.negative <;> rfl
  have hfraction : x.fractionPart.filter (· != ',') = x.fractionPart := by
    rw [List.filter_eq_self]
    intro c hc
    have hplain : c ≠ ',' := by
      rintro rfl
      rw [fractionPart] at hc
      split at hc
      · cases hc
      · rw [List.mem_cons] at hc
        rcases hc with hc | hc
        · cases hc
        · cases x.isDigit_of_mem_fractionDigits _ hc
    simpa using hplain
  rw [groupedChars, List.filter_append, List.filter_append, hsign, hfraction,
    Text.filter_groupThousands x.comma_notMem_wholeDigits, chars]

namespace Label

/-- The text shows a value with commas between the thousands.  Its absolute value is rounded to some
places.  There are one to three digits, groups of three with a comma in front of each, and the point
with as many digits as there are places; a minus sign stands in front when the value is negative and
is not rounded to zero.  Without the commas the text is the rounded value with the sign of the
value. -/
def ShowsGrouped (text : List Char) (q : ℚ) (places : Nat) : Prop :=
  ∃ (n : Nat) (lead : List Char) (groups : List (List Char)) (fraction : List Char),
    IsRounded places |q| n ∧ Text.IsGrouped lead groups ∧ Fixed.IsFraction places fraction ∧
    text = (if q < 0 ∧ n ≠ 0 then ['-'] else []) ++ Text.withCommas lead groups ++ fraction ∧
    Numeral.rational? (text.filter (· != ',')) =
      some (if q < 0 then -(n / 10 ^ places : ℚ) else (n / 10 ^ places : ℚ))

/-- The sign of a number that is not rounded to zero is that of its value. -/
theorem sign_iff_toRat_neg {s : Bool} {m : Magnitude} (hm : m.units ≠ 0) :
    s = true ↔ (Binary64.finite s m).toRat < 0 := by
  have hone := Binary64.one_cast_pos
  have hpos : (0 : ℚ) < m.units / Binary64.one :=
    div_pos (by exact_mod_cast Nat.pos_of_ne_zero hm) hone
  rw [Binary64.toRat_finite]
  cases s with
  | false => exact iff_of_false Bool.false_ne_true hpos.le.not_gt
  | true =>
    refine iff_of_true rfl ?_
    rw [Binary64.signed_true, Int.cast_neg, neg_div]
    exact neg_neg_of_pos hpos

theorem units_ne_zero_of_scaled {m : Magnitude} {s : Bool} {places : Nat}
    (h : (m.toFixed s places).scaled ≠ 0) : m.units ≠ 0 := by
  intro hzero
  have hround := roundHalfEven_mul_self 0 Binary64.one_pos
  rw [Nat.zero_mul] at hround
  rw [Magnitude.scaled_toFixed, hzero, Nat.zero_mul] at h
  exact h hround

/-- **A number with commas shows its value.** -/
theorem showsGrouped_grouped {x : Binary64} (hx : x.isFinite) (places : Nat) :
    ShowsGrouped (grouped x places).toList x.toRat places := by
  obtain ⟨s, m, rfl⟩ := Binary64.exists_eq_finite hx
  obtain ⟨n, hn⟩ : ∃ n, n = (m.toFixed false places).scaled := ⟨_, rfl⟩
  obtain ⟨d, hd⟩ : ∃ d : Fixed, d = ⟨s && n != 0, n, places⟩ := ⟨_, rfl⟩
  have htext : (grouped (.finite s m) places).toList = d.groupedChars := by
    rw [grouped, String.toList_ofList, hd, hn]
  obtain ⟨lead, groups, hcommas, hgrouped⟩ := Text.exists_isGrouped_digits (n / 10 ^ places)
  -- a sign is shown when the value is negative and some digit is not zero
  have hsign : d.negative = true ↔ (Binary64.finite s m).toRat < 0 ∧ n ≠ 0 := by
    have hvalue : n ≠ 0 → (s = true ↔ (Binary64.finite s m).toRat < 0) := fun hne =>
      sign_iff_toRat_neg (units_ne_zero_of_scaled (hn ▸ hne))
    rw [hd, Bool.and_eq_true, bne_iff_ne]
    exact and_congr_left hvalue
  refine ⟨n, lead, groups, d.fractionPart, ?_, hgrouped, ?_, ?_, ?_⟩
  · rw [Binary64.abs_toRat_finite, hn]
    exact m.isRounded_toFixed false places
  · have h := d.isFraction_fractionPart
    rwa [hd] at h ⊢
  · have hwhole : d.wholeDigits = Text.digits (n / 10 ^ places) := by rw [hd]; rfl
    rw [htext, Fixed.groupedChars, hwhole, hcommas, Fixed.signPart]
    simp only [hsign]
  · have hscaled : d.value = Binary64.signed d.negative n / 10 ^ places := by rw [hd]; rfl
    rw [htext, Fixed.filter_groupedChars, Fixed.rational?_chars, hscaled, Binary64.signed]
    congr 1
    by_cases hzero : n = 0
    · subst hzero
      simp
    · simp only [hsign, and_iff_left hzero]
      split
      · rw [Int.cast_neg, neg_div, Int.cast_natCast]
      · rw [Int.cast_natCast]

/-- A half less than a million is a tie, and the even whole number has a digit and a comma more. -/
theorem showsGrouped_carry : (-(1999999 / 2) : Binary64).isFinite ∧
    grouped (-(1999999 / 2)) 0 = "-1,000,000" ∧
    ShowsGrouped "-1,000,000".toList (-(1999999 / 2) : Binary64).toRat 0 := by
  have htext : grouped (-(1999999 / 2)) 0 = "-1,000,000" := by decide +kernel
  have hfinite : (-(1999999 / 2) : Binary64).isFinite := by decide +kernel
  have hshows := showsGrouped_grouped hfinite 0
  rw [htext] at hshows
  exact ⟨hfinite, htext, hshows⟩

end Label

end BenchReport
