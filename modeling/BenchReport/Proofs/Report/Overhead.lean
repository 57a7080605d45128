import BenchReport.Proofs.Label.Grouped
import BenchReport.Proofs.Report.Agreement

/-!
# The overhead on its card and in its table

The overhead is a percentage that is often negative or close to zero.  Its card writes the number
with the sign it has, its row writes a sign only in front of some digit that is not zero.  Below 999
percent no commas are needed, so both show the same text as long as the number is not a negative one
that is rounded to zero; then the card shows a minus sign and the row does not.

## Main definitions

* `Label.IsMinusZero` — a number with a minus sign that is rounded to zero.

## Main results

* `Text.groupThousands_of_length_le`, `Magnitude.scaled_toFixed_eq_zero_iff` — when there are no
  commas, and which numbers are rounded to zero.
* `Label.percent_eq_grouped`, `Label.percent_of_isMinusZero` — the two texts of a number.
* `Report.overhead_card_and_row` — **card and row of the overhead agree, minus zero excepted.**
* `Report.overhead_card_ne_row` — minus zero on the card.
-/

namespace BenchReport

open Binary64

/-- Up to three digits need no comma. -/
theorem Text.groupThousands_of_length_le {text : List Char} (h : text.length ≤ 3) :
    groupThousands text = text := by
  fun_induction groupThousands text with
  | case1 => rfl
  | case2 c => rfl
  | case3 c d rest hthird ih =>
    simp only [List.length_cons] at h
    omega
  | case4 c d rest _ ih =>
    simp only [List.length_cons] at h
    rw [ih (by rw [List.length_cons]; omega)]

/-- Below a thousand the text with commas is the text without. -/
theorem Fixed.groupedChars_eq_chars {x : Fixed} (h : x.scaled / 10 ^ x.places < 1000) :
    x.groupedChars = x.chars := by
  have hlength : x.wholeDigits.length ≤ 3 := (Text.length_digits_le_iff (by decide)).2 h
  rw [groupedChars, chars, Text.groupThousands_of_length_le hlength]

/-! ### Numbers that are rounded to zero -/

/-- Up to a half of the last place is rounded to zero: zero is even. -/
theorem isRounded_zero_iff {places : Nat} {q : ℚ} :
    IsRounded places q 0 ↔ 2 * (|q| * 10 ^ places) ≤ 1 := by
  have hpow : |(10 : ℚ) ^ places| = 10 ^ places := abs_of_pos (by positivity)
  have habs : |q * 10 ^ places - ((0 : Int) : ℚ)| = |q| * 10 ^ places := by
    rw [Int.cast_zero, sub_zero, abs_mul, hpow]
  constructor
  · intro h
    have hnear := h.near
    rwa [habs] at hnear
  · intro h
    refine ⟨?_, fun _ => Even.zero⟩
    rwa [habs]

/-- The digits of a number are zeros when its value is at most a half of the last place. -/
theorem Magnitude.scaled_toFixed_eq_zero_iff (m : Magnitude) (s : Bool) (places : Nat) :
    (m.toFixed s places).scaled = 0 ↔
      2 * (|(Binary64.finite s m).toRat| * 10 ^ places) ≤ 1 := by
  have hrounded := m.isRounded_toFixed s places
  rw [← Binary64.abs_toRat_finite s m] at hrounded
  have hzero : IsRounded places |(Binary64.finite s m).toRat| 0 ↔
      2 * (|(Binary64.finite s m).toRat| * 10 ^ places) ≤ 1 := by
    rw [isRounded_zero_iff, abs_abs]
  rw [← hzero]
  constructor
  · intro h
    rwa [h, Nat.cast_zero] at hrounded
  · intro h
    exact_mod_cast hrounded.unique h

theorem Magnitude.toFixed_eq (m : Magnitude) (s : Bool) (places : Nat) :
    m.toFixed s places = ⟨s, (m.toFixed s places).scaled, places⟩ := by
  rw [toFixed]

namespace Label

/-- The number has a minus sign, and to one place it is a zero: its value is at most half a
tenth. -/
def IsMinusZero (x : Binary64) : Prop := x.isNegative ∧ |x.toRat| ≤ 1 / 20

/-- The text with commas has the sign of the number, unless all digits are zeros. -/
theorem grouped_finite_eq (s : Bool) (m : Magnitude) (places : Nat) :
    grouped (.finite s m) places = String.ofList
      (Fixed.groupedChars ⟨s && (m.toFixed s places).scaled != 0, (m.toFixed s places).scaled,
        places⟩) := by
  rw [grouped, Magnitude.scaled_toFixed, Magnitude.scaled_toFixed]

theorem scaled_toFixed_lt {s : Bool} {m : Magnitude} (h : |(Binary64.finite s m).toRat| < 999) :
    (m.toFixed s 1).scaled / 10 ^ 1 < 1000 := by
  have hone := Binary64.one_cast_pos
  rw [Binary64.abs_toRat_finite, div_lt_iff₀ hone] at h
  have hunits : m.units < 999 * one := by exact_mod_cast h
  have hscaled : (m.toFixed s 1).scaled ≤ 9990 := scaled_toFixed_le (by omega)
  omega

/-- A number is shown by the same text as a percentage and with commas, if it is not too large and
keeps its sign. -/
theorem percent_eq_grouped {x : Binary64} (hfinite : x.isFinite) (hsmall : |x.toRat| < 999)
    (hsign : ¬ IsMinusZero x) : percent x 1 = grouped x 1 ++ "%" := by
  obtain ⟨s, m, rfl⟩ := Binary64.exists_eq_finite hfinite
  obtain ⟨n, hn⟩ : ∃ n, n = (m.toFixed s 1).scaled := ⟨_, rfl⟩
  have hlt : n / 10 ^ 1 < 1000 := hn ▸ scaled_toFixed_lt hsmall
  have hshown : (s && n != 0) = s := by
    cases s with
    | false => rfl
    | true =>
      have hne : n ≠ 0 := by
        intro hzero
        rw [hn, m.scaled_toFixed_eq_zero_iff] at hzero
        exact hsign ⟨rfl, by linarith⟩
      rw [Bool.true_and, bne_iff_ne]
      exact hne
  rw [percent, fixedText, m.toFixed_eq, grouped_finite_eq, ← hn, hshown,
    Fixed.groupedChars_eq_chars hlt]

/-- A number with a minus sign that is rounded to zero keeps the sign as a percentage only. -/
theorem percent_of_isMinusZero {x : Binary64} (hfinite : x.isFinite) (h : IsMinusZero x) :
    percent x 1 = "-0.0%" ∧ grouped x 1 = "0.0" := by
  obtain ⟨s, m, rfl⟩ := Binary64.exists_eq_finite hfinite
  obtain ⟨hs, hvalue⟩ := h
  obtain rfl : s = true := hs
  have hzero : (m.toFixed true 1).scaled = 0 := by
    rw [m.scaled_toFixed_eq_zero_iff]
    linarith
  constructor
  · rw [percent, fixedText, m.toFixed_eq, hzero]
    decide
  · rw [grouped_finite_eq, hzero]
    decide

end Label

/-! ### Reports -/

namespace Report

variable (inputs : Inputs) (generatedAt : Instant) (settings : Settings)

/-- What the card and the row of the overhead show. -/
theorem exists_overhead_card_and_row : ∃ card row,
    (assemble inputs generatedAt settings).card? "Proxy overhead" = some card ∧
    (assemble inputs generatedAt settings).row? .proxy "Proxy overhead" = some row ∧
    card.display = Label.percentFigure (Figures.ofInputs inputs .overhead) 1 ∧
    row.display = Label.grouped (orZero (Figures.ofInputs inputs .overhead)) 1 :=
  ⟨_, _, rfl, rfl, rfl, rfl⟩

/-- **Card and row of the overhead agree, minus zero excepted.**

For all results, an overhead below 999 percent either way is shown on its card by the text of its
row and a percent sign.  The only exception is an overhead with a minus sign that is rounded to
zero: the card keeps the sign and the row does not. -/
theorem overhead_card_and_row : ∃ card row,
    (assemble inputs generatedAt settings).card? "Proxy overhead" = some card ∧
    (assemble inputs generatedAt settings).row? .proxy "Proxy overhead" = some row ∧
    ∀ x, Figures.ofInputs inputs .overhead = some x → |x.toRat| < 999 →
      (¬ Label.IsMinusZero x → card.display = row.display ++ "%") ∧
      (Label.IsMinusZero x → card.display = "-0.0%" ∧ row.display = "0.0") := by
  obtain ⟨card, row, hcard, hrow, hdisplay, hshown⟩ :=
    exists_overhead_card_and_row inputs generatedAt settings
  refine ⟨card, row, hcard, hrow, fun x hx hsmall => ?_⟩
  have hfinite := Figures.isFinite_of_ofInputs hx
  rw [hdisplay, hshown, hx, Label.percentFigure, Label.orNotAvailable, if_pos hfinite, orZero,
    Option.getD_some]
  exact ⟨Label.percent_eq_grouped hfinite hsmall, Label.percent_of_isMinusZero hfinite⟩

/-- One run in which the overhead is a text. -/
def overheadRun (overhead : String) : Inputs :=
  Inputs.empty.put ⟨.proxy, none, [⟨[("overhead_percent", .ofString overhead),
    ("test", .ofString "proxy_overhead")]⟩]⟩

theorem figure_overheadRun :
    Figures.ofInputs (overheadRun "-998.94") .overhead = some (-(99894 / 100)) ∧
    Figures.ofInputs (overheadRun "-0.04") .overhead = some (-(1 / 25)) := by
  decide +kernel

/-- The report of that run. -/
def overheadReport (overhead : String) : Report :=
  assemble (overheadRun overhead) ⟨0, 0, secondNanos_pos⟩ (.new ⟨"results"⟩)

/-- **A small gain is `-0.0%` on the card and `0.0` in the table**; a large one is the same in
both. -/
theorem overhead_card_ne_row :
    (∃ card row, (overheadReport "-998.94").card? "Proxy overhead" = some card ∧
      (overheadReport "-998.94").row? .proxy "Proxy overhead" = some row ∧
      card.display = row.display ++ "%") ∧
    ∃ card row, (overheadReport "-0.04").card? "Proxy overhead" = some card ∧
      (overheadReport "-0.04").row? .proxy "Proxy overhead" = some row ∧
      card.display = "-0.0%" ∧ row.display = "0.0" := by
  obtain ⟨hlarge, hsmall⟩ := figure_overheadRun
  constructor
  · obtain ⟨card, row, hcard, hrow, hagree⟩ :=
      overhead_card_and_row (overheadRun "-998.94") ⟨0, 0, secondNanos_pos⟩ (.new ⟨"results"⟩)
    have hkept : ¬ Label.IsMinusZero (-(99894 / 100)) := by
      unfold Label.IsMinusZero
      decide +kernel
    exact ⟨card, row, hcard, hrow, (hagree _ hlarge (by decide +kernel)).1 hkept⟩
  · obtain ⟨card, row, hcard, hrow, hagree⟩ :=
      overhead_card_and_row (overheadRun "-0.04") ⟨0, 0, secondNanos_pos⟩ (.new ⟨"results"⟩)
    have hlost : Label.IsMinusZero (-(1 / 25)) := by
      unfold Label.IsMinusZero
      decide +kernel
    exact ⟨card, row, hcard, hrow, (hagree _ hsmall (by decide +kernel)).2 hlost⟩

end Report

end BenchReport
