import BenchReport.Proofs.Decimal.Exact
import BenchReport.Proofs.Decimal.Places

/-!
# Compact labels

From a thousand on a compact label counts thousands, from a million on millions, and says so by a
letter.  What is counted is the binary64 quotient; it is rounded to some places and written as a
decimal with exactly those.  The letter goes by the number and not by what is shown, so just below a
million the label may say a thousand thousands.  Even so a label read as a number does not become
smaller when the number grows.

## Main definitions

* `Label.Counts` — the letter of a number, its unit, and how many units there are.
* `Label.ShowsFixed` — a text shows a value with a fixed number of places.
* `Label.number?` — the number that a compact label denotes.

## Main results

* `Label.showsFixed_fixedText` — a number with fixed places shows its value.
* `Label.showsFixed_compact` — **a compact label has the letter of its number, and shows the number
  of units.**
* `Label.number_compact_le` — **compact labels are in the order of their numbers.**
-/

namespace BenchReport

theorem Binary64.isNegative_div_ofNat {x : Binary64} {n : Nat} (hx : x.isFinite) (hpos : 0 < n)
    (hn : n ≤ 2 ^ 53) : (x / ofNat n).isNegative = x.isNegative := by
  obtain ⟨s, m, rfl⟩ := exists_eq_finite hx
  obtain ⟨q, hq, -⟩ := finite_div_ofNat s m hpos hn
  rw [hq]
  rfl

namespace Label

/-! ### Letters and units -/

/-- The letter of a number, what it stands for, and the number counted in it: plain below a
thousand, thousands below a million, and millions from there on. -/
inductive Counts (x : Binary64) : List Char → ℚ → Binary64 → Prop where
  | plain : x < 1000 → Counts x [] 1 x
  | thousands : 1000 ≤ x → x < 1000000 → Counts x ['K'] 1000 (x / 1000)
  | millions : 1000000 ≤ x → Counts x ['M'] 1000000 (x / 1000000)

variable {x y q : Binary64} {mark text body : List Char} {unit : ℚ} {negative : Bool} {places : Nat}

/-- A label is the text of what is counted and the letter. -/
theorem exists_counts (hx : x.isFinite) (places : Nat) :
    ∃ mark unit q, Counts x mark unit q ∧ q.isFinite ∧ q.isNegative = x.isNegative ∧
      (compact x places).toList = (q.fixedText places).toList ++ mark := by
  by_cases hmillion : (1000000 : Binary64) ≤ x
  · refine ⟨_, _, _, .millions hmillion, ?_, ?_, ?_⟩
    · exact (Binary64.isFinite_div_ofNat x (by decide) (by decide)).trans hx
    · exact Binary64.isNegative_div_ofNat hx (by decide) (by decide)
    · rw [compact, Scale.of, if_pos hmillion, String.toList_append]
      rfl
  by_cases hthousand : (1000 : Binary64) ≤ x
  · have hlt := Binary64.lt_ofNat_of_not_le hx (by decide) hmillion
    refine ⟨_, _, _, .thousands hthousand hlt, ?_, ?_, ?_⟩
    · exact (Binary64.isFinite_div_ofNat x (by decide) (by decide)).trans hx
    · exact Binary64.isNegative_div_ofNat hx (by decide) (by decide)
    · rw [compact, Scale.of, if_neg hmillion, if_pos hthousand, String.toList_append]
      rfl
  · have hlt := Binary64.lt_ofNat_of_not_le hx (by decide) hthousand
    refine ⟨_, _, _, .plain hlt, hx, rfl, ?_⟩
    rw [compact, Scale.of, if_neg hmillion, if_neg hthousand, String.toList_append]
    rfl

/-! ### Decimals with fixed places -/

/-- The text shows a value rounded to some places: a sign or none, digits, and the point with as
many digits as there are places.  Read as a decimal it is the rounded value. -/
def ShowsFixed (text : List Char) (negative : Bool) (q : ℚ) (places : Nat) : Prop :=
  ∃ (n : Int) (whole fraction : List Char), IsRounded places q n ∧ whole ≠ [] ∧
    (∀ c ∈ whole, c.isDigit) ∧ Fixed.IsFraction places fraction ∧
    text = (if negative then ['-'] else []) ++ whole ++ fraction ∧
    Numeral.rational? text = some (n / 10 ^ places : ℚ)

/-- **A number with fixed places shows its value.** -/
theorem showsFixed_fixedText (hq : q.isFinite) (places : Nat) :
    ShowsFixed (q.fixedText places).toList q.isNegative q.toRat places := by
  obtain ⟨s, m, rfl⟩ := Binary64.exists_eq_finite hq
  have htext : ((Binary64.finite s m).fixedText places).toList = (m.toFixed s places).chars :=
    String.toList_ofList
  refine ⟨_, _, _, m.isRounded_signed_toFixed s places, Text.digits_ne_nil _,
    (m.toFixed s places).isDigit_of_mem_wholeDigits, (m.toFixed s places).isFraction_fractionPart,
    ?_, ?_⟩
  · rw [htext]
    rfl
  · rw [htext, Fixed.rational?_chars]
    rfl

/-- Such a text ends with a digit. -/
theorem ShowsFixed.exists_getLast? {r : ℚ} (h : ShowsFixed text negative r places) :
    ∃ c, text.getLast? = some c ∧ c.isDigit := by
  obtain ⟨n, whole, fraction, -, hne, hwhole, hfraction, rfl, -⟩ := h
  cases hfraction with
  | none =>
    rw [List.append_nil, List.getLast?_append_of_ne_nil _ hne, List.getLast?_eq_some_getLast hne]
    exact ⟨_, rfl, hwhole _ (List.getLast_mem hne)⟩
  | @point ds hds hdigits =>
    rw [List.getLast?_append_of_ne_nil _ (List.cons_ne_nil _ ds), List.getLast?_cons_of_ne_nil hds,
      List.getLast?_eq_some_getLast hds]
    exact ⟨_, rfl, hdigits _ (List.getLast_mem hds)⟩

/-- The letter goes by the number. -/
theorem Counts.mark_iff (h : Counts x mark unit q) :
    (mark = ['M'] ↔ 1000000 ≤ x) ∧ (mark = ['K'] ↔ 1000 ≤ x ∧ x < 1000000) ∧
      (mark = [] ↔ x < 1000) := by
  have hbounds : (1000 : Binary64) ≤ 1000000 := by decide +kernel
  cases h with
  | plain hlt =>
    have hnot := Binary64.not_le_of_lt hlt
    exact ⟨iff_of_false (by decide) fun h => hnot (Binary64.le_trans hbounds h),
      iff_of_false (by decide) fun h => hnot h.1, iff_of_true rfl hlt⟩
  | thousands hge hlt =>
    exact ⟨iff_of_false (by decide) (Binary64.not_le_of_lt hlt), iff_of_true rfl ⟨hge, hlt⟩,
      iff_of_false (by decide) fun h => Binary64.not_le_of_lt h hge⟩
  | millions hge =>
    exact ⟨iff_of_true rfl hge, iff_of_false (by decide) fun h => Binary64.not_le_of_lt h.2 hge,
      iff_of_false (by decide) fun h => Binary64.not_le_of_lt h (Binary64.le_trans hbounds hge)⟩

/-- The letter is what a label ends with. -/
theorem Counts.getLast?_append {r : ℚ} (h : Counts x mark unit q)
    (hbody : ShowsFixed body negative r places) :
    ((body ++ mark).getLast? = some 'M' ↔ mark = ['M']) ∧
      ((body ++ mark).getLast? = some 'K' ↔ mark = ['K']) ∧
      ((∃ c, (body ++ mark).getLast? = some c ∧ c.isDigit) ↔ mark = []) := by
  cases h with
  | plain =>
    obtain ⟨c, hlast, hdigit⟩ := hbody.exists_getLast?
    rw [List.append_nil, hlast]
    refine ⟨iff_of_false ?_ (by decide), iff_of_false ?_ (by decide),
      iff_of_true ⟨c, rfl, hdigit⟩ rfl⟩
    · rintro ⟨⟩
      cases hdigit
    · rintro ⟨⟩
      cases hdigit
  | thousands => simp
  | millions => simp

/-- **A compact label has the letter of its number, and shows the number of units.**  The letter is
`M` exactly from a million on and `K` exactly from a thousand to below a million; below a thousand,
so for every negative number, the label ends with a digit.  In front of the letter stands what is
counted, the number itself or its binary64 quotient, as a decimal with the sign of the number and
exactly as many places as asked for.  A figure that is there is shown so, and one that is absent or
not finite as `N/A`. -/
theorem showsFixed_compact (hx : x.isFinite) (places : Nat) :
    (∃ mark unit q body, Counts x mark unit q ∧ q.isFinite ∧
      (compact x places).toList = body ++ mark ∧
      ShowsFixed body x.isNegative q.toRat places) ∧
    ((compact x places).toList.getLast? = some 'M' ↔ 1000000 ≤ x) ∧
    ((compact x places).toList.getLast? = some 'K' ↔ 1000 ≤ x ∧ x < 1000000) ∧
    ((∃ c, (compact x places).toList.getLast? = some c ∧ c.isDigit) ↔ x < 1000) ∧
    figure (some x) places = compact x places ∧ figure none places = "N/A" ∧
    ∀ v : Binary64, v.isFinite = false → figure (some v) places = "N/A" := by
  obtain ⟨mark, unit, q, hcounts, hq, hsign, htext⟩ := exists_counts hx places
  have hshows := showsFixed_fixedText hq places
  rw [hsign] at hshows
  obtain ⟨hmillions, hthousands, hplain⟩ := hcounts.getLast?_append hshows
  obtain ⟨hmillion, hthousand, hless⟩ := hcounts.mark_iff
  refine ⟨⟨mark, unit, q, _, hcounts, hq, htext, hshows⟩, ?_⟩
  rw [htext]
  refine ⟨hmillions.trans hmillion, hthousands.trans hthousand, hplain.trans hless, ?_, rfl, ?_⟩
  · rw [figure, orNotAvailable, if_pos hx]
  · intro v hv
    rw [figure, orNotAvailable, hv]
    rfl

/-- A hundredth less than a million is shown as a thousand thousands, and still with a `K`. -/
theorem showsFixed_belowMillion : (99999999 / 100 : Binary64).isFinite ∧
    compact (99999999 / 100) 1 = "1000.0K" ∧
    ∃ mark unit q body, Counts (99999999 / 100) mark unit q ∧ q.isFinite ∧
      "1000.0K".toList = body ++ mark ∧ ShowsFixed body false q.toRat 1 := by
  have hfinite : (99999999 / 100 : Binary64).isFinite := by decide +kernel
  have htext : compact (99999999 / 100) 1 = "1000.0K" := by decide +kernel
  have hsign : (99999999 / 100 : Binary64).isNegative = false := by decide +kernel
  have hshows := (showsFixed_compact hfinite 1).1
  rw [htext, hsign] at hshows
  exact ⟨hfinite, htext, hshows⟩

/-! ### The number of a label -/

/-- The number that a compact label denotes. -/
def number? (label : List Char) : Option ℚ :=
  match label.getLast? with
  | some 'M' => (Numeral.rational? label.dropLast).map (· * 1000000)
  | some 'K' => (Numeral.rational? label.dropLast).map (· * 1000)
  | _ => Numeral.rational? label

theorem Counts.number?_append {r : ℚ} (h : Counts x mark unit q)
    (hbody : ShowsFixed body negative r places) :
    number? (body ++ mark) = (Numeral.rational? body).map (· * unit) := by
  cases h with
  | plain =>
    obtain ⟨c, hlast, hdigit⟩ := hbody.exists_getLast?
    have hread : number? body = Numeral.rational? body := by
      rw [number?, hlast]
      split
      · rename_i hletter
        obtain rfl := Option.some.inj hletter
        cases hdigit
      · rename_i hletter
        obtain rfl := Option.some.inj hletter
        cases hdigit
      · rfl
    rw [List.append_nil, hread]
    simp
  | thousands => simp [number?]
  | millions => simp [number?]

/-- The number of a label is what it shows, times the unit. -/
theorem exists_number_compact (hx : x.isFinite) (places : Nat) :
    ∃ mark unit q n, Counts x mark unit q ∧ IsRounded places q.toRat n ∧
      number? (compact x places).toList = some (n / 10 ^ places * unit : ℚ) := by
  obtain ⟨mark, unit, q, hcounts, hq, -, htext⟩ := exists_counts hx places
  have hshows := showsFixed_fixedText hq places
  have hnumber := hcounts.number?_append hshows
  obtain ⟨n, -, -, hn, -, -, -, -, hread⟩ := hshows
  rw [hread, ← htext, Option.map_some] at hnumber
  exact ⟨mark, unit, q, n, hcounts, hn, hnumber⟩

/-- **The bounds of the letters are not crossed**: rounding may lead up to a bound from either side,
as the bounds are whole numbers in both units, but not past it. -/
theorem Counts.number_bounds {n : Int} (h : Counts x mark unit q) (hx : x.isFinite)
    (hn : IsRounded places q.toRat n) :
    (x < 1000 → (n / 10 ^ places * unit : ℚ) ≤ 1000) ∧
    (1000 ≤ x → (1000 : ℚ) ≤ n / 10 ^ places * unit) ∧
    (x < 1000000 → (n / 10 ^ places * unit : ℚ) ≤ 1000000) ∧
    (1000000 ≤ x → (1000000 : ℚ) ≤ n / 10 ^ places * unit) := by
  have hbounds : (1000 : Binary64) ≤ 1000000 := by decide +kernel
  cases h with
  | plain hlt =>
    have hnot := Binary64.not_le_of_lt hlt
    have hrat := (Binary64.lt_ofNat_iff hx (by decide)).1 hlt
    have hle := hn.div_le_natCast hrat.le
    norm_num at hle
    refine ⟨fun _ => by linarith, fun h => absurd h hnot, fun _ => by linarith, fun h => ?_⟩
    exact absurd (Binary64.le_trans hbounds h) hnot
  | thousands hge hlt =>
    have hnot := Binary64.not_le_of_lt hlt
    have hrat := (Binary64.lt_ofNat_iff hx (by decide)).1 hlt
    have hrat' := (Binary64.ofNat_le_iff hx (by decide)).1 hge
    have hle := hn.div_le_natCast (m := 1000)
      (Binary64.toRat_div_ofNat_le_natCast hx (by decide) (by decide) (by decide) hrat.le)
    have hge' := hn.natCast_le_div (m := 1)
      (Binary64.natCast_le_toRat_div_ofNat hx (by decide) (by decide) (by decide) hrat')
    norm_num at hle hge'
    refine ⟨fun h => absurd hge (Binary64.not_le_of_lt h), fun _ => by linarith,
      fun _ => by linarith, fun h => absurd h hnot⟩
  | millions hge =>
    have hrat := (Binary64.ofNat_le_iff hx (by decide)).1 hge
    have hge' := hn.natCast_le_div (m := 1)
      (Binary64.natCast_le_toRat_div_ofNat hx (by decide) (by decide) (by decide) hrat)
    norm_num at hge'
    have hthousand := Binary64.le_trans hbounds hge
    refine ⟨fun h => absurd hthousand (Binary64.not_le_of_lt h), fun _ => by linarith,
      fun h => absurd hge (Binary64.not_le_of_lt h), fun _ => by linarith⟩

/-- **Compact labels are in the order of their numbers.**  Within one letter division and rounding
keep the order, and between numbers with different letters there is a bound. -/
theorem number_compact_le (hx : x.isFinite) (hy : y.isFinite) (hle : x ≤ y) (places : Nat) :
    ∃ a b, number? (compact x places).toList = some a ∧
      number? (compact y places).toList = some b ∧ a ≤ b := by
  obtain ⟨_, _, p, n, hp, hn, hx'⟩ := exists_number_compact hx places
  obtain ⟨_, _, q, k, hq, hk, hy'⟩ := exists_number_compact hy places
  refine ⟨_, _, hx', hy', ?_⟩
  obtain ⟨hbelow, -, hbelow', -⟩ := hp.number_bounds hx hn
  obtain ⟨-, habove, -, habove'⟩ := hq.number_bounds hy hk
  have hbounds : (1000 : Binary64) ≤ 1000000 := by decide +kernel
  have hrat := (Binary64.le_iff_toRat_le hx hy).1 hle
  cases hp with
  | plain hlt =>
    cases hq with
    | plain => exact mul_le_mul_of_nonneg_right (hn.div_le_div hk hrat) (by norm_num)
    | thousands hge => exact (hbelow hlt).trans (habove hge)
    | millions hge => exact (hbelow hlt).trans (habove (Binary64.le_trans hbounds hge))
  | thousands hge hlt =>
    cases hq with
    | plain hlt' => exact absurd (Binary64.le_trans hge hle) (Binary64.not_le_of_lt hlt')
    | thousands =>
      have hquotient := Binary64.toRat_div_ofNat_le (n := 1000) hx hy (by decide) (by decide) hrat
      exact mul_le_mul_of_nonneg_right (hn.div_le_div hk hquotient) (by norm_num)
    | millions hge' => exact (hbelow' hlt).trans (habove' hge')
  | millions hge =>
    cases hq with
    | plain hlt =>
      have hthousand := Binary64.le_trans hbounds (Binary64.le_trans hge hle)
      exact absurd hthousand (Binary64.not_le_of_lt hlt)
    | thousands _ hlt => exact absurd (Binary64.le_trans hge hle) (Binary64.not_le_of_lt hlt)
    | millions =>
      have hquotient :=
        Binary64.toRat_div_ofNat_le (n := 1000000) hx hy (by decide) (by decide) hrat
      exact mul_le_mul_of_nonneg_right (hn.div_le_div hk hquotient) (by norm_num)

/-- A hundredth less than a million and a million have labels of the same number, in different
units. -/
theorem number_compact_le_million : (99999999 / 100 : Binary64).isFinite ∧
    (1000000 : Binary64).isFinite ∧ (99999999 / 100 : Binary64) ≤ 1000000 ∧
    compact (99999999 / 100) 1 = "1000.0K" ∧ compact 1000000 1 = "1.0M" ∧
    ∃ a b, number? "1000.0K".toList = some a ∧ number? "1.0M".toList = some b ∧ a ≤ b := by
  have hfinite : (99999999 / 100 : Binary64).isFinite := by decide +kernel
  have hfinite' : (1000000 : Binary64).isFinite := by decide +kernel
  have hle : (99999999 / 100 : Binary64) ≤ 1000000 := by decide +kernel
  have htext : compact (99999999 / 100) 1 = "1000.0K" := by decide +kernel
  have htext' : compact 1000000 1 = "1.0M" := by decide +kernel
  have hnumbers := number_compact_le hfinite hfinite' hle 1
  rw [htext, htext'] at hnumbers
  exact ⟨hfinite, hfinite', hle, htext, htext', hnumbers⟩

end Label

end BenchReport
