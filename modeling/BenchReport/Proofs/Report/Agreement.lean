import BenchReport.Proofs.Binary64.Halves
import BenchReport.Proofs.Decimal.Fixed
import BenchReport.Proofs.Report.Finiteness

/-!
# Charts and labels agree, but for halves

Some figures are shown by a text and by a bar at the same scale and to the same place.  The
text rounds the exact value, a half to the even digit; the bar multiplies first and rounds
a half upwards.  Both show the same decimal unless the number that the bar rounds is a half
exactly; then the bar may show one more in the last place.

## Main definitions

* `Report.bar?`, `Report.row?` — the bar and the row with a label.
* `Label.decimal`, `Label.groupedDecimal` — a whole number of last places as text.
* `Label.AgreesUpToHalf` — a text and the text of a bar show the same, but for halves.

## Main results

* `Label.agreesUpToHalf_thousands`, `Label.agreesUpToHalf_grouped` — the two pairs of roundings.
* `Report.labels_agree_assemble` — **charts and labels of a report agree, but for halves.**
* `Report.label_ne_bar_of_half` — a half on which they differ.
-/

namespace BenchReport

open Binary64

/-! ### Texts of decimals -/

namespace Label

/-- So many last places as text. -/
def decimal (places n : Nat) : String := String.ofList (Fixed.mk false n places).chars

/-- So many last places as text, with commas between the thousands. -/
def groupedDecimal (places n : Nat) : String := String.ofList (Fixed.mk false n places).groupedChars

theorem decimal_injective (places : Nat) : Function.Injective (decimal places) := by
  intro a b h
  exact Fixed.scaled_eq_of_chars (String.ofList_injective h)

theorem groupedDecimal_injective (places : Nat) : Function.Injective (groupedDecimal places) := by
  intro a b h
  exact Fixed.scaled_eq_of_groupedChars (String.ofList_injective h)

/-- A label and the text of a bar show the same number of last places, unless the number
`z` that the bar rounds lies in the middle behind that number.  Then the bar shows the next
one, and the two differ. -/
def AgreesUpToHalf (write : Nat → String) (z : Binary64) (label bar : String) : Prop :=
  ∃ n, label = write n ∧ (¬ z.IsMiddleAfter n → bar = label) ∧
    (z.IsMiddleAfter n → bar = write (n + 1) ∧ bar ≠ label)

end Label

/-- Zeros with a sign aside, a finite number lies in a middle when its magnitude does. -/
theorem Binary64.isMiddleAfter_finite {s : Bool} {z : Magnitude} {n : Nat}
    (hsign : s = true → z.units = 0) :
    (Binary64.finite s z).IsMiddleAfter n ↔ 2 * z.units = (2 * n + 1) * one := by
  have hplace : signed s z.units = z.units := by
    cases s with
    | false => rfl
    | true => rw [hsign rfl]; rfl
  constructor
  · rintro ⟨p, hp, h⟩
    obtain rfl := Option.some.inj hp
    rw [hplace] at h
    exact_mod_cast h
  · intro h
    refine ⟨_, rfl, ?_⟩
    rw [hplace]
    exact_mod_cast h

/-- What the last places of a chart value say of the texts. -/
theorem Label.agreesUpToHalf_of_scaled {write : Nat → String} (hwrite : Function.Injective write)
    {s : Bool} {z : Magnitude} {n k : Nat} (hsign : s = true → z.units = 0)
    (hk : k = if 2 * z.units = (2 * n + 1) * one then n + 1 else n) :
    AgreesUpToHalf write (.finite s z) (write n) (write k) := by
  refine ⟨n, rfl, fun hother => ?_, fun hmiddle => ?_⟩
  · rw [isMiddleAfter_finite hsign] at hother
    rw [hk, if_neg hother]
  · rw [isMiddleAfter_finite hsign] at hmiddle
    rw [hk, if_pos hmiddle]
    exact ⟨rfl, fun h => absurd (hwrite h) (Nat.succ_ne_self n)⟩

/-! ### Two pairs of roundings -/

namespace Label

variable {s : Bool} {m : Magnitude}

/-- A whole number of units that is not too large is shown by few digits. -/
theorem scaled_toFixed_le {places k : Nat} (h : m.units * 10 ^ places ≤ k * one) :
    (m.toFixed s places).scaled ≤ k := by
  rw [Magnitude.scaled_toFixed]
  have hone := Binary64.one_pos
  exact roundHalfEven_le_of_le hone h

theorem fixedText_finite (places : Nat) :
    (Binary64.finite false m).fixedText places =
      decimal places (m.toFixed false places).scaled := by
  rw [fixedText, decimal, Magnitude.toFixed]

/-- **In thousands**: from a thousand to a million the text of a card has the letter `K`, and
the bar that shows the figure in thousands agrees with it up to halves. -/
theorem agreesUpToHalf_thousands {x : Binary64} (hfinite : x.isFinite) (hlow : 1000 ≤ x)
    (hhigh : x < 1000000) :
    AgreesUpToHalf (fun n => decimal 1 n ++ "K") (x / 1000 * 10) (figure (some x) 1)
      (x.toThousands.fixedText 1 ++ "K") := by
  obtain ⟨s, m, rfl⟩ := Binary64.exists_eq_finite hfinite
  have hle := (ofNat_le_finite_iff s m (n := 1000) (by decide)).1 hlow
  have hlt := (finite_lt_ofNat_iff s m (n := 1000000) (by decide)).1 hhigh
  have hone := Binary64.one_pos
  obtain rfl : s = false := by
    cases s with
    | false => rfl
    | true => simp only [signed, if_true] at hle; omega
  have hunits : m.units < 1000000 * one := by
    simp only [signed, Bool.false_eq_true, if_false] at hlt
    exact_mod_cast hlt
  have hscale : Scale.of (.finite false m) = .thousands := by
    have hnot : ¬ (1000000 : Binary64) ≤ .finite false m := fun h =>
      absurd ((ofNat_le_finite_iff false m (n := 1000000) (by decide)).1 h) (by omega)
    rw [Scale.of, if_neg hnot, if_pos hlow]
  obtain ⟨a, ha, haunits⟩ := finite_div_ofNat false m (n := 1000) (by decide) (by decide)
  have hthousand : (Binary64.finite false m / 1000 : Binary64) = .finite false a := ha
  -- the thousandth is at most a thousand, which has few digits
  have hsmall : (a.toFixed false 1).scaled ≤ 10000 := by
    apply scaled_toFixed_le
    have hgrid := gap_mul_one_dvd (n := 1000) (by decide)
    have hle : nearest m.units 1000 ≤ 1000 * one :=
      nearest_le_of_dvd hgrid (by decide) (by omega)
    omega
  obtain ⟨z, b, hz, -, hb, hlast⟩ :=
    exists_toFixed_roundTo (m := a) (s := false) (Nat.le_refl 1) rfl (by omega)
  rw [toThousands, hthousand, hb]
  rw [show (10 : Binary64) = ofNat (10 ^ 1) from rfl, hz]
  have hlabel : figure (some (.finite false m)) 1 =
      decimal 1 (a.toFixed false 1).scaled ++ "K" := by
    rw [figure, orNotAvailable, if_pos hfinite, compact, hscale, Scale.apply, hthousand,
      fixedText_finite, Scale.suffix]
  rw [hlabel, fixedText_finite]
  have hinjective : Function.Injective fun n => decimal 1 n ++ "K" := fun n k h =>
    decimal_injective 1 ((String.append_left_inj _).1 h)
  exact agreesUpToHalf_of_scaled hinjective (fun h => absurd h Bool.false_ne_true) hlast

theorem grouped_finite {places n : Nat} (hn : (m.toFixed s places).scaled = n)
    (hsign : s = true → n = 0) : grouped (.finite s m) places = groupedDecimal places n := by
  have hshown : (s && n != 0) = false := by
    cases s with
    | false => rfl
    | true => rw [hsign rfl]; rfl
  have hscaled : (m.toFixed false places).scaled = n := by
    rw [← hn, Magnitude.scaled_toFixed, Magnitude.scaled_toFixed]
  rw [grouped]
  simp only [hscaled, hshown, groupedDecimal]

/-- **With commas**: from zero to a billion thousands the text of a row to at most one place
and the bar that shows the figure rounded to that place agree up to halves. -/
theorem agreesUpToHalf_grouped {x : Binary64} {places : Nat} (hfinite : x.isFinite)
    (hplaces : places ≤ 1) (hlow : 0 ≤ x) (hhigh : x < 1000000000000) :
    AgreesUpToHalf (groupedDecimal places) (x * ofNat (10 ^ places)) (grouped x places)
      (grouped (x.roundTo places) places) := by
  obtain ⟨s, m, rfl⟩ := Binary64.exists_eq_finite hfinite
  have hle := (ofNat_le_finite_iff s m (n := 0) (by decide)).1 hlow
  have hlt := (finite_lt_ofNat_iff s m (n := 1000000000000) (by decide)).1 hhigh
  -- the only number with a sign is a zero
  have hzero : s = true → m.units = 0 := by
    rintro rfl
    simp only [signed, if_true] at hle
    omega
  have hunits : m.units < 1000000000000 * one := by
    cases s with
    | false =>
      simp only [signed, Bool.false_eq_true, if_false] at hlt
      exact_mod_cast hlt
    | true =>
      rw [hzero rfl]
      exact Nat.mul_pos (by decide) Binary64.one_pos
  have hsmall : (m.toFixed s places).scaled ≤ 10000000000000 := by
    apply scaled_toFixed_le
    have hten : 10 ^ places ≤ 10 := by
      obtain rfl | rfl : places = 0 ∨ places = 1 := by omega
      all_goals decide
    have hmul := Nat.mul_le_mul (Nat.le_of_lt hunits) hten
    omega
  obtain ⟨z, b, hz, hzunits, hb, hlast⟩ :=
    exists_toFixed_roundTo (m := m) (s := s) hplaces rfl (by omega)
  have hzeroes : s = true → z.units = 0 ∧ (m.toFixed s places).scaled = 0 := by
    intro hs
    have hm := hzero hs
    refine ⟨by rw [hzunits, hm, Nat.zero_mul, nearest_zero_left], ?_⟩
    exact Nat.le_zero.1 (scaled_toFixed_le (by rw [hm, Nat.zero_mul, Nat.zero_mul]))
  rw [hz, hb, grouped_finite rfl fun hs => (hzeroes hs).2, grouped_finite hlast ?_]
  · exact agreesUpToHalf_of_scaled (groupedDecimal_injective places)
      (fun hs => (hzeroes hs).1) rfl
  · intro hs
    have hone := Binary64.one_pos
    rw [(hzeroes hs).1, (hzeroes hs).2, if_neg (by omega)]

end Label

/-! ### Reports -/

namespace Report

/-- The bar with a label in the chart of a slot. -/
def bar? (r : Report) (slot label : String) : Option Bar :=
  (r.charts.find? fun c => c.slot == slot).bind fun c => c.bars.find? fun b => b.label == label

/-- The row with a label in the table of a suite. -/
def row? (r : Report) (suite : Suite) (label : String) : Option Row :=
  (r.section? suite).bind fun s => s.table.rows.find? fun row => row.label == label

end Report

/-- A figure that is shown by a card and by a bar in thousands. -/
structure CardAndBar where
  /-- The label of the card. -/
  card : String
  /-- The slot of the chart. -/
  slot : String
  /-- The label of the bar. -/
  bar : String
  /-- The figure. -/
  figure : Figure

/-- A figure that is shown by a row and by a bar to the same place. -/
structure RowAndBar where
  /-- The suite of the table. -/
  suite : Suite
  /-- The label of the row. -/
  row : String
  /-- The slot of the chart. -/
  slot : String
  /-- The label of the bar. -/
  bar : String
  /-- The figure. -/
  figure : Figure
  /-- How many decimal places are shown. -/
  places : Nat

/-- The figures that a card and a bar show. -/
def cardsAndBars : List CardAndBar := [
  ⟨"Server conn/sec", "sConnChart", "Sustained", .connectionRate⟩,
  ⟨"Burst connections", "sConnChart", "Burst (5K)", .burstRate⟩,
  ⟨"Single-client throughput", "sTpChart", "64 B msg", .smallMessageRate⟩,
  ⟨"100-client aggregate", "sConcChart", "100 clients × 500 msgs", .aggregateRate⟩,
  ⟨"Cache GET", "cOpsChart", "GET", .getRate⟩,
  ⟨"Cache SET", "cOpsChart", "SET", .setRate⟩]

/-- The figures that a row and a bar show. -/
def rowsAndBars : List RowAndBar := [
  ⟨.proxy, "HTTP single backend", "pHttpChart", "Single backend", .singleBackendRate, 0⟩,
  ⟨.proxy, "HTTP load balancing", "pHttpChart", "Load balancing", .balancedRate, 0⟩,
  ⟨.webSocket, "Handshake throughput", "wsChart", "Handshake", .handshakeRate, 0⟩,
  ⟨.webSocket, "WS + TCP coexistence", "wsChart", "WS+TCP coexist", .coexistenceRate, 0⟩,
  ⟨.webSocket, "20-client concurrent", "wsChart", "20-client conc.", .handshakeClientsRate, 0⟩,
  ⟨.server, "1 KB bandwidth", "sMbChart", "1 KB", .largeBandwidth, 1⟩]

theorem places_le_one : ∀ e ∈ rowsAndBars, e.places ≤ 1 := by decide

namespace Report

variable (inputs : Inputs) (generatedAt : Instant) (settings : Settings)

/-- What the cards and bars of the same figures show. -/
theorem exists_card_and_bar : ∀ e ∈ cardsAndBars, ∃ card bar,
    (assemble inputs generatedAt settings).card? e.card = some card ∧
    (assemble inputs generatedAt settings).bar? e.slot e.bar = some bar ∧
    card.display = Label.figure (Figures.ofInputs inputs e.figure) 1 ∧
    bar.value = (orZero (Figures.ofInputs inputs e.figure)).toThousands := by
  simp only [cardsAndBars, List.forall_mem_cons, List.not_mem_nil, false_implies, implies_true,
    and_true]
  and_intros <;> exact ⟨_, _, rfl, rfl, rfl, rfl⟩

/-- What the rows and bars of the same figures show. -/
theorem exists_row_and_bar : ∀ e ∈ rowsAndBars, ∃ row bar,
    (assemble inputs generatedAt settings).row? e.suite e.row = some row ∧
    (assemble inputs generatedAt settings).bar? e.slot e.bar = some bar ∧
    row.places = e.places ∧ row.value = orZero (Figures.ofInputs inputs e.figure) ∧
    bar.value = (orZero (Figures.ofInputs inputs e.figure)).roundTo e.places := by
  simp only [rowsAndBars, List.forall_mem_cons, List.not_mem_nil, false_implies, implies_true,
    and_true]
  and_intros <;> exact ⟨_, _, rfl, rfl, rfl, rfl, rfl⟩

/-- **Charts and labels of a report agree, but for halves.**

A figure from a thousand to a million that a card shows with the letter `K` and a bar shows
in thousands is the same decimal in both, and so is a figure from zero to a billion thousands
that a row and a bar show to the same place; an absent figure is a zero there.  The only
exception is a number that lies in the middle between two of the decimals when the chart
rounds it: for a card the tenfold of the thousandth, for a row the figure or its tenfold. -/
theorem labels_agree_assemble :
    (∀ e ∈ cardsAndBars, ∃ card bar,
      (assemble inputs generatedAt settings).card? e.card = some card ∧
      (assemble inputs generatedAt settings).bar? e.slot e.bar = some bar ∧
      ∀ x, Figures.ofInputs inputs e.figure = some x → 1000 ≤ x → x < 1000000 →
        Label.AgreesUpToHalf (fun n => Label.decimal 1 n ++ "K") (x / 1000 * 10)
          card.display (bar.value.fixedText 1 ++ "K")) ∧
    ∀ e ∈ rowsAndBars, ∃ row bar,
      (assemble inputs generatedAt settings).row? e.suite e.row = some row ∧
      (assemble inputs generatedAt settings).bar? e.slot e.bar = some bar ∧
      row.places = e.places ∧
      ∀ x, (Figures.ofInputs inputs e.figure).getD 0 = x → 0 ≤ x → x < 1000000000000 →
        Label.AgreesUpToHalf (Label.groupedDecimal e.places) (x * .ofNat (10 ^ e.places))
          row.display (Label.grouped bar.value e.places) := by
  constructor
  · intro e he
    obtain ⟨card, bar, hcard, hbar, hdisplay, hvalue⟩ :=
      exists_card_and_bar inputs generatedAt settings e he
    refine ⟨card, bar, hcard, hbar, fun x hx hlow hhigh => ?_⟩
    rw [hdisplay, hvalue, hx, orZero, Option.getD_some]
    exact Label.agreesUpToHalf_thousands (Figures.isFinite_of_ofInputs hx) hlow hhigh
  · intro e he
    obtain ⟨row, bar, hrow, hbar, hplaces, hshown, hvalue⟩ :=
      exists_row_and_bar inputs generatedAt settings e he
    refine ⟨row, bar, hrow, hbar, hplaces, ?_⟩
    rintro x rfl hlow hhigh
    rw [Row.display, hplaces, hshown, hvalue]
    exact Label.agreesUpToHalf_grouped (isFinite_orZero fun _ => Figures.isFinite_of_ofInputs)
      (places_le_one e he) hlow hhigh

/-- One run with 1250 connections per second. -/
def halfRate : Inputs :=
  Inputs.empty.put ⟨.server, none, [⟨[("connections_per_sec", .ofNat 1250),
    ("test", .ofString "server_connection_rate")]⟩]⟩

theorem figure_halfRate : Figures.ofInputs halfRate .connectionRate = some 1250 := by
  decide +kernel

/-- The label and the bar of that rate agree up to a half. -/
theorem labels_agree_halfRate : ∃ card bar,
    (assemble halfRate ⟨0, 0, secondNanos_pos⟩ (.new ⟨"results"⟩)).card? "Server conn/sec" =
      some card ∧
    (assemble halfRate ⟨0, 0, secondNanos_pos⟩ (.new ⟨"results"⟩)).bar? "sConnChart" "Sustained" =
      some bar ∧
    Label.AgreesUpToHalf (fun n => Label.decimal 1 n ++ "K") (1250 / 1000 * 10) card.display
      (bar.value.fixedText 1 ++ "K") := by
  obtain ⟨card, bar, hcard, hbar, hagree⟩ :=
    (labels_agree_assemble halfRate ⟨0, 0, secondNanos_pos⟩ (.new ⟨"results"⟩)).1
      ⟨"Server conn/sec", "sConnChart", "Sustained", .connectionRate⟩ (by simp [cardsAndBars])
  exact ⟨card, bar, hcard, hbar,
    hagree 1250 figure_halfRate (by decide +kernel) (by decide +kernel)⟩

/-- **Twelve and a half tenths of a thousand are twelve on the card and thirteen in the
chart.** -/
theorem label_ne_bar_of_half : ∃ card bar,
    (assemble halfRate ⟨0, 0, secondNanos_pos⟩ (.new ⟨"results"⟩)).card? "Server conn/sec" =
      some card ∧
    (assemble halfRate ⟨0, 0, secondNanos_pos⟩ (.new ⟨"results"⟩)).bar? "sConnChart" "Sustained" =
      some bar ∧
    Figures.ofInputs halfRate .connectionRate = some 1250 ∧
    (1000 : Binary64) ≤ 1250 ∧ (1250 : Binary64) < 1000000 ∧
    card.display = "1.2K" ∧ bar.value.fixedText 1 ++ "K" = "1.3K" := by
  obtain ⟨card, bar, hcard, hbar, hdisplay, hvalue⟩ :=
    exists_card_and_bar halfRate ⟨0, 0, secondNanos_pos⟩ (.new ⟨"results"⟩)
      ⟨"Server conn/sec", "sConnChart", "Sustained", .connectionRate⟩ (by simp [cardsAndBars])
  have hlabel : Label.figure (some 1250) 1 = "1.2K" := by decide +kernel
  have hshown : (1250 : Binary64).toThousands.fixedText 1 ++ "K" = "1.3K" := by
    simp only [toThousands, roundTo_one]
    decide +kernel
  rw [figure_halfRate] at hdisplay hvalue
  refine ⟨card, bar, hcard, hbar, figure_halfRate, by decide +kernel, by decide +kernel,
    hdisplay.trans hlabel, ?_⟩
  rw [hvalue, orZero, Option.getD_some, hshown]

end Report

end BenchReport
