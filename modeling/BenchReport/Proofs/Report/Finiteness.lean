import BenchReport.Document.ChartScript
import BenchReport.Proofs.Report.Presence

/-!
# Which numbers of a report are finite

Figures are finite, and so are the values of cards and rows.  A bar shows its figure at a
scale.  In thousands it stays finite, because the division comes first; to whole numbers
it stays finite, because nothing is multiplied.  The two bandwidths of the server are
rounded to one place by way of their tenfold, so a bandwidth whose tenfold is too large
becomes an infinite bar, and the data of the report has a `null` there.

## Main definitions

* `Binary64.TenfoldFits` — the tenfold of a number is not too large.
* `Report.AllFinite` — the numbers of a report are finite.
* `Json.HoldsNull` — a value holds a `null` somewhere.

## Main results

* `BarScale.isFinite_apply` — which scales keep a number finite.
* `Report.holdsNull_toJson` — the data has a `null` when some number is not finite.
* `Report.isFinite_assemble` — **all numbers are finite unless a bandwidth's tenfold is too
  large.**
-/

namespace BenchReport

/-! ### Scales of bars -/

/-- The tenfold of the number stays more than half of the last gap below the limit. -/
def Binary64.TenfoldFits (x : Binary64) : Prop :=
  ∃ p ∈ x.position, 20 * p.natAbs + topGap < 2 * limit

theorem Binary64.isFinite_mul_ten {x : Binary64} (hx : x.isFinite) :
    (x * ofNat 10).isFinite = true ↔ x.TenfoldFits := by
  obtain ⟨s, m, rfl⟩ := exists_eq_finite hx
  rw [isFinite_mul_ten_iff, TenfoldFits]
  constructor
  · intro h
    exact ⟨_, rfl, by rwa [natAbs_signed]⟩
  · rintro ⟨_, ⟨⟩, h⟩
    rwa [natAbs_signed] at h

/-- **Which scales keep a number finite**: all but that to one place, which needs the
tenfold. -/
theorem BarScale.isFinite_apply {scale : BarScale}
    (hscale : scale ∈ [.thousands, .rounded 0, .rounded 1]) {x : Binary64} (hx : x.isFinite) :
    (scale.apply x).isFinite = true ↔ (scale = .rounded 1 → x.TenfoldFits) := by
  simp only [List.mem_cons, List.not_mem_nil, or_false] at hscale
  rcases hscale with rfl | rfl | rfl
  · exact iff_of_true (Binary64.isFinite_toThousands hx) (fun h => nomatch h)
  · exact iff_of_true (Binary64.isFinite_roundTo_zero hx) (fun h => nomatch h)
  · rw [apply, Binary64.isFinite_roundTo_one, Binary64.isFinite_mul_ten hx]
    exact ⟨fun h _ => h, fun h => h rfl⟩

/-! ### Numbers of a report -/

theorem isFinite_zero : (0 : Binary64).isFinite = true := by
  rw [show (0 : Binary64) = .ofNat 0 from rfl, Binary64.ofNat_eq_finite (by decide)]
  rfl

theorem isFinite_orZero {x : Option Binary64} (h : ∀ v, x = some v → v.isFinite) :
    (orZero x).isFinite = true := by
  cases x with
  | none => exact isFinite_zero
  | some v => exact h v rfl

/-- All charts of a report without values. -/
def chartOutlines : List ChartOutline := Suite.all.flatMap fun suite => (Outline.of suite).charts

/-- The scales of all bars: only those of the bandwidths are to one place. -/
theorem scale_of_mem_chartOutlines : ∀ c ∈ chartOutlines, ∀ b ∈ c.bars,
    (c.slot ≠ "sMbChart" ∧ (b.scale = .thousands ∨ b.scale = .rounded 0)) ∨
      (c.slot = "sMbChart" ∧ b.scale = .rounded 1 ∧
        (b.label = "64 B" ∧ b.figure = .smallBandwidth ∨
          b.label = "1 KB" ∧ b.figure = .largeBandwidth)) := by
  decide

/-- What the bars of a chart show. -/
theorem ChartOutline.map_bars_fill (c : ChartOutline) (figures : Figures) :
    ((c.fill figures).bars.map fun bar => (bar.label, bar.value)) =
      c.bars.map fun b => (b.label, b.value figures) := by
  have hfst := List.zipIdx_map_fst 0 c.bars
  simp only [fill, Chart.paint, List.zipIdx_map, List.map_map]
  conv_rhs => rw [← hfst, List.map_map]
  rfl

namespace Report

/-- All numbers of the report are finite. -/
structure AllFinite (r : Report) : Prop where
  cards : ∀ c ∈ r.cards, c.value.isFinite
  bars : ∀ c ∈ r.charts, ∀ b ∈ c.bars, b.value.isFinite
  rows : ∀ s ∈ r.sections, ∀ row ∈ s.table.rows, row.value.isFinite

variable (inputs : Inputs) (generatedAt : Instant) (settings : Settings)

theorem isFinite_cards : ∀ c ∈ (assemble inputs generatedAt settings).cards,
    c.value.isFinite := by
  intro card hcard
  obtain ⟨suite, -, hcard⟩ := List.mem_flatMap.1 hcard
  obtain ⟨c, -, rfl⟩ := List.mem_map.1 hcard
  exact isFinite_orZero fun _ => Figures.isFinite_of_ofInputs

theorem isFinite_rows : ∀ s ∈ (assemble inputs generatedAt settings).sections,
    ∀ row ∈ s.table.rows, row.value.isFinite := by
  intro s hs row hrow
  obtain ⟨suite, -, rfl⟩ := List.mem_map.1 hs
  obtain ⟨r, -, hr⟩ := List.mem_filterMap.1 hrow
  have hvalue : row.value = orZero (r.value (.ofInputs inputs)) := by
    rw [RowOutline.fill?] at hr
    split at hr
    · cases hr
    · rw [← Option.some.inj hr]
  rw [hvalue]
  refine isFinite_orZero fun v hv => ?_
  rw [RowOutline.value] at hv
  split at hv
  · obtain ⟨figure, hfigure, rfl⟩ := Option.map_eq_some_iff.1 hv
    exact (Binary64.isFinite_trunc figure).trans (Figures.isFinite_of_ofInputs hfigure)
  · exact Figures.isFinite_of_ofInputs hv

theorem charts_assemble : (assemble inputs generatedAt settings).charts =
    chartOutlines.map fun c => c.fill (.ofInputs inputs) := rfl

theorem exists_bandwidth_chart : ∃ c ∈ (assemble inputs generatedAt settings).charts,
    c.slot = "sMbChart" ∧ c.bars.map (·.label) = ["64 B", "1 KB"] := by
  refine ⟨chartOutlines[2].fill (.ofInputs inputs), ?_, rfl, rfl⟩
  rw [charts_assemble]
  exact List.mem_map_of_mem (List.getElem_mem _)

/-- **Which bars are finite**: all but those of a bandwidth whose tenfold is too large. -/
theorem isFinite_bar_iff {c : Chart} (hc : c ∈ (assemble inputs generatedAt settings).charts)
    {b : Bar} (hb : b ∈ c.bars) :
    b.value.isFinite = true ↔ (c.slot = "sMbChart" →
      (b.label = "64 B" → (orZero (Figures.ofInputs inputs .smallBandwidth)).TenfoldFits) ∧
      (b.label = "1 KB" → (orZero (Figures.ofInputs inputs .largeBandwidth)).TenfoldFits)) := by
  rw [charts_assemble] at hc
  obtain ⟨outline, houtline, rfl⟩ := List.mem_map.1 hc
  have hshown := List.mem_map_of_mem (f := fun bar : Bar => (bar.label, bar.value)) hb
  rw [ChartOutline.map_bars_fill] at hshown
  obtain ⟨bar, hbar, hsame⟩ := List.mem_map.1 hshown
  obtain ⟨hlabel, hvalue⟩ := Prod.mk.inj hsame
  have hfinite : (orZero (Figures.ofInputs inputs bar.figure)).isFinite :=
    isFinite_orZero fun _ => Figures.isFinite_of_ofInputs
  have hslot : (outline.fill (.ofInputs inputs)).slot = outline.slot := rfl
  rw [← hlabel, ← hvalue, hslot, BarOutline.value]
  rcases scale_of_mem_chartOutlines outline houtline bar hbar with
    ⟨hother, hscale⟩ | ⟨hbandwidth, hscale, hfigure⟩
  · -- no other chart rounds to one place
    rw [BarScale.isFinite_apply (by rcases hscale with h | h <;> simp [h]) hfinite]
    refine iff_of_true (fun h => ?_) fun h => absurd h hother
    rcases hscale with h' | h' <;> rw [h'] at h <;> cases h
  · rw [BarScale.isFinite_apply (by simp [hscale]) hfinite]
    rcases hfigure with ⟨hname, hfigure⟩ | ⟨hname, hfigure⟩ <;>
      simp [hscale, hbandwidth, hname, hfigure]

end Report

/-! ### Numbers in the data -/

/-- Somewhere in the text of the value stands a `null`. -/
def Json.HoldsNull (v : Json) : Prop := Token.scalar .null ∈ v.tokens

namespace Json

theorem null_mem_itemTokens (items : List Json) :
    Token.scalar .null ∈ itemTokens items ↔ ∃ v ∈ items, v.HoldsNull := by
  induction items with
  | nil => simp [itemTokens]
  | cons v rest ih =>
    cases rest with
    | nil => simp [itemTokens, HoldsNull]
    | cons w rest =>
      rw [itemTokens, List.mem_append, List.mem_cons, ih]
      simp [HoldsNull]

theorem null_mem_fieldTokens (fields : List (String × Json)) :
    Token.scalar .null ∈ fieldTokens fields ↔ ∃ f ∈ fields, f.2.HoldsNull := by
  induction fields with
  | nil => simp [fieldTokens]
  | cons f rest ih =>
    obtain ⟨key, v⟩ := f
    cases rest with
    | nil => simp [fieldTokens, HoldsNull]
    | cons g rest =>
      rw [fieldTokens, List.mem_cons, List.mem_cons, List.mem_append, List.mem_cons, ih]
      simp [HoldsNull]

@[simp] theorem holdsNull_array (items : List Json) :
    (Json.array items).HoldsNull ↔ ∃ v ∈ items, v.HoldsNull := by
  rw [← null_mem_itemTokens]
  simp [HoldsNull, tokens]

@[simp] theorem holdsNull_object (fields : List (String × Json)) :
    (Json.object fields).HoldsNull ↔ ∃ f ∈ fields, f.2.HoldsNull := by
  rw [← null_mem_fieldTokens]
  simp [HoldsNull, tokens]

@[simp] theorem not_holdsNull_ofString (s : String) : ¬ (ofString s).HoldsNull := by
  simp [HoldsNull, ofString, tokens]

@[simp] theorem not_holdsNull_ofNat (n : Nat) : ¬ (ofNat n).HoldsNull := by
  simp [HoldsNull, ofNat, tokens]

@[simp] theorem not_holdsNull_ofBool (b : Bool) : ¬ (ofBool b).HoldsNull := by
  simp [HoldsNull, ofBool, tokens]

@[simp] theorem holdsNull_ofBinary64 (x : Binary64) :
    (ofBinary64 x).HoldsNull ↔ x.isFinite = false := by
  rw [ofBinary64]
  cases x.isFinite <;> simp [HoldsNull, tokens]

end Json

theorem Card.holdsNull_toJson (c : Card) : c.toJson.HoldsNull ↔ c.value.isFinite = false := by
  simp [toJson]

theorem Row.holdsNull_toJson (r : Row) : r.toJson.HoldsNull ↔ r.value.isFinite = false := by
  simp [toJson]

theorem Chart.holdsNull_toJson (c : Chart) :
    c.toJson.HoldsNull ↔ ∃ b ∈ c.bars, b.value.isFinite = false := by
  simp [toJson, Bar.toJson]

/-- The charts that stand in a document hold a `null` when some bar is not finite. -/
theorem holdsNull_charts (charts : List Chart) :
    (Json.array (charts.map Chart.toJson)).HoldsNull ↔
      ¬ ∀ c ∈ charts, ∀ b ∈ c.bars, b.value.isFinite := by
  simp [Chart.holdsNull_toJson]

theorem Section.holdsNull_toJson (s : Section) : s.toJson.HoldsNull ↔
    (∃ c ∈ s.charts, ∃ b ∈ c.bars, b.value.isFinite = false) ∨
      ∃ row ∈ s.table.rows, row.value.isFinite = false := by
  simp [toJson, Table.toJson, Chart.holdsNull_toJson, Row.holdsNull_toJson]

namespace Report

/-- **The data has a `null` exactly when some number is not finite.** -/
theorem holdsNull_toJson (r : Report) : r.toJson.HoldsNull ↔ ¬ r.AllFinite := by
  have hparts : r.toJson.HoldsNull ↔ (∃ c ∈ r.cards, c.value.isFinite = false) ∨
      ∃ s ∈ r.sections, (∃ c ∈ s.charts, ∃ b ∈ c.bars, b.value.isFinite = false) ∨
        ∃ row ∈ s.table.rows, row.value.isFinite = false := by
    simp [toJson, Card.holdsNull_toJson, Section.holdsNull_toJson]
  have hall : r.AllFinite ↔ (∀ c ∈ r.cards, c.value.isFinite) ∧
      ∀ s ∈ r.sections, (∀ c ∈ s.charts, ∀ b ∈ c.bars, b.value.isFinite) ∧
        ∀ row ∈ s.table.rows, row.value.isFinite := by
    constructor
    · rintro ⟨hcards, hbars, hrows⟩
      exact ⟨hcards, fun s hs =>
        ⟨fun c hc => hbars c (List.mem_flatMap.2 ⟨s, hs, hc⟩), hrows s hs⟩⟩
    · rintro ⟨hcards, hsections⟩
      refine ⟨hcards, fun c hc => ?_, fun s hs => (hsections s hs).2⟩
      obtain ⟨s, hs, hc⟩ := List.mem_flatMap.1 hc
      exact (hsections s hs).1 c hc
  rw [hparts, hall]
  grind

variable (inputs : Inputs) (generatedAt : Instant) (settings : Settings)

/-- The chart of the bandwidths has both bars, so all bars are finite only with both. -/
theorem isFinite_bars_iff :
    (∀ c ∈ (assemble inputs generatedAt settings).charts, ∀ b ∈ c.bars, b.value.isFinite) ↔
      (orZero (Figures.ofInputs inputs .smallBandwidth)).TenfoldFits ∧
        (orZero (Figures.ofInputs inputs .largeBandwidth)).TenfoldFits := by
  constructor
  · intro h
    obtain ⟨c, hc, hslot, hlabels⟩ := exists_bandwidth_chart inputs generatedAt settings
    have hfits : ∀ label ∈ ["64 B", "1 KB"],
        (label = "64 B" → (orZero (Figures.ofInputs inputs .smallBandwidth)).TenfoldFits) ∧
          (label = "1 KB" → (orZero (Figures.ofInputs inputs .largeBandwidth)).TenfoldFits) := by
      intro label hlabel
      rw [← hlabels] at hlabel
      obtain ⟨b, hb, rfl⟩ := List.mem_map.1 hlabel
      exact (isFinite_bar_iff inputs generatedAt settings hc hb).1 (h c hc b hb) hslot
    exact ⟨(hfits "64 B" (by simp)).1 rfl, (hfits "1 KB" (by simp)).2 rfl⟩
  · rintro ⟨hsmall, hlarge⟩ c hc b hb
    rw [isFinite_bar_iff inputs generatedAt settings hc hb]
    exact fun _ => ⟨fun _ => hsmall, fun _ => hlarge⟩

/-- **All numbers are finite unless a bandwidth's tenfold is too large.**

Cards and rows have finite values, and so have all bars but those of a bandwidth of the
server whose tenfold does not stay below the limit.  Exactly then the data of the report
holds a `null`, and so does the list of charts that stands in the document. -/
theorem isFinite_assemble :
    (∀ c ∈ (assemble inputs generatedAt settings).cards, c.value.isFinite) ∧
    (∀ s ∈ (assemble inputs generatedAt settings).sections, ∀ row ∈ s.table.rows,
      row.value.isFinite) ∧
    (∀ c ∈ (assemble inputs generatedAt settings).charts, ∀ b ∈ c.bars,
      b.value.isFinite = true ↔ (c.slot = "sMbChart" →
        (b.label = "64 B" → (orZero (Figures.ofInputs inputs .smallBandwidth)).TenfoldFits) ∧
        (b.label = "1 KB" → (orZero (Figures.ofInputs inputs .largeBandwidth)).TenfoldFits))) ∧
    ((assemble inputs generatedAt settings).toJson.HoldsNull ↔
      ¬ ((orZero (Figures.ofInputs inputs .smallBandwidth)).TenfoldFits ∧
        (orZero (Figures.ofInputs inputs .largeBandwidth)).TenfoldFits)) ∧
    ((Json.array ((assemble inputs generatedAt settings).charts.map Chart.toJson)).HoldsNull ↔
      ¬ ((orZero (Figures.ofInputs inputs .smallBandwidth)).TenfoldFits ∧
        (orZero (Figures.ofInputs inputs .largeBandwidth)).TenfoldFits)) := by
  have hcards := isFinite_cards inputs generatedAt settings
  have hrows := isFinite_rows inputs generatedAt settings
  have hbars := isFinite_bars_iff inputs generatedAt settings
  refine ⟨hcards, hrows, fun c hc b hb => isFinite_bar_iff inputs generatedAt settings hc hb,
    ?_, ?_⟩
  · rw [holdsNull_toJson, ← hbars]
    exact not_congr ⟨fun h => h.bars, fun h => ⟨hcards, h, hrows⟩⟩
  · rw [holdsNull_charts, hbars]

/-- One run with small messages and a bandwidth of `10 ^ 308`. -/
def vastBandwidth : Inputs :=
  Inputs.empty.put ⟨.server, none, [⟨[("message_size_bytes", .ofNat 64),
    ("test", .ofString "server_single_client_throughput"),
    ("throughput_mb_sec", .ofBinary64 (.ofNat (Nat.pow 10 308)))]⟩]⟩

theorem not_tenfoldFits_vastBandwidth :
    ¬ (orZero (Figures.ofInputs vastBandwidth .smallBandwidth)).TenfoldFits := by
  have hfigure : Figures.ofInputs vastBandwidth .smallBandwidth =
      some (.ofNat (Nat.pow 10 308)) := by decide +kernel
  rw [hfigure, orZero, Option.getD_some, Binary64.TenfoldFits]
  decide +kernel

/-- The bandwidth is finite and its bar is not: the data of the report holds a `null`. -/
theorem holdsNull_vastBandwidth :
    (assemble vastBandwidth ⟨0, 0, secondNanos_pos⟩ (.new ⟨"results"⟩)).toJson.HoldsNull ∧
    ¬ (assemble vastBandwidth ⟨0, 0, secondNanos_pos⟩ (.new ⟨"results"⟩)).AllFinite := by
  have hnull := (isFinite_assemble vastBandwidth ⟨0, 0, secondNanos_pos⟩
    (.new ⟨"results"⟩)).2.2.2.1.2 fun h => not_tenfoldFits_vastBandwidth h.1
  exact ⟨hnull, (holdsNull_toJson _).1 hnull⟩

end Report

end BenchReport
