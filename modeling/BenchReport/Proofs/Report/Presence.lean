import BenchReport.Proofs.Binary64.Scaling
import BenchReport.Proofs.Catalogue.FirstReport
import BenchReport.Proofs.Report.Isolation
import BenchReport.Proofs.Text.Digits

/-!
# An absent figure is not a zero

A figure is absent when the first report of its run does not hold a finite number for it;
a measured zero is present.  Cards tell the two apart by their text, the optional rows of
the cache table by being there, and all other rows show a zero for an absent figure.

## Main definitions

* `Json.ReadsAs` — the values that are read as a finite number.
* `Label.IsDecimal` — a text is a decimal, with or without the mark of a unit.
* `Card.Tells` — a card tells whether its figure is there.

## Main results

* `Figures.ofInputs_eq_some_iff` — when a figure is there.
* `Label.isDecimal_fixedText` — a finite number is shown as a decimal.
* `CardOutline.tells_fill` — every card tells whether its figure is there.
* `RowOutline.toList_fill?_measured` — an optional row is there when its figure is.
* `Report.presence_assemble` — **presence is never taken for zero.**
-/

namespace BenchReport

/-! ### Values that are numbers -/

/-- A value of a field is read as a finite number: a number as it is, a text as the numeral
between its blanks, and `true` as one.  Everything else is not read. -/
inductive Json.ReadsAs : Json → Binary64 → Prop where
  | number (x : JsonNumber) : x.toBinary64.isFinite → ReadsAs (.scalar (.number x)) x.toBinary64
  | text (s : String) (v : Binary64) : Numeral.parse? (Text.trim s.toList) = some v →
      v.isFinite → ReadsAs (.scalar (.string s)) v
  | yes : ReadsAs (.scalar (.bool true)) 1

theorem Record.readsAs_iff (value : Json) (v : Binary64) :
    value.ReadsAs v ↔ Record.numberOf? value = some v ∧ v.isFinite := by
  constructor
  · rintro (⟨x, hx⟩ | ⟨s, v, hv, hfinite⟩ | _)
    · exact ⟨rfl, hx⟩
    · exact ⟨hv, hfinite⟩
    · refine ⟨rfl, ?_⟩
      rw [show (1 : Binary64) = .ofNat 1 from rfl, Binary64.ofNat_eq_finite (by decide)]
      rfl
  · rintro ⟨hv, hfinite⟩
    unfold Record.numberOf? at hv
    split at hv
    · obtain rfl := Option.some.inj hv
      exact .number _ hfinite
    · exact .text _ _ hv hfinite
    · obtain rfl := Option.some.inj hv
      exact .yes
    · cases hv

theorem Record.figure?_eq_some_iff (r : Record) (field : String) (v : Binary64) :
    r.figure? field = some v ↔ ∃ value, r.get? field = some value ∧ value.ReadsAs v := by
  rw [Record.figure?, Option.filter_eq_some_iff, Option.bind_eq_some_iff]
  constructor
  · rintro ⟨⟨value, hvalue, hnumber⟩, hfinite⟩
    exact ⟨value, hvalue, (readsAs_iff value v).2 ⟨hnumber, hfinite⟩⟩
  · rintro ⟨value, hvalue, hreads⟩
    obtain ⟨hnumber, hfinite⟩ := (readsAs_iff value v).1 hreads
    exact ⟨⟨value, hvalue, hnumber⟩, hfinite⟩

/-- What is looked up for a run is its first report. -/
theorem Source.find?_accepts_eq_some_iff {run : Run} (hsize : ∀ n ∈ run.size, n < 2 ^ 53)
    (field : String) (records : List Record) (r : Record) :
    records.find? (Source.mk run.scenario (run.size.map .ofNat) field).accepts = some r ↔
      run.IsFirst records r := by
  have haccepts : ∀ q, (Source.mk run.scenario (run.size.map .ofNat) field).accepts q = true ↔
      run.ReportedBy q := accepts_iff hsize
  rw [List.find?_eq_some_iff_append]
  constructor
  · rintro ⟨hr, before, after, hrecords, hbefore⟩
    refine ⟨before, after, hrecords, (haccepts r).1 hr, fun q hq hreport => ?_⟩
    exact absurd ((haccepts q).2 hreport) (by simpa using hbefore q hq)
  · rintro ⟨before, after, hrecords, hr, hbefore⟩
    refine ⟨(haccepts r).2 hr, before, after, hrecords, fun q hq => ?_⟩
    rw [Bool.not_eq_true', Bool.eq_false_iff]
    exact fun h => hbefore q hq ((haccepts q).1 h)

/-- **A figure is there when the first report of its run holds a finite number for it.** -/
theorem Figures.ofInputs_eq_some_iff (inputs : Inputs) {run : Run} (hrun : run ∈ catalogue)
    {e : String × Figure} (he : e ∈ run.fields) (v : Binary64) :
    Figures.ofInputs inputs e.2 = some v ↔
      ∃ r value, run.IsFirst (inputs.results run.suite).records r ∧ r.get? e.1 = some value ∧
        value.ReadsAs v := by
  obtain ⟨hsuite, hsource⟩ := source_of_mem_catalogue run hrun e he
  have hfirst := Source.find?_accepts_eq_some_iff (size_lt_of_mem_catalogue run hrun) e.1
    (inputs.results run.suite).records
  rw [Figures.ofInputs, hsuite, hsource, Source.read, Source.record_eq_find?]
  cases hfind : (inputs.results run.suite).records.find?
      (Source.mk run.scenario (run.size.map .ofNat) e.1).accepts with
  | none =>
    rw [hfind] at hfirst
    rw [Option.getD_none, Source.figure?_empty]
    constructor
    · intro h
      cases h
    · rintro ⟨r, value, hr, -, -⟩
      cases (hfirst r).2 hr
  | some r =>
    rw [hfind] at hfirst
    rw [Option.getD_some, Record.figure?_eq_some_iff]
    constructor
    · rintro ⟨value, hvalue, hreads⟩
      exact ⟨r, value, (hfirst r).1 rfl, hvalue, hreads⟩
    · rintro ⟨q, value, hq, hvalue, hreads⟩
      obtain rfl := Option.some.inj ((hfirst q).2 hq)
      exact ⟨value, hvalue, hreads⟩

/-! ### Texts of figures -/

/-- A text is a decimal: a minus sign or none, digits, a point, digits, and after them
nothing or the mark of thousands, millions or a percentage. -/
def Label.IsDecimal (text : String) : Prop :=
  ∃ sign ∈ ["", "-"], ∃ mark ∈ ["", "K", "M", "%"], ∃ whole fraction : List Char,
    whole ≠ [] ∧ fraction ≠ [] ∧ (∀ c ∈ whole ++ fraction, c.isDigit) ∧
      text = sign ++ String.ofList whole ++ "." ++ String.ofList fraction ++ mark

namespace Label

/-- A finite number with some places is shown as a decimal. -/
theorem isDecimal_fixedText {x : Binary64} (hx : x.isFinite) {places : Nat} (hplaces : places ≠ 0)
    {mark : String} (hmark : mark ∈ ["", "K", "M", "%"]) :
    IsDecimal (x.fixedText places ++ mark) := by
  obtain ⟨s, m, rfl⟩ := Binary64.exists_eq_finite hx
  obtain ⟨d, hd⟩ : ∃ d, d = m.toFixed s places := ⟨_, rfl⟩
  have hd' : d.places = places := by rw [hd]; rfl
  refine ⟨String.ofList d.signPart, ?_, mark, hmark, d.wholeDigits, d.fractionDigits,
    Text.digits_ne_nil _, ?_, ?_, ?_⟩
  · rw [Fixed.signPart]
    cases d.negative <;> simp
  · rw [Fixed.fractionDigits, if_neg (hd' ▸ hplaces)]
    exact Text.zeroPadded_ne_nil _ _
  · intro c hc
    rcases List.mem_append.1 hc with hc | hc
    · exact Text.isDigit_of_mem_digits hc
    · rw [Fixed.fractionDigits, if_neg (hd' ▸ hplaces)] at hc
      exact Text.isDigit_of_mem_zeroPadded hc
  · rw [Binary64.fixedText, ← hd, Fixed.chars, Fixed.fractionPart, if_neg (hd' ▸ hplaces)]
    apply String.toList_inj.1
    simp

/-- No decimal is one of the texts for what is no number. -/
theorem IsDecimal.notMem {text : String} (h : IsDecimal text) :
    text ∉ ["N/A", "inf", "-inf", "NaN"] := by
  obtain ⟨sign, -, mark, -, whole, fraction, -, -, -, rfl⟩ := h
  -- a decimal has a point
  have hpoint : '.' ∈ (sign ++ String.ofList whole ++ "." ++ String.ofList fraction ++
      mark).toList := by simp
  intro hmem
  revert hpoint
  simp only [List.mem_cons, List.not_mem_nil, or_false] at hmem
  rcases hmem with h | h | h | h <;> rw [h] <;> decide

end Label

/-- A finite number is finite in every scale. -/
theorem Scale.isFinite_apply (scale : Scale) {x : Binary64} (h : x.isFinite) :
    (scale.apply x).isFinite := by
  cases scale with
  | plain => exact h
  | thousands => exact (Binary64.isFinite_div_ofNat x (by decide) (by decide)).trans h
  | millions => exact (Binary64.isFinite_div_ofNat x (by decide) (by decide)).trans h

theorem Scale.suffix_mem (scale : Scale) : scale.suffix ∈ ["", "K", "M", "%"] := by
  cases scale <;> decide

/-! ### Cards and rows -/

/-- A card tells whether its figure is there: it shows the mark for an absent figure
exactly when the figure is absent, and then its value is zero; a figure that is there is
finite, is the value, and is shown as a decimal. -/
structure Card.Tells (c : Card) (x : Option Binary64) : Prop where
  absent : c.display = "N/A" ↔ x = none
  zero : x = none → c.value = 0
  present : ∀ v, x = some v → v.isFinite ∧ c.value = v ∧ Label.IsDecimal c.display ∧
    c.display ∉ ["N/A", "inf", "-inf", "NaN"]

theorem CardOutline.isDecimal_text (c : CardOutline) {v : Binary64} (hv : v.isFinite) :
    Label.IsDecimal (c.text (some v)) := by
  rw [text]
  split
  · rw [Label.percentFigure, Label.orNotAvailable, if_pos hv]
    exact Label.isDecimal_fixedText hv (by decide) (by decide)
  · rw [Label.figure, Label.orNotAvailable, if_pos hv]
    exact Label.isDecimal_fixedText (Scale.isFinite_apply _ hv) (by decide) (Scale.suffix_mem _)

/-- **Every card tells whether its figure is there.** -/
theorem CardOutline.tells_fill (c : CardOutline) (tone : Tone) {figures : Figures}
    (hfinite : ∀ v, figures c.figure = some v → v.isFinite) :
    (c.fill tone figures).Tells (figures c.figure) := by
  rw [fill]
  cases hx : figures c.figure with
  | none =>
    refine ⟨iff_of_true ?_ rfl, fun _ => rfl, fun v h => absurd h.symm (Option.some_ne_none v)⟩
    rw [text]
    split <;> rfl
  | some v =>
    have hdecimal := c.isDecimal_text (hfinite v hx)
    refine ⟨iff_of_false ?_ (Option.some_ne_none v),
      fun h => absurd h (Option.some_ne_none v), ?_⟩
    · exact fun h => hdecimal.notMem (h ▸ List.mem_cons_self)
    · rintro _ ⟨⟩
      exact ⟨hfinite v hx, rfl, hdecimal, hdecimal.notMem⟩

theorem Figures.isFinite_of_ofInputs {inputs : Inputs} {f : Figure} {v : Binary64}
    (h : Figures.ofInputs inputs f = some v) : v.isFinite :=
  (Option.filter_eq_some_iff.1 h).2

theorem RowOutline.toList_fill?_main (label : String) (f : Figure) (unit : String) (places : Nat)
    (figures : Figures) : ((main label f unit places).fill? figures).toList =
      [⟨label, orZero (figures f), unit, places, true⟩] := rfl

/-- **An optional row is there when its figure is**, with the whole part of the figure. -/
theorem RowOutline.toList_fill?_measured (label : String) (f : Figure) (unit : String)
    (figures : Figures) :
    ((measured label f unit).fill? figures).toList =
      (figures f).toList.map fun v => ⟨label, v.trunc, unit, 0, false⟩ := by
  rw [measured, fill?, value]
  cases figures f <;> rfl

/-! ### Reports -/

/-- The cards of a report and the figures they show. -/
def cardFigures : List (String × Figure) := [
  ("Server conn/sec", .connectionRate), ("Burst connections", .burstRate),
  ("Single-client throughput", .smallMessageRate), ("100-client aggregate", .aggregateRate),
  ("Cache GET", .getRate), ("Cache SET", .setRate), ("HTTP proxy", .singleBackendRate),
  ("Proxy overhead", .overhead), ("WS handshakes", .handshakeRate)]

/-- The rows of a suite's table, with their values.  A zero stands for an absent figure
except in the two optional rows, which are there when their figures are. -/
def shownRows (figures : Figures) : Suite → List (String × Binary64)
  | .server => [
      ("Conn rate (sustained)", (figures .connectionRate).getD 0),
      ("Conn rate (burst 5K)", (figures .burstRate).getD 0),
      ("Avg connect latency", (figures .connectLatency).getD 0),
      ("Max concurrent", ((figures .burstPeak).map .trunc).getD 0),
      ("64 B throughput", (figures .smallMessageRate).getD 0),
      ("1 KB throughput", (figures .largeMessageRate).getD 0),
      ("1 KB bandwidth", (figures .largeBandwidth).getD 0),
      ("100-client aggregate", (figures .aggregateRate).getD 0)]
  | .cache => [
      ("SET throughput", (figures .setRate).getD 0),
      ("GET throughput", (figures .getRate).getD 0),
      ("Mixed 80/20 GET/SET", (figures .mixedRate).getD 0),
      ("20-client concurrent", (figures .cacheClientsRate).getD 0)] ++
      (figures .flushTime).toList.map (fun v => ("Flush (persist)", v.trunc)) ++
      (figures .loadTime).toList.map (fun v => ("Load (restore)", v.trunc))
  | .proxy => [
      ("HTTP single backend", (figures .singleBackendRate).getD 0),
      ("HTTP load balancing", (figures .balancedRate).getD 0),
      ("TCP throughput", (figures .forwardedRate).getD 0),
      ("TCP bandwidth", (figures .forwardedBandwidth).getD 0),
      ("20-client concurrent", (figures .proxyClientsRate).getD 0),
      ("Named backend", (figures .namedBackendRate).getD 0),
      ("Proxy overhead", (figures .overhead).getD 0)]
  | .webSocket => [
      ("Handshake throughput", (figures .handshakeRate).getD 0),
      ("WS + TCP coexistence", (figures .coexistenceRate).getD 0),
      ("20-client concurrent", (figures .handshakeClientsRate).getD 0)]

theorem Outline.map_fillTable (figures : Figures) (suite : Suite) :
    (((Outline.of suite).fillTable figures).rows.map fun row => (row.label, row.value)) =
      shownRows figures suite := by
  cases suite with
  | cache =>
    rw [fillTable, List.filterMap_eq_flatMap_toList]
    simp only [of, cache, List.flatMap_cons, List.flatMap_nil, RowOutline.toList_fill?_main,
      RowOutline.toList_fill?_measured]
    simp [shownRows, orZero, Function.comp_def]
  | server => rfl
  | proxy => rfl
  | webSocket => rfl

/-- Truncation leads to the next whole number on the way to zero. -/
theorem Binary64.exists_position_trunc {x : Binary64} (hx : x.isFinite) :
    ∃ p ∈ x.position, x.trunc.position = some (p.tdiv one * one) := by
  obtain ⟨s, m, rfl⟩ := exists_eq_finite hx
  obtain ⟨q, hq, hunits⟩ := finite_trunc s m
  refine ⟨signed s m.units, rfl, ?_⟩
  rw [hq, position, hunits, signed, signed]
  split
  · rw [Int.neg_tdiv, Int.natCast_mul, ← Int.neg_mul]
    rfl
  · rw [Int.natCast_mul]
    rfl

namespace Report

variable (inputs : Inputs) (generatedAt : Instant) (settings : Settings)

theorem tells_cards :
    List.Forall₂ (fun e c => c.label = e.1 ∧ c.Tells (Figures.ofInputs inputs e.2)) cardFigures
      (assemble inputs generatedAt settings).cards := by
  have hlist : cardFigures =
      Suite.all.flatMap fun s => (Outline.of s).cards.map fun c => (c.label, c.figure) := rfl
  rw [hlist, assemble, ofFigures]
  -- the cards of all suites are those of one suite after the other
  induction Suite.all with
  | nil => exact .nil
  | cons suite rest ih =>
    refine List.rel_append ?_ ih
    show List.Forall₂ _ ((Outline.of suite).cards.map _) ((Outline.of suite).cards.map _)
    rw [List.forall₂_map_left_iff, List.forall₂_map_right_iff]
    exact List.forall₂_same.2 fun c _ =>
      ⟨rfl, c.tells_fill suite.tone fun _ => Figures.isFinite_of_ofInputs⟩

/-- **Presence is never taken for zero.**

A figure is there exactly when the first report of its run holds a field that is read as a
finite number.  Each of the nine cards shows `N/A` exactly when its figure is absent, and its
value is then zero; otherwise the value is the figure and the text a decimal.  The tables
have the rows of `shownRows`: all but two are always there, with a zero for an absent
figure, and the two of the cache's times are there when their figures are, a zero included.
Three rows show whole parts, which lie towards zero. -/
theorem presence_assemble :
    (∀ run ∈ catalogue, ∀ e ∈ run.fields, ∀ v, Figures.ofInputs inputs e.2 = some v ↔
      ∃ r value, run.IsFirst (inputs.results run.suite).records r ∧ r.get? e.1 = some value ∧
        value.ReadsAs v) ∧
    List.Forall₂ (fun e c => c.label = e.1 ∧ c.Tells (Figures.ofInputs inputs e.2)) cardFigures
      (assemble inputs generatedAt settings).cards ∧
    ((assemble inputs generatedAt settings).sections.map fun s =>
        (s.suite, s.table.rows.map fun row => (row.label, row.value))) =
      Suite.all.map (fun suite => (suite, shownRows (Figures.ofInputs inputs) suite)) ∧
    ∀ f v, Figures.ofInputs inputs f = some v → v.trunc.isFinite ∧
      ∃ p ∈ v.position, v.trunc.position = some (p.tdiv Binary64.one * Binary64.one) := by
  refine ⟨fun run hrun e he => Figures.ofInputs_eq_some_iff inputs hrun he,
    tells_cards inputs generatedAt settings, ?_, ?_⟩
  · have hsections : (assemble inputs generatedAt settings).sections = Suite.all.map fun suite =>
        Section.ofFigures suite (inputs.results suite).isLocated (Figures.ofInputs inputs) := rfl
    rw [hsections, List.map_map]
    apply List.map_congr_left
    intro suite _
    exact congrArg (suite, ·) (Outline.map_fillTable (Figures.ofInputs inputs) suite)
  · intro f v hv
    have hfinite := Figures.isFinite_of_ofInputs hv
    exact ⟨(Binary64.isFinite_trunc v).trans hfinite, Binary64.exists_position_trunc hfinite⟩

end Report

end BenchReport
