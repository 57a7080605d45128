import BenchReport.Proofs.Results.Separation
import BenchReport.Publication
import Mathlib.Data.List.Forall2

/-!
# A broken result file thins out its own section only

When the content of one suite's result file is replaced by any bytes, the report is still
made.  It differs from the report before in the figures that the suite shows, and in the
two rows of the cache table that are there only when their figures were measured.

## Main definitions

* `Card.SameFrame`, `Chart.SameFrame`, `Table.SameFrame`, `Section.SameFrame` — parts of a
  report that differ in the shown figures at most.
* `Report.DiffersOnlyIn` — two reports that differ in the figures of one suite at most.

## Main results

* `Outline.suite_of_mem_cards`, `Outline.suite_of_mem_bars`, `Outline.suite_of_mem_rows` —
  an outline shows the figures of its own suite.
* `Report.differsOnlyIn_ofFigures` — figures of one suite reach that suite's parts only.
* `Report.build_rewrite_differsOnlyIn` — **a result file influences its own suite's
  figures only, whatever is in it.**
-/

namespace BenchReport

/-! ### Parts of a report without the shown figures -/

/-- Two cards that differ in the shown figure at most. -/
structure Card.SameFrame (c c' : Card) : Prop where
  label : c'.label = c.label
  unit : c'.unit = c.unit
  tone : c'.tone = c.tone

/-- Two charts that differ in the values of their bars at most. -/
structure Chart.SameFrame (c c' : Chart) : Prop where
  slot : c'.slot = c.slot
  title : c'.title = c.title
  orientation : c'.orientation = c.orientation
  unit : c'.unit = c.unit
  bars : c'.bars.map (fun b => (b.label, b.color)) = c.bars.map fun b => (b.label, b.color)

/-- All of a row but its value. -/
def Row.frame (r : Row) : String × String × Nat × Bool := (r.label, r.unit, r.places, r.highlight)

/-- The labels of the rows that a table may lack: the cache suite has two. -/
def Suite.optionalLabels : Suite → List String
  | .cache => ["Flush (persist)", "Load (restore)"]
  | _ => []

/-- The rows that the table of a suite always has. -/
def Table.lastingRows (suite : Suite) (t : Table) : List Row :=
  t.rows.filter fun r => r.label ∉ suite.optionalLabels

/-- Two tables of a suite that differ in values and in the optional rows at most. -/
structure Table.SameFrame (suite : Suite) (t t' : Table) : Prop where
  title : t'.title = t.title
  rows : (t'.lastingRows suite).map Row.frame = (t.lastingRows suite).map Row.frame

/-- Two sections of a suite that differ in values and in the optional rows at most. -/
structure Section.SameFrame (s s' : Section) : Prop where
  suite : s'.suite = s.suite
  title : s'.title = s.title
  description : s'.description = s.description
  icon : s'.icon = s.icon
  located : s'.located = s.located
  charts : List.Forall₂ Chart.SameFrame s.charts s'.charts
  table : s.table.SameFrame s.suite s'.table

/-- Two reports that differ in the figures of one suite at most.  The cards of a suite are
those in its tone. -/
structure Report.DiffersOnlyIn (suite : Suite) (r r' : Report) : Prop where
  project : r'.project = r.project
  subtitle : r'.subtitle = r.subtitle
  generatedAt : r'.generatedAt = r.generatedAt
  timestamp : r'.timestamp = r.timestamp
  source : r'.source = r.source
  badges : r'.badges = r.badges
  cards : List.Forall₂ (fun c c' => c.SameFrame c' ∧ (c.tone ≠ suite.tone → c' = c))
    r.cards r'.cards
  sections : List.Forall₂ (fun s s' => s.SameFrame s' ∧ (s.suite ≠ suite → s' = s))
    r.sections r'.sections

/-! ### Outlines show figures of their own suite -/

namespace Outline

variable {suite : Suite}

theorem suite_of_mem_cards {c : CardOutline} (h : c ∈ (Outline.of suite).cards) :
    c.figure.suite = suite := by
  revert c
  cases suite <;> decide

theorem suite_of_mem_bars {c : ChartOutline} (hc : c ∈ (Outline.of suite).charts)
    {b : BarOutline} (h : b ∈ c.bars) : b.figure.suite = suite := by
  revert b
  revert c
  cases suite <;> decide

theorem suite_of_mem_rows {r : RowOutline} (h : r ∈ (Outline.of suite).rows) :
    r.figure.suite = suite := by
  revert r
  cases suite <;> decide

/-- The rows that may be left out have the labels of optional rows. -/
theorem label_of_optional {r : RowOutline} (h : r ∈ (Outline.of suite).rows)
    (hoptional : r.optional = true) : r.label ∈ suite.optionalLabels := by
  revert r
  cases suite <;> decide

end Outline

/-! ### Outlines filled with figures -/

variable {suite : Suite} {figures figures' : Figures}

theorem CardOutline.sameFrame_fill (c : CardOutline) (tone : Tone) :
    (c.fill tone figures).SameFrame (c.fill tone figures') :=
  ⟨rfl, rfl, rfl⟩

theorem ChartOutline.sameFrame_fill (c : ChartOutline) :
    (c.fill figures).SameFrame (c.fill figures') := by
  refine ⟨rfl, rfl, rfl, rfl, ?_⟩
  simp [fill, Chart.paint, List.zipIdx_map, Function.comp_def]

theorem ChartOutline.fill_congr {c : ChartOutline}
    (h : ∀ b ∈ c.bars, figures' b.figure = figures b.figure) :
    c.fill figures' = c.fill figures := by
  have hbars : (c.bars.map fun b => (b.label, b.value figures')) =
      c.bars.map fun b => (b.label, b.value figures) := by
    apply List.map_congr_left
    intro b hb
    rw [BarOutline.value, BarOutline.value, h b hb]
  rw [fill, fill, hbars]

theorem RowOutline.fill?_congr {r : RowOutline} (h : figures' r.figure = figures r.figure) :
    r.fill? figures' = r.fill? figures := by
  rw [fill?, fill?, value, value, h]

/-- A row that is not optional is there, and only its value depends on the figures. -/
theorem RowOutline.fill?_of_not_optional {r : RowOutline} (h : r.optional = false) :
    r.fill? figures =
      some ⟨r.label, orZero (r.value figures), r.unit, r.places, r.highlight⟩ := by
  rw [fill?, h, Bool.false_and, if_neg Bool.false_ne_true]

theorem RowOutline.label_of_fill? {r : RowOutline} {row : Row} (h : r.fill? figures = some row) :
    row.label = r.label := by
  rw [fill?] at h
  split at h
  · cases h
  · exact Option.some.inj h ▸ rfl

/-- What the lasting rows of an outline show besides values. -/
theorem map_frame_lastingRows (suite : Suite) (rows : List RowOutline)
    (h : ∀ r ∈ rows, r.optional = true → r.label ∈ suite.optionalLabels) (figures : Figures) :
    (((rows.filterMap fun r => r.fill? figures).filter
        fun r => r.label ∉ suite.optionalLabels).map Row.frame) =
      (rows.filter fun r => r.label ∉ suite.optionalLabels).map
        fun r => (r.label, r.unit, r.places, r.highlight) := by
  induction rows with
  | nil => rfl
  | cons r rows ih =>
    have ih := ih fun other hother => h other (List.mem_cons_of_mem _ hother)
    by_cases hlabel : r.label ∈ suite.optionalLabels
    · -- the row is not compared, whether it is there or not
      cases hrow : r.fill? figures with
      | none => simpa [hrow, hlabel] using ih
      | some row =>
        have hsame := RowOutline.label_of_fill? hrow
        simpa [hrow, hlabel, hsame] using ih
    · have hoptional : r.optional = false := by
        rw [Bool.eq_false_iff]
        exact fun hoptional => hlabel (h r List.mem_cons_self hoptional)
      rw [List.filterMap_cons, RowOutline.fill?_of_not_optional hoptional]
      simpa [hlabel, Row.frame] using ih

namespace Outline

theorem fillCards_congr (h : ∀ f : Figure, f.suite = suite → figures' f = figures f) :
    (Outline.of suite).fillCards suite.tone figures' =
      (Outline.of suite).fillCards suite.tone figures := by
  apply List.map_congr_left
  intro c hc
  rw [CardOutline.fill, CardOutline.fill, h _ (suite_of_mem_cards hc)]

theorem fillCharts_congr (h : ∀ f : Figure, f.suite = suite → figures' f = figures f) :
    (Outline.of suite).fillCharts figures' = (Outline.of suite).fillCharts figures :=
  List.map_congr_left fun _ hc =>
    ChartOutline.fill_congr fun _ hb => h _ (suite_of_mem_bars hc hb)

theorem fillTable_congr (h : ∀ f : Figure, f.suite = suite → figures' f = figures f) :
    (Outline.of suite).fillTable figures' = (Outline.of suite).fillTable figures := by
  have hrows : (Outline.of suite).rows.filterMap (fun r => r.fill? figures') =
      (Outline.of suite).rows.filterMap fun r => r.fill? figures :=
    List.filterMap_congr fun _ hr => RowOutline.fill?_congr (h _ (suite_of_mem_rows hr))
  rw [fillTable, fillTable, hrows]

end Outline

/-! ### Reports of figures -/

theorem Section.sameFrame_ofFigures (suite : Suite) (located : Bool) (figures figures' : Figures) :
    (Section.ofFigures suite located figures).SameFrame
      (Section.ofFigures suite located figures') where
  suite := rfl
  title := rfl
  description := rfl
  icon := rfl
  located := rfl
  charts := by
    rw [ofFigures, ofFigures, Outline.fillCharts, Outline.fillCharts, List.forall₂_map_left_iff,
      List.forall₂_map_right_iff]
    exact List.forall₂_same.2 fun c _ => c.sameFrame_fill
  table := by
    refine ⟨rfl, ?_⟩
    have hrows := map_frame_lastingRows suite (Outline.of suite).rows
      fun _ => Outline.label_of_optional
    exact (hrows figures').trans (hrows figures).symm

theorem Section.ofFigures_congr {located : Bool}
    (h : ∀ f : Figure, f.suite = suite → figures' f = figures f) :
    Section.ofFigures suite located figures' = Section.ofFigures suite located figures := by
  rw [ofFigures, ofFigures, Outline.fillCharts_congr h, Outline.fillTable_congr h]

namespace Report

/-- **Figures of one suite reach that suite's parts only.** -/
theorem differsOnlyIn_ofFigures (h : ∀ f : Figure, f.suite ≠ suite → figures' f = figures f)
    (located : Suite → Bool) (source : Option Instant) (generatedAt : Instant)
    (settings : Settings) :
    (ofFigures figures located source generatedAt settings).DiffersOnlyIn suite
      (ofFigures figures' located source generatedAt settings) where
  project := rfl
  subtitle := rfl
  generatedAt := rfl
  timestamp := rfl
  source := rfl
  badges := rfl
  cards := by
    have hcards : ∀ other : Suite, List.Forall₂
        (fun c c' => Card.SameFrame c c' ∧ (c.tone ≠ suite.tone → c' = c))
        ((Outline.of other).fillCards other.tone figures)
        ((Outline.of other).fillCards other.tone figures') := by
      intro other
      by_cases hother : other = suite
      · rw [Outline.fillCards, Outline.fillCards, List.forall₂_map_left_iff,
          List.forall₂_map_right_iff, hother]
        exact List.forall₂_same.2 fun c _ =>
          ⟨c.sameFrame_fill _, fun htone => absurd rfl htone⟩
      · rw [Outline.fillCards_congr fun f hf => h f (hf ▸ hother)]
        exact List.forall₂_same.2 fun c _ => ⟨⟨rfl, rfl, rfl⟩, fun _ => rfl⟩
    rw [ofFigures, ofFigures]
    -- the cards of all suites are those of one suite after the other
    induction Suite.all with
    | nil => exact .nil
    | cons other rest ih => exact List.rel_append (hcards other) ih
  sections := by
    rw [ofFigures, ofFigures, List.forall₂_map_left_iff, List.forall₂_map_right_iff]
    refine List.forall₂_same.2 fun other _ => ⟨Section.sameFrame_ofFigures .., fun hother => ?_⟩
    exact Section.ofFigures_congr fun f hf => h f (hf ▸ hother)

/-! ### Reports of stores -/

/-- Inputs with the same files report the same but for the suites with other records. -/
theorem differsOnlyIn_assemble {a b : Inputs}
    (hfiles : ∀ other, (b.results other).file = (a.results other).file)
    (hrecords : ∀ other ≠ suite, (b.results other).records = (a.results other).records)
    (generatedAt : Instant) (settings : Settings) :
    (assemble a generatedAt settings).DiffersOnlyIn suite
      (assemble b generatedAt settings) := by
  have hlocated : (fun other => (b.results other).isLocated) =
      fun other => (a.results other).isLocated := by
    funext other
    rw [SuiteResults.isLocated, SuiteResults.isLocated, hfiles]
  have hsource : b.source = a.source := by
    simp only [Inputs.source, Inputs.toList, List.findSome?_map, Function.comp_def, hfiles]
  rw [assemble, assemble, hlocated, hsource]
  -- the records go into a report as figures only
  refine differsOnlyIn_ofFigures (fun f hf => ?_) _ _ _ _
  rw [Figures.ofInputs, Figures.ofInputs, hrecords f.suite hf]

/-- The report that is made of a store. -/
theorem run_build (settings : Settings) (w : World) :
    ((build settings).run w).1 = assemble ((Inputs.collect settings).run w).1 w.now settings := by
  obtain ⟨reports, hrun⟩ := Inputs.looks_collectAll settings Suite.all Inputs.empty w
  rw [build, Job.run_bind, Inputs.collect, hrun]
  rfl

/-- **A result file influences its own suite's figures only, whatever is in it.**  The
folder has no links, and `file` is the result file that is found for `suite`; its content
becomes any bytes, its name and the time of its last change stay.  The report is made, and
differs from the report before in the figures of that suite only. -/
theorem build_rewrite_differsOnlyIn (settings : Settings) (w : World) (suite : Suite)
    (file : ResultFile) (content : ByteArray) (hnames : w.files.WellNamed)
    (hlinks : w.files.Linkless settings.resultsFolder)
    (hfile : ((ResultFile.locate settings.resultsFolder suite.key).run w).1 = some file) :
    let rewritten := { w with files := w.files.rewrite file.path content }
    rewritten.files.read file.path = .ok content ∧
      rewritten.files.status file.path = .ok (.file content.size file.modified) ∧
      ((build settings).run w).1.DiffersOnlyIn suite ((build settings).run rewritten).1 := by
  intro rewritten
  obtain ⟨reports, hlocate⟩ :=
    ResultFile.looks_locate settings.resultsFolder suite.key w
  rw [hlocate] at hfile
  obtain ⟨location, text, old, -, -, hplace⟩ :=
    ResultFile.exists_place_of_newestIn hnames hlinks suite.key_toList_ne_nil hfile
  refine ⟨Store.read_rewrite hplace content, Store.status_rewrite hplace content, ?_⟩
  rw [run_build, run_build]
  apply differsOnlyIn_assemble
  · intro other
    rw [Inputs.results_collect, Inputs.results_collect]
    exact SuiteResults.file_inStore_rewrite hnames hlinks hfile content other
  · intro other hother
    rw [Inputs.results_collect, Inputs.results_collect]
    rw [SuiteResults.inStore_rewrite_of_ne hnames hlinks hfile hother]

/-- A folder with a result file of the cache and one of the server, both of empty lists. -/
def twoFiles : Store :=
  ((Store.empty.put [.text "results"] .folder).put [.text "cache_1.json", .text "results"]
    (.file "[]".toUTF8 ⟨1, 0, secondNanos_pos⟩)).put [.text "server_1.json", .text "results"]
    (.file "[]".toUTF8 ⟨2, 0, secondNanos_pos⟩)

theorem twoFiles_wellNamed : twoFiles.WellNamed := by
  have hfolder : Location.Slashless [.text "results"] := Location.slashless_nil.cons (by decide)
  exact ((Store.wellNamed_empty.put hfolder _).put (hfolder.cons (by decide)) _).put
    (hfolder.cons (by decide)) _

theorem twoFiles_entries : twoFiles.entries =
    [([.text "results"], .folder),
      ([.text "cache_1.json", .text "results"], .file "[]".toUTF8 ⟨1, 0, secondNanos_pos⟩),
      ([.text "server_1.json", .text "results"], .file "[]".toUTF8 ⟨2, 0, secondNanos_pos⟩)] :=
  rfl

theorem twoFiles_ne_link (location : Location) (target : Path) :
    twoFiles.node? location ≠ some (.link target) := by
  cases location with
  | nil => exact fun h => nomatch h
  | cons name folder =>
    intro h
    obtain ⟨before, after, hentries, -⟩ := List.lookup_eq_some_iff.1 h
    have hmem : (name :: folder, Node.link target) ∈ twoFiles.entries := by simp [hentries]
    simp [twoFiles_entries] at hmem

theorem twoFiles_linkless : twoFiles.Linkless ⟨"results"⟩ :=
  fun _ _ target _ => twoFiles_ne_link _ target

/-- A byte that is no text in place of the cache's list. -/
theorem build_twoFiles_differsOnlyIn :
    ((build (.new ⟨"results"⟩)).run (.quiet twoFiles ⟨3, 0, secondNanos_pos⟩)).1.DiffersOnlyIn
      .cache ((build (.new ⟨"results"⟩)).run (.quiet
        (twoFiles.rewrite ⟨"results/cache_1.json"⟩ ⟨#[.ofNat 255]⟩) ⟨3, 0, secondNanos_pos⟩)).1 :=
  (build_rewrite_differsOnlyIn (.new ⟨"results"⟩) (.quiet twoFiles ⟨3, 0, secondNanos_pos⟩) .cache
    ⟨⟨"results/cache_1.json"⟩, ⟨1, 0, secondNanos_pos⟩⟩ ⟨#[.ofNat 255]⟩ twoFiles_wellNamed
    twoFiles_linkless (by decide +kernel)).2.2

end Report

end BenchReport
