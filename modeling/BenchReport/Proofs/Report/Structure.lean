import BenchReport.Proofs.Report.Isolation
import BenchReport.Proofs.Results.Given
import Mathlib.Data.List.Nodup

/-!
# Every report has the same structure

What a report is made of does not depend on the results: its cards, sections, charts and rows come
from outlines, and results only fill them in.  Whatever was measured, and whenever the report is
made, two reports differ in shown figures and in the two optional rows of the cache table.

## Main definitions

* `Report.frame` — all of the cards and sections but figures and optional rows.
* `Report.Structured` — the parts of a report can be told apart and are found by their names.

## Main results

* `Report.frame_ofFigures` — figures do not change the frame.
* `Outline.frames_fillTable` — the optional rows come last, and in one order.
* `Report.structured_ofFigures` — every report of figures is structured.
* `Report.structure_assemble` — **every report has the same structure.**
-/

namespace BenchReport

/-! ### Frames -/

/-- All of a card but its figure. -/
def Card.frame (c : Card) : String × String × Tone := (c.label, c.unit, c.tone)

/-- All of a chart but the values of its bars. -/
structure Chart.Frame where
  slot : String
  title : String
  orientation : Orientation
  unit : String
  /-- The labels and the colours of the bars. -/
  bars : List (String × String)

/-- All of a section but figures, optional rows and whether there is a result file. -/
structure Section.Frame where
  suite : Suite
  title : String
  description : String
  icon : String
  charts : List Chart.Frame
  tableTitle : String
  rows : List (String × String × Nat × Bool)

/-- All of the cards and sections but figures, optional rows and whether there are result
files. -/
structure Report.Frame where
  cards : List (String × String × Tone)
  sections : List Section.Frame

def Chart.frame (c : Chart) : Chart.Frame :=
  ⟨c.slot, c.title, c.orientation, c.unit, c.bars.map fun b => (b.label, b.color)⟩

def Section.frame (s : Section) : Section.Frame :=
  ⟨s.suite, s.title, s.description, s.icon, s.charts.map Chart.frame, s.table.title,
    (s.table.lastingRows s.suite).map Row.frame⟩

def Report.frame (r : Report) : Report.Frame :=
  ⟨r.cards.map Card.frame, r.sections.map Section.frame⟩

theorem Card.SameFrame.frame_eq {c c' : Card} (h : c.SameFrame c') : c.frame = c'.frame := by
  rw [frame, frame, h.label, h.unit, h.tone]

theorem Chart.SameFrame.frame_eq {c c' : Chart} (h : c.SameFrame c') : c.frame = c'.frame := by
  rw [frame, frame, h.slot, h.title, h.orientation, h.unit, h.bars]

theorem Section.SameFrame.frame_eq {s s' : Section} (h : s.SameFrame s') :
    s.frame = s'.frame := by
  have hcharts : s.charts.map Chart.frame = s'.charts.map Chart.frame := by
    rw [← List.forall₂_eq_eq_eq, List.forall₂_map_left_iff, List.forall₂_map_right_iff]
    exact h.charts.imp fun _ _ => Chart.SameFrame.frame_eq
  rw [frame, frame, hcharts, h.suite, h.title, h.description, h.icon, h.table.title,
    h.table.rows]

/-! ### Rows -/

/-- The rows that a table may lack, without their values. -/
def Suite.optionalRows : Suite → List (String × String × Nat × Bool)
  | .cache => [("Flush (persist)", "ms", 0, false), ("Load (restore)", "ms", 0, false)]
  | _ => []

variable {figures figures' : Figures}

/-- All of a row but its value. -/
def RowOutline.frame (r : RowOutline) : String × String × Nat × Bool :=
  (r.label, r.unit, r.places, r.highlight)

theorem RowOutline.frame_of_fill? {r : RowOutline} {row : Row} (h : r.fill? figures = some row) :
    row.frame = r.frame := by
  rw [fill?] at h
  split at h
  · cases h
  · exact Option.some.inj h ▸ rfl

theorem RowOutline.exists_label_of_mem {rows : List RowOutline} {row : Row}
    (h : row ∈ rows.filterMap fun r => r.fill? figures) : ∃ r ∈ rows, row.label = r.label := by
  obtain ⟨r, hr, hfill⟩ := List.mem_filterMap.1 h
  exact ⟨r, hr, label_of_fill? hfill⟩

/-- Rows are left out, but their order is kept. -/
theorem RowOutline.frames_sublist (rows : List RowOutline) (figures : Figures) :
    ((rows.filterMap fun r => r.fill? figures).map Row.frame).Sublist
      (rows.map RowOutline.frame) := by
  induction rows with
  | nil => exact .slnil
  | cons r rows ih =>
    rw [List.filterMap_cons, List.map_cons]
    cases hrow : r.fill? figures with
    | none => exact ih.cons _
    | some row =>
      rw [List.map_cons, frame_of_fill? hrow]
      exact ih.cons_cons _

namespace Outline

/-- The rows that may be left out come last. -/
theorem rows_eq_append (suite : Suite) : ∃ lasting optional,
    (Outline.of suite).rows = lasting ++ optional ∧
    (∀ r ∈ lasting, r.label ∉ suite.optionalLabels) ∧
    (∀ r ∈ optional, r.label ∈ suite.optionalLabels) ∧
    optional.map RowOutline.frame = suite.optionalRows := by
  refine ⟨(Outline.of suite).rows.filter (!·.optional), (Outline.of suite).rows.filter (·.optional),
    ?_⟩
  cases suite <;> refine ⟨rfl, by decide, by decide, rfl⟩

/-- The table of a suite has its lasting rows first, and then optional rows in one order. -/
theorem frames_fillTable (suite : Suite) (figures : Figures) : ∃ optional,
    ((Outline.of suite).fillTable figures).rows.map Row.frame =
      (((Outline.of suite).fillTable figures).lastingRows suite).map Row.frame ++ optional ∧
    optional.Sublist suite.optionalRows := by
  obtain ⟨lasting, optional, hrows, hlasting, hoptional, hframes⟩ := rows_eq_append suite
  refine ⟨(optional.filterMap fun r => r.fill? figures).map Row.frame, ?_,
    hframes ▸ RowOutline.frames_sublist optional figures⟩
  -- so dropping the optional labels keeps the first rows, and none of those behind them
  have hkept : (lasting.filterMap fun r => r.fill? figures).filter
      (fun r => r.label ∉ suite.optionalLabels) = lasting.filterMap fun r => r.fill? figures := by
    refine List.filter_eq_self.2 fun row hrow => ?_
    obtain ⟨r, hr, hlabel⟩ := RowOutline.exists_label_of_mem hrow
    exact decide_eq_true (hlabel ▸ hlasting r hr)
  have hdropped : (optional.filterMap fun r => r.fill? figures).filter
      (fun r => r.label ∉ suite.optionalLabels) = [] := by
    refine List.filter_eq_nil_iff.2 fun row hrow => ?_
    obtain ⟨r, hr, hlabel⟩ := RowOutline.exists_label_of_mem hrow
    simpa [hlabel] using hoptional r hr
  rw [Table.lastingRows, fillTable, hrows, List.filterMap_append, List.filter_append, hkept,
    hdropped, List.append_nil, List.map_append]

end Outline

/-! ### Reports of figures -/

/-- The only element with a key is the one that is found. -/
theorem find?_key_eq_some {α κ : Type} [DecidableEq κ] {key : α → κ} {list : List α}
    (hdistinct : (list.map key).Nodup) {a : α} (ha : a ∈ list) :
    (list.find? fun b => key b == key a) = some a := by
  obtain ⟨b, hb⟩ : ∃ b, (list.find? fun b => key b == key a) = some b :=
    Option.isSome_iff_exists.1 (List.find?_isSome.2 ⟨a, ha, beq_self_eq_true _⟩)
  have hkey : key b = key a := by simpa using List.find?_some hb
  rw [hb, List.inj_on_of_nodup_map hdistinct (List.mem_of_find?_eq_some hb) ha hkey]

/-- The parts of a report can be told apart, and are found by their names. -/
structure Report.Structured (r : Report) : Prop where
  cards : r.cards.length = 9
  labels : (r.cards.map (·.label)).Nodup
  suites : r.sections.map (·.suite) = Suite.all
  headings : ∀ s ∈ r.sections,
    s.title = s.suite.title ∧ s.description = s.suite.description ∧ s.icon = s.suite.icon
  charts : r.charts.length = 8
  slots : (r.charts.map (·.slot)).Nodup
  rows : ∀ s ∈ r.sections, ∃ optional,
    s.table.rows.map Row.frame = (s.table.lastingRows s.suite).map Row.frame ++ optional ∧
    optional.Sublist s.suite.optionalRows

namespace Report

variable {r : Report}

theorem Structured.card?_eq (h : r.Structured) {c : Card} (hc : c ∈ r.cards) :
    r.card? c.label = some c :=
  find?_key_eq_some h.labels hc

theorem Structured.exists_section? (h : r.Structured) (suite : Suite) : ∃ s ∈ r.sections,
    s.suite = suite ∧ r.section? suite = some s ∧
      ∀ other ∈ r.sections, other.suite = suite → other = s := by
  -- every suite has a section, and no two sections have the same suite
  have hall : suite ∈ r.sections.map (·.suite) := by
    rw [h.suites]
    cases suite <;> decide
  have hdistinct : (r.sections.map (·.suite)).Nodup := by
    rw [h.suites]
    decide
  obtain ⟨s, hs, rfl⟩ := List.mem_map.1 hall
  exact ⟨s, hs, rfl, find?_key_eq_some hdistinct hs, fun other hother hsame =>
    List.inj_on_of_nodup_map hdistinct hother hs hsame⟩

variable (figures figures' : Figures) (located located' : Suite → Bool)
  (source source' : Option Instant) (generatedAt generatedAt' : Instant)
  (settings settings' : Settings)

/-- Figures do not change the frame, and neither does anything else. -/
theorem frame_ofFigures : (ofFigures figures located source generatedAt settings).frame =
    (ofFigures figures' located' source' generatedAt' settings').frame := by
  have hsection : ∀ suite : Suite,
      (Section.ofFigures suite (located suite) figures).frame =
        (Section.ofFigures suite (located' suite) figures').frame := fun suite =>
    (Section.sameFrame_ofFigures suite (located suite) figures figures').frame_eq
  have hsections : (ofFigures figures located source generatedAt settings).sections.map
      Section.frame = (ofFigures figures' located' source' generatedAt' settings').sections.map
        Section.frame := by
    rw [ofFigures, ofFigures, List.map_map, List.map_map]
    exact List.map_congr_left fun suite _ => hsection suite
  have hcards : (ofFigures figures located source generatedAt settings).cards.map Card.frame =
      (ofFigures figures' located' source' generatedAt' settings').cards.map Card.frame := rfl
  rw [frame, frame, hcards, hsections]

theorem labels_ofFigures :
    (ofFigures figures located source generatedAt settings).cards.map (·.label) =
      ["Server conn/sec", "Burst connections", "Single-client throughput",
        "100-client aggregate", "Cache GET", "Cache SET", "HTTP proxy", "Proxy overhead",
        "WS handshakes"] := rfl

theorem slots_ofFigures :
    (ofFigures figures located source generatedAt settings).charts.map (·.slot) =
      ["sConnChart", "sTpChart", "sMbChart", "sConcChart", "cOpsChart", "pHttpChart",
        "pTcpChart", "wsChart"] := rfl

/-- Every report of figures is structured. -/
theorem structured_ofFigures :
    (ofFigures figures located source generatedAt settings).Structured where
  cards := rfl
  labels := by
    rw [labels_ofFigures]
    decide
  suites := rfl
  headings := by
    intro s hs
    obtain ⟨suite, -, rfl⟩ := List.mem_map.1 hs
    exact ⟨rfl, rfl, rfl⟩
  charts := rfl
  slots := by
    rw [slots_ofFigures]
    decide
  rows := by
    intro s hs
    obtain ⟨suite, -, rfl⟩ := List.mem_map.1 hs
    exact Outline.frames_fillTable suite figures

theorem locatedCount_ofFigures :
    (ofFigures figures located source generatedAt settings).locatedCount =
      (Suite.all.filter located).length := by
  rw [locatedCount, ofFigures, List.filter_map, List.length_map]
  rfl

theorem located_of_mem_ofFigures {s : Section}
    (hs : s ∈ (ofFigures figures located source generatedAt settings).sections) :
    s.located = located s.suite := by
  obtain ⟨suite, -, rfl⟩ := List.mem_map.1 hs
  rfl

/-- **Every report has the same structure.**  Two reports of any results, given in any order, have
the same cards and sections but for figures and optional rows.  Nine cards, four sections and eight
charts can be told apart; each section is the one that is found for its suite, and tells whether
the results that were given last for the suite have a file. -/
theorem structure_assemble (given given' : List SuiteResults) (generatedAt generatedAt' : Instant)
    (settings settings' : Settings) :
    let r := assemble (.given given) generatedAt settings
    let hasFile (suite : Suite) := ((SuiteResults.last? suite given).bind (·.file)).isSome
    r.frame = (assemble (.given given') generatedAt' settings').frame ∧ r.Structured ∧
    (∀ suite, ∃ s ∈ r.sections, s.suite = suite ∧ s.located = hasFile suite ∧
      r.section? suite = some s ∧ ∀ other ∈ r.sections, other.suite = suite → other = s) ∧
    (∀ c ∈ r.cards, r.card? c.label = some c) ∧
    r.locatedCount = (Suite.all.filter hasFile).length := by
  intro r hasFile
  have hlocated : (fun suite => ((Inputs.given given).results suite).isLocated) = hasFile :=
    funext (Inputs.isLocated_given given)
  have hstructured : r.Structured := structured_ofFigures ..
  refine ⟨frame_ofFigures .., hstructured, fun suite => ?_, fun c hc => hstructured.card?_eq hc,
    ?_⟩
  · obtain ⟨s, hs, rfl, hfound, honly⟩ := hstructured.exists_section? suite
    exact ⟨s, hs, rfl, (located_of_mem_ofFigures _ _ _ _ _ hs).trans (congrFun hlocated s.suite),
      hfound, honly⟩
  · rw [← hlocated]
    exact locatedCount_ofFigures ..

end Report

end BenchReport
