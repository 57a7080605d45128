import BenchReport.Calendar
import BenchReport.Label
import BenchReport.Suite

/-!
# The report

A report holds all that a document shows: headline cards with finished texts, charts
with display values, and tables with raw values.  Documents only lay it out.

## Main definitions

* `Card`, `Chart`, `Row`, `Table`, `Section`, `Report` — the parts and the whole.
* `Chart.paint` — a chart whose bars take their colours from a palette in turn.
* `Report.sourceText` — when the results were produced.
-/

namespace BenchReport

/-- A headline figure. -/
structure Card where
  /-- What is measured. -/
  label : String
  /-- The figure; zero when it was never measured. -/
  value : Binary64
  /-- The figure as text, or the mark for an absent figure. -/
  display : String
  /-- The unit. -/
  unit : String
  /-- The accent colour. -/
  tone : Tone

/-- The direction in which the bars of a chart grow. -/
inductive Orientation where
  /-- From left to right. -/
  | horizontal
  /-- From bottom to top. -/
  | vertical
  deriving DecidableEq

namespace Orientation

/-- The name of the direction. -/
def key : Orientation → String
  | .horizontal => "horizontal"
  | .vertical => "vertical"

end Orientation

/-- A bar of a chart. -/
structure Bar where
  /-- The category. -/
  label : String
  /-- The value at the scale of the chart. -/
  value : Binary64
  /-- The colour. -/
  color : String

/-- A bar chart, drawn into a named place of the document. -/
structure Chart where
  /-- The name of that place. -/
  slot : String
  /-- The heading. -/
  title : String
  /-- The direction of the bars. -/
  orientation : Orientation
  /-- The unit of the values. -/
  unit : String
  /-- The bars in order. -/
  bars : List Bar

namespace Chart

/-- The colour of a bar when a palette has none. -/
def defaultColor : String := "#58a6ff"

/-- The colour of the bar at an index; the colours of a palette repeat. -/
def colorAt (palette : List String) (index : Nat) : String :=
  palette[index % palette.length]?.getD defaultColor

/-- A chart whose bars take their colours from a palette in turn. -/
def paint (slot title : String) (orientation : Orientation) (unit : String)
    (bars : List (String × Binary64)) (palette : List String) : Chart where
  slot := slot
  title := title
  orientation := orientation
  unit := unit
  bars := bars.zipIdx.map fun ((label, value), index) =>
    ⟨label, value, colorAt palette index⟩

end Chart

/-- A row of a table. -/
structure Row where
  /-- What is measured. -/
  label : String
  /-- The value, not scaled. -/
  value : Binary64
  /-- The unit. -/
  unit : String
  /-- How many decimal places are shown. -/
  places : Nat
  /-- The row is emphasised. -/
  highlight : Bool

/-- The value as text, with commas between the thousands. -/
def Row.display (r : Row) : String := Label.grouped r.value r.places

/-- The breakdown of a suite's figures. -/
structure Table where
  /-- The heading. -/
  title : String
  /-- The rows in order. -/
  rows : List Row

/-- The part of the report that belongs to one suite. -/
structure Section where
  /-- The suite. -/
  suite : Suite
  /-- The heading. -/
  title : String
  /-- What the suite measures. -/
  description : String
  /-- The icon beside the heading. -/
  icon : String
  /-- A result file was found. -/
  located : Bool
  /-- The charts in order. -/
  charts : List Chart
  /-- The table. -/
  table : Table

/-- A complete report. -/
structure Report where
  /-- The project that was measured. -/
  project : String
  /-- The line under the title. -/
  subtitle : String
  /-- When the report was made. -/
  generatedAt : Instant
  /-- When the results were produced, if there are any. -/
  source : Option Instant
  /-- Remarks on the environment. -/
  badges : List String
  /-- The headline figures in order. -/
  cards : List Card
  /-- The sections in order. -/
  sections : List Section

namespace Report

/-- When results were produced, as shown to a reader. -/
def sourceText : Option Instant → String
  | some t => t.minuteText
  | none => "unknown"

/-- When the results of the report were produced. -/
def timestamp (r : Report) : String := sourceText r.source

/-- All charts in order. -/
def charts (r : Report) : List Chart := r.sections.flatMap (·.charts)

/-- The section of a suite. -/
def section? (r : Report) (suite : Suite) : Option Section :=
  r.sections.find? fun s => s.suite == suite

/-- The card with a label. -/
def card? (r : Report) (label : String) : Option Card :=
  r.cards.find? fun c => c.label == label

/-- How many suites have a result file. -/
def locatedCount (r : Report) : Nat := (r.sections.filter (·.located)).length

end Report

end BenchReport
