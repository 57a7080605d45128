import BenchReport.Json.Writer
import BenchReport.Report.Model

/-!
# The report as data

All of a report as one JSON value.  Fields stand in the order in which the parts of the
report are described; a number that is not finite is written as `null`.

## Main definitions

* `Chart.toJson` — a chart, which the browser document holds as well.
* `Report.toJson`, `Report.data` — the report and its text.
-/

namespace BenchReport

/-- A card as data. -/
def Card.toJson (c : Card) : Json :=
  .object [("label", .ofString c.label), ("value", .ofBinary64 c.value),
    ("display", .ofString c.display), ("unit", .ofString c.unit),
    ("tone", .ofString c.tone.key)]

/-- A bar as data. -/
def Bar.toJson (b : Bar) : Json :=
  .object [("label", .ofString b.label), ("value", .ofBinary64 b.value),
    ("color", .ofString b.color)]

/-- A chart as data. -/
def Chart.toJson (c : Chart) : Json :=
  .object [("slot", .ofString c.slot), ("title", .ofString c.title),
    ("orientation", .ofString c.orientation.key), ("unit", .ofString c.unit),
    ("bars", .array (c.bars.map Bar.toJson))]

/-- A row as data. -/
def Row.toJson (r : Row) : Json :=
  .object [("label", .ofString r.label), ("value", .ofBinary64 r.value),
    ("unit", .ofString r.unit), ("decimals", .ofNat r.places),
    ("highlight", .ofBool r.highlight)]

/-- A table as data. -/
def Table.toJson (t : Table) : Json :=
  .object [("title", .ofString t.title), ("rows", .array (t.rows.map Row.toJson))]

/-- A section as data. -/
def Section.toJson (s : Section) : Json :=
  .object [("suite", .ofString s.suite.key), ("title", .ofString s.title),
    ("description", .ofString s.description), ("icon", .ofString s.icon),
    ("located", .ofBool s.located), ("charts", .array (s.charts.map Chart.toJson)),
    ("table", s.table.toJson)]

namespace Report

/-- A report as data. -/
def toJson (r : Report) : Json :=
  .object [("project", .ofString r.project), ("subtitle", .ofString r.subtitle),
    ("generated_at", .ofString r.generatedAt.text), ("timestamp", .ofString r.timestamp),
    ("badges", .array (r.badges.map .ofString)), ("kpis", .array (r.cards.map Card.toJson)),
    ("sections", .array (r.sections.map Section.toJson))]

/-- The report as a JSON text with every item and field on a line of its own. -/
def data (r : Report) : String := r.toJson.pretty

end Report

end BenchReport
