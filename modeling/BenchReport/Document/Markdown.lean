import BenchReport.Report.Model

/-!
# The report as tables in plain text

The document in the Markdown format: a table of the headline figures, then a table for
every suite.  Charts have no form here.

## Main definitions

* `Report.markdown` — the document.
-/

namespace BenchReport

/-- A row of a table with three cells. -/
def markdownRow (first second third : String) : String :=
  "| " ++ first ++ " | " ++ second ++ " | " ++ third ++ " |\n"

/-- The head of a table whose first column has a name; the second column is set to the
right. -/
def markdownHead (first rule : String) : String :=
  markdownRow first "Value" "Unit" ++ "|" ++ rule ++ "|------:|------|\n"

/-- The line that says that a suite has no result file. -/
def notLocatedNote : String := "_No result file found._"

/-- A card as a row. -/
def Card.markdown (c : Card) : String := markdownRow c.label c.display c.unit

/-- A row as a row. -/
def Row.markdown (r : Row) : String := markdownRow r.label r.display r.unit

/-- A section: heading, description, perhaps the note that there is no result file, and
the table. -/
def Section.markdown (s : Section) : String :=
  "\n## " ++ s.title ++ "\n\n" ++ s.description ++ "\n\n" ++
    (if s.located then "" else notLocatedNote ++ "\n\n") ++
    markdownHead "Test" "------" ++ String.join (s.table.rows.map Row.markdown)

namespace Report

/-- What stands before the summary: project, time, and remarks if there are any. -/
def markdownOpening (r : Report) : String :=
  "# " ++ r.project ++ " Benchmark Results\n\n" ++
    "**Timestamp:** " ++ r.timestamp ++ "\n\n" ++
    (if r.badges.isEmpty then "" else " · ".intercalate r.badges ++ "\n\n")

/-- The headline figures. -/
def markdownSummary (r : Report) : String :=
  "## Summary\n\n" ++ markdownHead "Metric" "--------" ++
    String.join (r.cards.map Card.markdown)

/-- The report as tables in plain text. -/
def markdown (r : Report) : String :=
  r.markdownOpening ++ r.markdownSummary ++ String.join (r.sections.map Section.markdown)

end Report

end BenchReport
