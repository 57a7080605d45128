import BenchReport.Report.Model
import BenchReport.Text.Basic

/-!
# The summary of a report

The headline figures in aligned columns, for a terminal.  Widths count characters.

## Main definitions

* `Card.summaryLine` — a headline figure on a line.
* `Report.summary` — the summary.
-/

namespace BenchReport

/-- A line of sixty equal characters. -/
def ruler (c : Char) : String := String.ofList (List.replicate 60 c) ++ "\n"

/-- The width of the column with the figures. -/
def figureWidth : Nat := 8

/-- A headline figure on a line, with labels in a column of a width. -/
def Card.summaryLine (labelWidth : Nat) (c : Card) : String :=
  Text.padRight labelWidth c.label ++ "  " ++ Text.padLeft figureWidth c.display ++ "  " ++
    c.unit ++ "\n"

namespace Report

/-- The length of the longest label. -/
def labelWidth (r : Report) : Nat := (r.cards.map (·.label.length)).foldl max 0

/-- How many suites have a result file, of how many. -/
def countLine (r : Report) : String :=
  "Suites found: " ++ toString r.locatedCount ++ "/" ++ toString r.sections.length ++ "\n"

/-- What stands above the headline figures. -/
def summaryOpening (r : Report) : String :=
  ruler '=' ++ "SUMMARY: " ++ r.project ++ " benchmarks\n" ++ ruler '=' ++
    "Results from: " ++ r.timestamp ++ "\n" ++ r.countLine ++ ruler '-'

/-- The summary of a report. -/
def summary (r : Report) : String :=
  r.summaryOpening ++ String.join (r.cards.map (Card.summaryLine r.labelWidth)) ++ ruler '='

end Report

end BenchReport
