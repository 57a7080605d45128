import BenchReport.Calendar
import BenchReport.Files.Path
import BenchReport.Record
import BenchReport.Suite

/-!
# The inputs of a report

For every suite: the result file that was found, and the records in it.

## Main definitions

* `ResultFile`, `SuiteResults` — a file, and what is known of one suite.
* `Inputs` — the results of all suites.
* `Inputs.empty`, `Inputs.put` — no results, and one suite's results replaced.
-/

namespace BenchReport

/-- A result file. -/
structure ResultFile where
  /-- Where it is. -/
  path : Path
  /-- When it was last changed. -/
  modified : Instant
  deriving DecidableEq

/-- The results of one suite. -/
structure SuiteResults where
  /-- The suite. -/
  suite : Suite
  /-- The newest result file, if there is one. -/
  file : Option ResultFile
  /-- The records; none when there is no file or nothing in it can be used. -/
  records : List Record

namespace SuiteResults

/-- The results of a suite without a result file. -/
def missing (suite : Suite) : SuiteResults := ⟨suite, none, []⟩

/-- A result file was found. -/
def isLocated (r : SuiteResults) : Bool := r.file.isSome

end SuiteResults

/-- The results of all suites. -/
structure Inputs where
  /-- The results of a suite. -/
  results : Suite → SuiteResults
  /-- They are that suite's own. -/
  suite_results : ∀ s, (results s).suite = s

namespace Inputs

/-- No suite has results. -/
def empty : Inputs := ⟨.missing, fun _ => rfl⟩

/-- The results of one suite replaced. -/
def put (inputs : Inputs) (r : SuiteResults) : Inputs where
  results s := if r.suite = s then r else inputs.results s
  suite_results s := by
    split
    · assumption
    · exact inputs.suite_results s

/-- The results of all suites in report order. -/
def toList (inputs : Inputs) : List SuiteResults := Suite.all.map inputs.results

@[simp] theorem results_put_self (inputs : Inputs) (r : SuiteResults) :
    (inputs.put r).results r.suite = r := by simp [put]

theorem results_put_of_ne (inputs : Inputs) (r : SuiteResults) {s : Suite} (h : r.suite ≠ s) :
    (inputs.put r).results s = inputs.results s := by simp [put, h]

end Inputs

end BenchReport
