import BenchReport.Results.Inputs

/-!
# Inputs given one after the other

Results are put into empty inputs in some order, and some suites may be given more than once.  What
was given last for a suite stays, and a suite that was never given has no results.

## Main definitions

* `Inputs.given` — the inputs of a list of results.
* `SuiteResults.last?` — what was given last for a suite.

## Main results

* `Inputs.results_given` — **the last results of a suite stay.**
* `Inputs.isLocated_given` — a suite has a file when its last results have one.
-/

namespace BenchReport

namespace SuiteResults

/-- What was given last for a suite. -/
def last? (suite : Suite) (given : List SuiteResults) : Option SuiteResults :=
  (given.filter fun r => r.suite = suite).getLast?

variable {suite : Suite} {r : SuiteResults}

theorem last?_cons_self (h : r.suite = suite) (rest : List SuiteResults) :
    last? suite (r :: rest) = some ((last? suite rest).getD r) := by
  rw [last?, List.filter_cons_of_pos (by simpa using h), List.getLast?_cons, last?]

theorem last?_cons_of_ne (h : r.suite ≠ suite) (rest : List SuiteResults) :
    last? suite (r :: rest) = last? suite rest := by
  rw [last?, List.filter_cons_of_neg (by simpa using h), last?]

end SuiteResults

namespace Inputs

open SuiteResults

/-- Inputs are the results of the suites. -/
theorem eq_of_results {a b : Inputs} (h : ∀ suite, a.results suite = b.results suite) :
    a = b := by
  obtain ⟨results, _⟩ := a
  obtain ⟨results', _⟩ := b
  obtain rfl : results = results' := funext h
  rfl

/-- The inputs after results were given one after the other. -/
def given (results : List SuiteResults) : Inputs := results.foldl put empty

theorem results_foldl_put (results : List SuiteResults) (inputs : Inputs) (suite : Suite) :
    (results.foldl put inputs).results suite =
      (last? suite results).getD (inputs.results suite) := by
  induction results generalizing inputs with
  | nil => rfl
  | cons r rest ih =>
    rw [List.foldl_cons, ih]
    by_cases hr : r.suite = suite
    · -- `r` stays unless something follows for the suite
      have hput : (inputs.put r).results suite = r := hr ▸ results_put_self inputs r
      rw [hput, last?_cons_self hr, Option.getD_some]
    · rw [results_put_of_ne inputs r hr, last?_cons_of_ne hr]

/-- **The last results of a suite stay.** -/
theorem results_given (results : List SuiteResults) (suite : Suite) :
    (given results).results suite = (last? suite results).getD (.missing suite) :=
  results_foldl_put results empty suite

/-- A suite has a file when its last results have one. -/
theorem isLocated_given (results : List SuiteResults) (suite : Suite) :
    ((given results).results suite).isLocated =
      ((last? suite results).bind (·.file)).isSome := by
  rw [results_given]
  cases last? suite results <;> rfl

end Inputs

end BenchReport
