import BenchReport.Results.Load
import BenchReport.Results.Locate

/-!
# The results of all suites

## Main definitions

* `SuiteResults.collect` — the newest result file of a suite and the records in it.
* `Inputs.collect` — the results of all suites.
-/

namespace BenchReport

/-- Finds and reads the newest result file of a suite. -/
def SuiteResults.collect (settings : Settings) (suite : Suite) : Job SuiteResults := do
  let file ← ResultFile.locate settings.resultsFolder suite.key
  let records ← Record.load file settings.maxFileSize
  return ⟨suite, file, records⟩

namespace Inputs

/-- Finds and reads the newest result files of some suites, one after the other. -/
def collectAll (settings : Settings) : List Suite → Inputs → Job Inputs
  | [], inputs => return inputs
  | suite :: rest, inputs => do
      let results ← SuiteResults.collect settings suite
      collectAll settings rest (inputs.put results)

/-- Finds and reads the newest result files of all suites in report order. -/
def collect (settings : Settings) : Job Inputs := collectAll settings Suite.all empty

end Inputs

end BenchReport
