import BenchReport.Catalogue.Outline
import BenchReport.Results.Inputs
import BenchReport.Settings

/-!
# From results to a report

A report is made of the figures in the records, of the facts which suites have a result
file and when the first of these was changed, and of a few lines in the settings.

## Main definitions

* `Figures.ofInputs` — the figures in the records of all suites.
* `Inputs.source` — when the results were produced.
* `Report.ofFigures` — the report of given figures and facts.
* `Report.assemble` — the report of inputs.
-/

namespace BenchReport

/-- The figures in the records of all suites. -/
def Figures.ofInputs (inputs : Inputs) : Figures := fun f =>
  f.source.read (inputs.results f.suite).records

/-- When the results were produced: the time of the first file in report order. -/
def Inputs.source (inputs : Inputs) : Option Instant :=
  (inputs.toList.findSome? (·.file)).map (·.modified)

/-- The section of a suite. -/
def Section.ofFigures (suite : Suite) (located : Bool) (figures : Figures) : Section where
  suite := suite
  title := suite.title
  description := suite.description
  icon := suite.icon
  located := located
  charts := (Outline.of suite).fillCharts figures
  table := (Outline.of suite).fillTable figures

namespace Report

/-- The report of figures, of the facts which suites have a result file and when the
results were produced, and of the lines in the settings. -/
def ofFigures (figures : Figures) (located : Suite → Bool) (source : Option Instant)
    (generatedAt : Instant) (settings : Settings) : Report where
  project := settings.project
  subtitle := settings.subtitle
  generatedAt := generatedAt
  source := source
  badges := settings.badges
  cards := Suite.all.flatMap fun s => (Outline.of s).fillCards s.tone figures
  sections := Suite.all.map fun s => .ofFigures s (located s) figures

/-- The report of inputs. -/
def assemble (inputs : Inputs) (generatedAt : Instant) (settings : Settings) : Report :=
  ofFigures (.ofInputs inputs) (fun s => (inputs.results s).isLocated) inputs.source
    generatedAt settings

end Report

end BenchReport
