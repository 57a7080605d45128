import BenchReport.Document.Markdown
import BenchReport.Document.Page
import BenchReport.Document.Summary
import BenchReport.Report.Assembly
import BenchReport.Results.Collect

/-!
# Making and writing reports

## Main definitions

* `Path.makeFolders` — makes a folder and the folders around it.
* `Report.document`, `Report.fileName` — the report in a format, and the name of the file that
  holds it.
* `Report.build` — the report of the results in a folder.
* `Report.writeTo` — one document written to a path.
* `Report.publish` — a document in every format of the settings.
* `Report.generate` — all of it.
-/

namespace BenchReport

/-- The path leads to a folder. -/
def Path.isFolder (p : Path) : Job Bool := do
  match ← Job.status p with
  | .ok .folder => return true
  | _ => return false

/-- Makes a folder unless it is there. -/
def Path.ensureFolder (p : Path) : Job (Except AccessError Unit) := do
  match ← Job.makeFolder p with
  | .ok () => return .ok ()
  | .error e => if ← p.isFolder then return .ok () else return .error e

/-- Makes a folder.  When the folder around it is missing, that one is made first; `around`
are the paths of the folders around. -/
def Path.makeFoldersFrom (p : Path) : List Path → Job (Except AccessError Unit)
  | [] => p.ensureFolder
  | parent :: around => do
      match ← Job.makeFolder p with
      | .ok () => return .ok ()
      | .error (.system .notFound) =>
          if parent.text.isEmpty then p.ensureFolder
          else
            match ← parent.makeFoldersFrom around with
            | .ok () => p.ensureFolder
            | .error e => return .error e
      | .error e => if ← p.isFolder then return .ok () else return .error e

/-- Makes a folder and the folders around it, as far as they are missing. -/
def Path.makeFolders (p : Path) : Job (Except AccessError Unit) :=
  if p.text.isEmpty then return .ok ()
  else p.makeFoldersFrom p.ancestors

/-- A failure to write, as a problem that names the path. -/
def Problem.ofAccess (path : Path) (result : Except AccessError Unit) : Except Problem Unit :=
  result.mapError (access path)

/-- The files that were written, in order. -/
abbrev WrittenFiles := List (Format × Path)

/-- The file that was written in a format. -/
def WrittenFiles.path? (files : WrittenFiles) (format : Format) : Option Path :=
  files.lookup format

namespace Report

/-- The report in a format. -/
def document (r : Report) : Format → String
  | .html => r.html
  | .json => r.data
  | .markdown => r.markdown

/-- The name of the file with a report that was made at a time, as in
`report_20250314_092653.html`. -/
def fileName (generatedAt : Instant) (format : Format) : String :=
  "report_" ++ generatedAt.fileStem ++ "." ++ format.extension

/-- The report of the results in the folder that the settings name. -/
def build (settings : Settings) : Job Report := do
  let inputs ← Inputs.collect settings
  let now ← Job.clock
  let report := assemble inputs now settings
  Job.note (.assembled report.locatedCount report.timestamp)
  return report

/-- Prints the summary of a report, with an empty line before and after it. -/
def printSummary (r : Report) : Job Unit := Job.print ("\n" ++ r.summary ++ "\n")

/-- Writes the report in a format to a path. -/
def writeTo (r : Report) (format : Format) (path : Path) : Job (Except Problem Unit) :=
  return Problem.ofAccess path (← Job.write path (r.document format).toUTF8)

/-- The path of the document in a format. -/
def documentPath (r : Report) (settings : Settings) (format : Format) : Path :=
  settings.output.join ⟨fileName r.generatedAt format⟩

/-- Writes documents in some formats, one after the other, up to the first that fails. -/
def writeAll (r : Report) (settings : Settings) :
    List Format → Job (Except Problem WrittenFiles)
  | [] => return .ok []
  | format :: rest => do
      let path := r.documentPath settings format
      Job.note (.writing path format)
      match ← r.writeTo format path with
      | .error problem => return .error problem
      | .ok () =>
          Job.note (.written path)
          match ← r.writeAll settings rest with
          | .error problem => return .error problem
          | .ok files => return .ok ((format, path) :: files)

/-- Makes the folder for reports when the settings name one of its own.  The folder with
the result files is never made. -/
def prepareOutput (settings : Settings) : Job (Except Problem Unit) :=
  match settings.outputFolder with
  | some folder => return Problem.ofAccess folder (← folder.makeFolders)
  | none => return .ok ()

/-- Writes documents in all formats of the settings. -/
def publish (r : Report) (settings : Settings) : Job (Except Problem WrittenFiles) := do
  match ← prepareOutput settings with
  | .error problem => return .error problem
  | .ok () => r.writeAll settings settings.formats

/-- Makes the report of the results in a folder and writes it. -/
def generate (settings : Settings) : Job (Except Problem WrittenFiles) :=
  match settings.validate with
  | .error problem => return .error problem
  | .ok () => do
      let report ← build settings
      report.publish settings

end Report

end BenchReport
