import BenchReport.Problem
import BenchReport.Text.Basic
import BenchReport.Text.Digits

/-!
# Settings

Where results are looked for, where reports go and in which formats, and what the report
says about the project.

## Main definitions

* `Format` — the formats of a report.
* `Settings`, `Settings.new` — the settings, and those that only name a folder.
* `Settings.addFormat`, `Settings.setFormats`, … — changes, one field each.
* `Settings.withSizeOverride` — the size limit that the environment asks for.
* `Settings.validate` — the settings can be used.
-/

namespace BenchReport

/-- A format in which a report is written. -/
inductive Format where
  /-- A document for a browser, with charts. -/
  | html
  /-- All of the report as data. -/
  | json
  /-- Tables in plain text. -/
  | markdown
  deriving DecidableEq

namespace Format

/-- All formats. -/
def all : List Format := [.html, .json, .markdown]

/-- The name of the format. -/
def key : Format → String
  | .html => "Html"
  | .json => "Json"
  | .markdown => "Markdown"

/-- The format of a name. -/
def ofKey? (key : String) : Option Format := all.find? fun f => f.key == key

/-- The extension of file names. -/
def extension : Format → String
  | .html => "html"
  | .json => "json"
  | .markdown => "md"

end Format

/-- The settings of a run. -/
structure Settings where
  /-- The folder with the result files. -/
  resultsFolder : Path
  /-- The folder for reports, where it is not the folder with the result files. -/
  outputFolder : Option Path
  /-- The formats in the order in which they are written. -/
  formats : List Format
  /-- Result files of more bytes than this are not read. -/
  maxFileSize : Nat
  /-- The project that was measured. -/
  project : String
  /-- The line under the title. -/
  subtitle : String
  /-- Remarks on the environment. -/
  badges : List String

namespace Settings

/-- The size limit in bytes unless another is set: 64 MiB. -/
def defaultMaxFileSize : Nat := 64 * 1024 * 1024

/-- The project unless another is set. -/
def defaultProject : String := "Socketley"

/-- The line under the title unless another is set. -/
def defaultSubtitle : String := "io_uring async I/O · single-threaded event loop · Linux"

/-- The remarks on the environment unless others are set. -/
def defaultBadges : List String :=
  ["🖥️ Intel Core Ultra 5 125H",
   "⚙️ 4 cores / 3.8 GiB VM",
   "🐧 Kernel 6.8.0-100-generic",
   "🔧 Release build · statically linked"]

/-- Settings that only name the folder with the result files. -/
def new (resultsFolder : Path) : Settings where
  resultsFolder := resultsFolder
  outputFolder := none
  formats := [.html]
  maxFileSize := defaultMaxFileSize
  project := defaultProject
  subtitle := defaultSubtitle
  badges := defaultBadges

/-- The folder with the result files unless another is set: beside the program, or in the
working folder when the program's place is unknown. -/
def defaultResultsFolder (programFolder : Option Path) : Path :=
  match programFolder with
  | some folder => folder.join ⟨"results"⟩
  | none => ⟨"results"⟩

/-- Sets the folder for reports. -/
def setOutputFolder (s : Settings) (folder : Path) : Settings :=
  { s with outputFolder := some folder }

/-- Adds a format at the end, unless it is there already. -/
def addFormat (s : Settings) (format : Format) : Settings :=
  if format ∈ s.formats then s else { s with formats := s.formats ++ [format] }

/-- Sets the formats; the browser document is kept in front. -/
def setFormats (s : Settings) (formats : List Format) : Settings :=
  formats.foldl addFormat { s with formats := [.html] }

/-- Sets the size limit. -/
def setMaxFileSize (s : Settings) (bytes : Nat) : Settings := { s with maxFileSize := bytes }

/-- Sets the remarks on the environment. -/
def setBadges (s : Settings) (badges : List String) : Settings := { s with badges := badges }

/-- The folder for reports. -/
def output (s : Settings) : Path := s.outputFolder.getD s.resultsFolder

/-- The format is among those to be written. -/
def hasFormat (s : Settings) (format : Format) : Bool := format ∈ s.formats

/-! ### The environment -/

/-- The environment variable that holds a size limit. -/
def sizeVariable : String := "BENCHVIZ_MAX_FILE_SIZE"

/-- Size limits are below this. -/
def sizeBound : Nat := Nat.pow 2 64

/-- Reads a natural number below the bound: digits, with an optional plus sign. -/
def readSize? (text : List Char) : Option Nat :=
  let ds := match text with
    | '+' :: rest => rest
    | _ => text
  if ds.isEmpty || !ds.all Char.isDigit then none
  else
    let n := Text.digitsValue ds
    if n < sizeBound then some n else none

/-- The size limit that a value of the environment variable asks for: a positive number
with white space around it. -/
def sizeOverride? (value : Option String) : Option Nat :=
  (value.bind fun text => readSize? (Text.trim text.toList)).filter (0 < ·)

/-- The settings with the size limit of the environment, if it asks for one. -/
def withSizeOverride (s : Settings) (value : Option String) : Settings :=
  match sizeOverride? value with
  | some bytes => s.setMaxFileSize bytes
  | none => s

/-! ### Usable settings -/

/-- The browser document is not among the formats. -/
def missingDocument : Problem :=
  .invalidSetting "export_formats" "the HTML report is always written and must be enabled"

/-- The size limit is zero. -/
def zeroSizeLimit : Problem := .invalidSetting "max_file_size" "must be greater than zero"

/-- The settings can be used. -/
def validate (s : Settings) : Except Problem Unit :=
  if !s.hasFormat .html then .error missingDocument
  else if s.maxFileSize = 0 then .error zeroSizeLimit
  else .ok ()

end Settings

end BenchReport
