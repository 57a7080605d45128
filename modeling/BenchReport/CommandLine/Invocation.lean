import BenchReport.Settings

/-!
# What a command line asks for

## Main definitions

* `Invocation` — the values that a command line gives.
* `Invocation.settings` — the settings that follow from them and from the environment.
* `UsageProblem`, `EarlyEnd` — why a command line asks for no report.
-/

namespace BenchReport

/-- The values that a command line gives. -/
structure Invocation where
  /-- The folder with the result files. -/
  resultsFolder : Option Path
  /-- The folder for reports. -/
  outputFolder : Option Path
  /-- The formats in the order in which they are asked for. -/
  formats : List Format
  /-- The summary is printed. -/
  summary : Bool
  /-- How often more events are asked for. -/
  verbosity : Nat

namespace Invocation

/-- Nothing is given. -/
def empty : Invocation := ⟨none, none, [], false, 0⟩

/-- The greatest verbosity. -/
def maxVerbosity : Nat := 255

/-- Asks for more events. -/
def moreVerbose (inv : Invocation) : Invocation :=
  { inv with verbosity := min maxVerbosity (inv.verbosity + 1) }

/-- The settings: what the command line does not give is taken from the place of the
program and from the value of the environment variable with a size limit. -/
def settings (inv : Invocation) (programFolder : Option Path) (sizeValue : Option String) :
    Settings :=
  let folder := inv.resultsFolder.getD (Settings.defaultResultsFolder programFolder)
  let chosen := ((Settings.new folder).setFormats inv.formats).withSizeOverride sizeValue
  match inv.outputFolder with
  | some output => chosen.setOutputFolder output
  | none => chosen

end Invocation

/-- What is wrong with a command line. -/
inductive UsageProblem where
  /-- An option has no value. -/
  | missingValue (option : String)
  /-- A value is empty. -/
  | emptyValue (option : String)
  /-- A format has another name. -/
  | unknownFormat (name : String)
  /-- There is no such option, or no place for the argument. -/
  | unknownArgument (argument : String)
  /-- A flag is given a value. -/
  | unneededValue (flag : String)
  /-- An option that has one value is given twice. -/
  | repeated (option : String)
  deriving DecidableEq

/-- The problem in words. -/
def UsageProblem.message : UsageProblem → String
  | missingValue option => "a value is required for '" ++ option ++ "' but none was supplied"
  | emptyValue option => "the value of '" ++ option ++ "' must not be empty"
  | unknownFormat name => "invalid value '" ++ name ++ "' for '--format'"
  | unknownArgument argument => "unexpected argument '" ++ argument ++ "' found"
  | unneededValue flag => "the flag '" ++ flag ++ "' takes no value"
  | repeated option => "the argument '" ++ option ++ "' cannot be used multiple times"

/-- Why a command line asks for no report. -/
inductive EarlyEnd where
  /-- It asks for the help, in full or in short. -/
  | help (full : Bool)
  /-- It asks for the version. -/
  | version
  /-- It is wrong. -/
  | misuse (problem : UsageProblem)
  deriving DecidableEq

end BenchReport
