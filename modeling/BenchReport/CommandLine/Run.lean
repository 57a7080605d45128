import BenchReport.CommandLine.Help
import BenchReport.CommandLine.LogFilter
import BenchReport.CommandLine.Reading
import BenchReport.Publication

/-!
# Running a command line

## Main definitions

* `Environment`, `Plan`, `Plan.make` — what a command line means in an environment.
* `Plan.job` — the run.
* `Failure`, `EarlyEnd.output`, `exitCode` — how a run ends.
-/

namespace BenchReport

/-- What a command line is read in. -/
structure Environment where
  /-- The folder of the program, when it is known. -/
  programFolder : Option Path
  /-- The value of the variable with a size limit. -/
  sizeValue : Option String
  /-- The value of the variable with log directives. -/
  logValue : Option String

/-- What a command line means. -/
structure Plan where
  /-- The values that the command line gives. -/
  invocation : Invocation
  /-- The settings. -/
  settings : Settings
  /-- The events that are shown. -/
  filter : LogFilter

/-- What a command line means in an environment. -/
def Plan.make (env : Environment) (arguments : List String) : Except EarlyEnd Plan := do
  let invocation ← Invocation.ofArguments arguments
  return {
    invocation := invocation
    settings := invocation.settings env.programFolder env.sizeValue
    filter := .choose env.logValue invocation.verbosity }

/-- The line that says where a file was written. -/
def writtenLine (path : Path) : String := "Report written to: " ++ path.text ++ "\n"

/-- Makes the report, prints the summary when it is asked for, writes the documents and
says where. -/
def Plan.job (plan : Plan) : Job (Except Problem WrittenFiles) := do
  Job.note (.resolved plan.settings)
  match plan.settings.validate with
  | .error problem => return .error problem
  | .ok () =>
      let report ← Report.build plan.settings
      if plan.invocation.summary then report.printSummary
      match ← report.publish plan.settings with
      | .error problem => return .error problem
      | .ok files =>
          Job.forEach (fun (_, path) => Job.print (writtenLine path)) files
          return .ok files

/-! ### How a run ends -/

/-- Why a run fails. -/
inductive Failure where
  /-- No report was produced. -/
  | report (problem : Problem)
  /-- Events cannot be shown. -/
  | logging (message : String)
  deriving DecidableEq

/-- The failure in words. -/
def Failure.message : Failure → String
  | report problem => problem.message
  | logging message => "Failed to initialise logging: " ++ message

/-- The last line of a run that failed. -/
def Failure.line (f : Failure) : String := "Error: " ++ f.message

/-- The exit code of a run. -/
def exitCode : Except Failure WrittenFiles → Nat
  | .ok _ => 0
  | .error _ => 1

namespace EarlyEnd

/-- What is printed. -/
def printed : EarlyEnd → String
  | help full => if full then Help.full else Help.short
  | version => Help.version
  | misuse _ => ""

/-- What is complained about. -/
def complaint : EarlyEnd → String
  | misuse problem => "error: " ++ problem.message ++ "\n\nFor more information, try '--help'.\n"
  | _ => ""

/-- The exit code. -/
def exitCode : EarlyEnd → Nat
  | misuse _ => 2
  | _ => 0

end EarlyEnd

end BenchReport
