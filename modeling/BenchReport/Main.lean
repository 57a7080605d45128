import BenchReport.CommandLine.Run
import Std.Time.DateTime.Timestamp

/-!
# The program

Answers the requests of a run from the machine.  What is asked, and what follows from the
answers, is settled elsewhere.
-/

namespace BenchReport.Program

/-- The number that the operating system gives an error. -/
def codeOf? : IO.Error → Option Nat
  | .alreadyExists _ code _ | .otherError code _ | .resourceBusy code _
  | .resourceVanished code _ | .unsupportedOperation code _ | .hardwareFault code _
  | .unsatisfiedConstraints code _ | .illegalOperation code _ | .protocolError code _
  | .timeExpired code _ | .interrupted _ code _ | .noFileOrDirectory _ code _
  | .invalidArgument _ code _ | .permissionDenied _ code _ | .resourceExhausted _ code _
  | .inappropriateType _ code _ | .noSuchThing _ code _ => some code.toNat
  | _ => none

/-- The fault that an error reports. -/
def faultOf (e : IO.Error) : AccessError :=
  match (codeOf? e).bind SystemError.ofCode? with
  | some fault => .system fault
  | none => .other (toString e)

/-- Does something that may fail. -/
def attempt {α : Type} (action : IO α) : IO (Except AccessError α) := do
  match ← action.toBaseIO with
  | .ok value => return .ok value
  | .error e => return .error (faultOf e)

/-- The time. -/
def clock : IO Instant := do
  let now ← Std.Time.Timestamp.now
  return .ofParts now.val.second.val now.val.nano.val.toNat

/-- What is at a path. -/
def statusOf (path : Path) : IO Status := do
  let data ← (← IO.FS.realPath path.text).metadata
  let modified := Instant.ofParts data.modified.sec data.modified.nsec.toNat
  match data.type with
  | .file => return .file data.byteSize.toNat modified
  | _ => return .folder

/-- The entries of a folder. -/
def entriesIn (folder : Path) : IO (List (Except AccessError FileName)) := do
  return (← (← IO.FS.realPath folder.text).readDir).toList.map fun e => .ok (.text e.fileName)

/-- Answers a request. -/
def answer (filter : LogFilter) : (request : Request) → IO request.Answer
  | .list folder => attempt (entriesIn folder)
  | .status path => attempt (statusOf path)
  | .read path => attempt (IO.FS.readBinFile path.text)
  | .write path content => attempt (IO.FS.writeBinFile path.text content)
  | .makeFolder path => attempt (IO.FS.createDir path.text)
  | .clock => clock
  | .note event => do
      if filter.admits event then IO.eprintln (event.stampedLine (← clock))
  | .print text => IO.print text

/-- Does a job. -/
def perform {α : Type} (filter : LogFilter) : Job α → IO α
  | .done value => return value
  | .ask request next => do perform filter (next (← answer filter request))

/-- What the command line is read in. -/
def environment : IO Environment := do
  let place ← IO.appPath.toBaseIO
  return {
    programFolder := place.toOption.bind fun p => Path.parent? ⟨p.toString⟩
    sizeValue := ← IO.getEnv Settings.sizeVariable
    logValue := ← IO.getEnv LogFilter.variableName }

/-- Runs a command line. -/
def run (arguments : List String) : IO Nat := do
  match Plan.make (← environment) arguments with
  | .error reason =>
      IO.print reason.printed
      IO.eprint reason.complaint
      return reason.exitCode
  | .ok plan =>
      let result := (← perform plan.filter plan.job).mapError Failure.report
      if let .error failure := result then IO.eprintln failure.line
      return exitCode result

end BenchReport.Program

/-- Runs the command line and gives its exit code. -/
def main (arguments : List String) : IO UInt32 := do
  return (← BenchReport.Program.run arguments).toUInt32
