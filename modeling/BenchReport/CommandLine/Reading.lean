import BenchReport.CommandLine.Invocation

/-!
# Reading a command line

Arguments are read from left to right.  A value that stands in an argument of its own is
looked at when the next option or the next place needs it to be settled, so an argument
that cannot be read at all is found first.

## Main definitions

* `Pending`, `Reading` — a value that is not settled yet, and what was read so far.
* `Reading.settle` — settles the value.
* `Reading.read` — reads one more argument.
* `Invocation.ofArguments` — what a command line asks for.
-/

namespace BenchReport

/-- An option with a value. -/
inductive ValueOption where
  /-- The folder for reports. -/
  | output
  /-- A format. -/
  | format
  deriving DecidableEq

/-- The long name of the option. -/
def ValueOption.name : ValueOption → String
  | output => "--output-dir"
  | format => "--format"

/-- A value that is not settled yet. -/
inductive Pending where
  /-- The folder with the result files. -/
  | results (value : String)
  /-- An option, whose value may be still to come. -/
  | option (option : ValueOption) (value : Option String)

/-- What was read so far. -/
structure Reading where
  /-- The settled values. -/
  invocation : Invocation
  /-- The value that is not settled yet. -/
  pending : Option Pending
  /-- The folder with the result files was given. -/
  placed : Bool
  /-- Options have ended. -/
  literal : Bool

namespace Reading

/-- Nothing was read. -/
def start : Reading := ⟨.empty, none, false, false⟩

/-! ### Values -/

/-- The format of a name. -/
def formatOf? : String → Option Format
  | "html" => some .html
  | "json" => some .json
  | "markdown" => some .markdown
  | _ => none

/-- What is shown of the place for the folder with the result files. -/
def resultsName : String := "[RESULTS_DIR]"

/-- Takes a value into the settled values. -/
def accept (inv : Invocation) : ValueOption → String → Except EarlyEnd Invocation
  | .output, value =>
      if inv.outputFolder.isSome then .error (.misuse (.repeated ValueOption.output.name))
      else if value.isEmpty then .error (.misuse (.emptyValue ValueOption.output.name))
      else .ok { inv with outputFolder := some ⟨value⟩ }
  | .format, value =>
      match formatOf? value with
      | some format => .ok { inv with formats := inv.formats ++ [format] }
      | none => .error (.misuse (.unknownFormat value))

/-- Takes the value that is not settled yet into the settled values. -/
def acceptPending (inv : Invocation) : Pending → Except EarlyEnd Invocation
  | .results value =>
      if value.isEmpty then .error (.misuse (.emptyValue resultsName))
      else .ok { inv with resultsFolder := some ⟨value⟩ }
  | .option option none => .error (.misuse (.missingValue option.name))
  | .option option (some value) => accept inv option value

/-- Settles the value that is not settled yet. -/
def settle (r : Reading) : Except EarlyEnd Reading :=
  match r.pending with
  | none => .ok r
  | some pending => do
      return { r with invocation := ← acceptPending r.invocation pending, pending := none }

/-- An option that may come with a value; else the value is still to come. -/
def takeOption (r : Reading) (option : ValueOption) (value : Option String) :
    Except EarlyEnd Reading := do
  let r ← r.settle
  match value with
  | some value => return { r with invocation := ← accept r.invocation option value }
  | none => return { r with pending := some (.option option none) }

/-! ### Flags -/

/-- The flag that asks for more events. -/
def takeVerbose (r : Reading) : Except EarlyEnd Reading := do
  let r ← r.settle
  return { r with invocation := r.invocation.moreVerbose }

/-- The flag that asks for the summary. -/
def takeSummary (r : Reading) : Except EarlyEnd Reading := do
  let r ← r.settle
  if r.invocation.summary then throw (.misuse (.repeated "--summary"))
  else return { r with invocation := { r.invocation with summary := true } }

/-- A flag that ends the reading. -/
def stop (r : Reading) (reason : EarlyEnd) : Except EarlyEnd Reading := do
  let _ ← r.settle
  throw reason

/-! ### Arguments -/

/-- The value in the same argument as a letter: all that follows, without an equals sign. -/
def attached? : List Char → Option String
  | [] => none
  | '=' :: value => some (String.ofList value)
  | value => some (String.ofList value)

/-- Reads letters behind a hyphen.  A letter with a value takes the rest of the argument. -/
def readLetters (r : Reading) : List Char → Except EarlyEnd Reading
  | [] => .ok r
  | 'v' :: rest => do (← r.takeVerbose).readLetters rest
  | 'h' :: _ => r.stop (.help false)
  | 'V' :: _ => r.stop .version
  | 'o' :: rest => r.takeOption .output (attached? rest)
  | 'f' :: rest => r.takeOption .format (attached? rest)
  | c :: _ => .error (.misuse (.unknownArgument (String.ofList ['-', c])))

/-- A flag that must not come with a value. -/
def plainFlag (name : String) (value : Option String)
    (take : Unit → Except EarlyEnd Reading) : Except EarlyEnd Reading :=
  if value.isSome then .error (.misuse (.unneededValue name)) else take ()

/-- Reads a long name behind two hyphens, and a value behind an equals sign. -/
def readLong (r : Reading) (name : String) (value : Option String) : Except EarlyEnd Reading :=
  match name with
  | "output-dir" => r.takeOption .output value
  | "format" => r.takeOption .format value
  | "summary" => plainFlag "--summary" value fun _ => r.takeSummary
  | "verbose" => plainFlag "--verbose" value fun _ => r.takeVerbose
  | "help" => plainFlag "--help" value fun _ => r.stop (.help true)
  | "version" => plainFlag "--version" value fun _ => r.stop .version
  | _ => .error (.misuse (.unknownArgument ("--" ++ name)))

/-- The parts before and behind the first equals sign. -/
def splitValue (text : List Char) : String × Option String :=
  let name := text.takeWhile (· != '=')
  match text.dropWhile (· != '=') with
  | [] => (String.ofList name, none)
  | _ :: value => (String.ofList name, some (String.ofList value))

/-- Reads an argument that is no option: a value that an option waits for, or the folder
with the result files. -/
def readPlain (r : Reading) (argument : String) : Except EarlyEnd Reading :=
  match r.literal, r.pending with
  | false, some (.option option none) =>
      .ok { r with pending := some (.option option (some argument)) }
  | _, _ =>
      if r.placed then .error (.misuse (.unknownArgument argument))
      else do
        let r ← r.settle
        return { r with pending := some (.results argument), placed := true }

/-- Reads one more argument. -/
def read (r : Reading) (argument : String) : Except EarlyEnd Reading :=
  if r.literal then r.readPlain argument
  else
    match argument.toList with
    | ['-', '-'] => .ok { r with literal := true }
    | '-' :: '-' :: text => r.readLong (splitValue text).1 (splitValue text).2
    | '-' :: c :: letters => r.readLetters (c :: letters)
    | _ => r.readPlain argument

end Reading

/-- What a command line asks for. -/
def Invocation.ofArguments (arguments : List String) : Except EarlyEnd Invocation := do
  let read ← arguments.foldlM Reading.read Reading.start
  return (← read.settle).invocation

end BenchReport
