import BenchReport.Calendar
import BenchReport.Json.Writer
import BenchReport.Results.Fault
import BenchReport.Settings
import BenchReport.Text.Basic

/-!
# Events

What a run reports about its progress.  An event has a level and a target, by which it
can be selected, a message and named fields.

## Main definitions

* `Level`, `Event` — how grave an event is, and the events.
* `Event.level`, `Event.target`, `Event.message`, `Event.fields` — what is reported.
* `Event.line`, `Event.stampedLine` — the event on a line, without and with the time.
-/

namespace BenchReport

/-- How grave an event is. -/
inductive Level where
  /-- Something failed. -/
  | error
  /-- Something was left out. -/
  | warn
  /-- A step of the run. -/
  | info
  /-- A detail of a step. -/
  | debug
  /-- A detail of a detail. -/
  | trace
  deriving DecidableEq

namespace Level

/-- All levels, the gravest first. -/
def all : List Level := [.error, .warn, .info, .debug, .trace]

/-- The name of the level. -/
def name : Level → String
  | .error => "ERROR"
  | .warn => "WARN"
  | .info => "INFO"
  | .debug => "DEBUG"
  | .trace => "TRACE"

/-- The levels up to this one, counted from the gravest. -/
def rank : Level → Nat
  | .error => 1
  | .warn => 2
  | .info => 3
  | .debug => 4
  | .trace => 5

end Level

/-- A step of a run. -/
inductive Event where
  /-- The settings of the run are known. -/
  | resolved (settings : Settings)
  /-- The folder with the result files cannot be listed. -/
  | unlisted (folder : Path) (error : AccessError)
  /-- The newest result file of a suite was found. -/
  | latest (key : String) (path : Path)
  /-- A suite has no result file. -/
  | absent (key : String) (folder : Path)
  /-- Something in a list of records is no record. -/
  | skipped (item : Json)
  /-- Records were read. -/
  | loaded (count : Nat) (path : Path)
  /-- A result file is not used. -/
  | ignored (fault : LoadFault)
  /-- The report is complete. -/
  | assembled (located : Nat) (timestamp : String)
  /-- A file is about to be written. -/
  | writing (path : Path) (format : Format)
  /-- A file was written. -/
  | written (path : Path)

namespace Event

/-- How grave the event is. -/
def level : Event → Level
  | ignored _ => .warn
  | assembled .. | written _ => .info
  | resolved _ | unlisted .. | latest .. | absent .. | skipped _ | loaded .. | writing .. => .debug

/-- The part of the program that reports the event. -/
def target : Event → String
  | resolved _ => "benchviz_cli::cli"
  | unlisted .. | latest .. | absent .. => "benchviz::results::locator"
  | skipped _ | loaded .. | ignored _ => "benchviz::results::loader"
  | assembled .. => "benchviz"
  | writing .. | written _ => "benchviz::reporters"

/-- What is reported. -/
def message : Event → String
  | resolved _ => "resolved configuration"
  | unlisted folder e =>
      "Cannot scan results directory " ++ folder.text ++ ": " ++ e.message
  | latest key path => "Latest " ++ key ++ " result: " ++ path.text
  | absent key folder => "No " ++ key ++ " results in " ++ folder.text
  | skipped item => "Skipping non-object record: " ++ item.compact
  | loaded count path => "Loaded " ++ toString count ++ " records from " ++ path.text
  | ignored fault => "Ignoring result file: " ++ fault.message
  | assembled .. => "report assembled"
  | writing .. => "writing report"
  | written _ => "report written"

/-- Settings as data. -/
def settingsData (s : Settings) : Json :=
  .object [("results_dir", .ofString s.resultsFolder.text), ("output_dir", .ofString s.output.text),
    ("formats", .array (s.formats.map fun f => .ofString f.key)),
    ("max_file_size", .ofNat s.maxFileSize), ("project", .ofString s.project),
    ("subtitle", .ofString s.subtitle), ("badges", .array (s.badges.map .ofString))]

/-- What is reported beside the message. -/
def fields : Event → List (String × String)
  | resolved settings => [("config", (settingsData settings).compact)]
  | assembled located timestamp =>
      [("located", toString located), ("timestamp", timestamp)]
  | writing path format => [("path", path.text), ("format", format.key)]
  | written path => [("path", path.text)]
  | _ => []

/-- The name that the message has among the fields. -/
def messageName : String := "message"

/-- The names of all that is reported. -/
def fieldNames (e : Event) : List String := messageName :: e.fields.map (·.1)

/-! ### The event on a line -/

/-- Characters below this are written with two hexadecimal digits. -/
def extendedControls : Nat := 0x80

/-- The character steers a terminal. -/
def isControl (c : Char) : Bool :=
  c ∈ ['\x07', '\x08', '\x0c', '\x1b', '\x7f'] || (0x80 ≤ c.toNat && c.toNat ≤ 0x9f)

/-- Two hexadecimal digits. -/
def hexPair (n : Nat) : List Char := [Nat.digitChar (n / 16), Nat.digitChar (n % 16)]

/-- A character of a message; one that steers a terminal is written as its number. -/
def visibleChar (c : Char) : List Char :=
  if !isControl c then [c]
  else if c.toNat < extendedControls then '\\' :: 'x' :: hexPair c.toNat
  else '\\' :: 'u' :: '\x7b' :: (hexPair c.toNat ++ ['\x7d'])

/-- A message without characters that steer a terminal. -/
def visible (text : String) : String := String.ofList (text.toList.flatMap visibleChar)

/-- Target, message and fields. -/
def body (e : Event) : String :=
  e.target ++ ": " ++ visible e.message ++
    String.join (e.fields.map fun (name, value) => " " ++ name ++ "=" ++ value)

/-- The event on a line. -/
def line (e : Event) : String := e.level.name ++ " " ++ e.body

/-- The event on a line, with the time before it. -/
def stampedLine (e : Event) (now : Instant) : String :=
  now.microText ++ " " ++ Text.padLeft 5 e.level.name ++ " " ++ e.body

end Event

end BenchReport
