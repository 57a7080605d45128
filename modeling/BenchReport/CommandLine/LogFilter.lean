import BenchReport.CommandLine.Directive
import BenchReport.Text.Basic

/-!
# Which events are shown

A filter is a list of directives.  Of those that speak of an event one decides whether it
is shown.

## Main definitions

* `LogFilter` — the directives in force.
* `LogFilter.admits` — an event is shown.
* `LogFilter.parse?` — the directives of a text, which commas divide.
* `LogFilter.choose` — the directives that the environment or the verbosity asks for.
-/

namespace BenchReport

/-- The directives in force. -/
abbrev LogFilter := List Directive

namespace LogFilter

/-- The directive that decides about an event. -/
def directive? (filter : LogFilter) (e : Event) : Option Directive :=
  match filter.filter (·.covers e) with
  | [] => none
  | first :: rest => some (rest.foldl Directive.stronger first)

/-- An event is shown. -/
def admits (filter : LogFilter) (e : Event) : Bool :=
  (filter.directive? e).any (·.shows e.level)

/-- The directives of a text, which commas divide; nothing between commas is none. -/
def parse? (text : String) : Option LogFilter :=
  ((Text.split ',' text.toList).filter (! ·.isEmpty)).mapM Directive.parse?

/-- The environment variable that holds directives. -/
def variableName : String := "RUST_LOG"

/-- The directives that a verbosity stands for. -/
def ofVerbosity : Nat → String
  | 0 => "benchviz=error"
  | 1 => "benchviz=info"
  | _ => "benchviz=debug"

/-- The directives in the value of the environment variable, if they can be read, or else
those of a verbosity. -/
def choose (value : Option String) (verbosity : Nat) : LogFilter :=
  ((value.bind parse?).orElse fun _ => parse? (ofVerbosity verbosity)).getD []

end LogFilter

end BenchReport
