import BenchReport.Decimal.Numeral
import BenchReport.Event
import BenchReport.Pattern.Usable
import BenchReport.Text.Basic

/-!
# Directives on events

A directive says how grave events must be to be shown.  It speaks of the events whose
target begins with a certain text and which meet a condition.

## Main definitions

* `Condition`, `Directive` — what a directive says.
* `Directive.covers`, `Directive.shows` — it speaks of an event, and shows a level.
* `Directive.outranks` — which of two directives decides.
* `Directive.parse?` — the directive of a text.
-/

namespace BenchReport

/-- What a directive asks of an event besides its target. -/
inductive Condition where
  /-- Nothing. -/
  | always
  /-- The event has a field of this name. -/
  | hasField (name : String)
  /-- The event belongs to a stretch of the run of a certain name, or of a certain value of
  a field.  Runs have no such stretches. -/
  | inStretch
  deriving DecidableEq

namespace Condition

/-- An event meets the condition. -/
def holds (e : Event) : Condition → Bool
  | always => true
  | hasField name => e.fieldNames.contains name
  | inStretch => false

/-- The name of the field. -/
def field? : Condition → Option String
  | hasField name => some name
  | _ => none

end Condition

/-- Which events of which targets are shown. -/
structure Directive where
  /-- The targets begin with this. -/
  target : String
  /-- What the events must meet besides. -/
  condition : Condition
  /-- The events are at least as grave; there are none without a level. -/
  level : Option Level
  deriving DecidableEq

namespace Directive

/-- The directive says something about an event. -/
def covers (d : Directive) (e : Event) : Bool :=
  d.target.toList.isPrefixOf e.target.toList && d.condition.holds e

/-- The directive shows events of a level. -/
def shows (d : Directive) (level : Level) : Bool :=
  match d.level with
  | some limit => level.rank ≤ limit.rank
  | none => false

/-- Of directives about one event the one with the longer target decides, then one that
asks for a field, then the one whose field has the greater name. -/
def outranks (a b : Directive) : Bool :=
  b.target.utf8ByteSize < a.target.utf8ByteSize ||
    (b.target.utf8ByteSize == a.target.utf8ByteSize &&
      match b.condition.field?, a.condition.field? with
      | none, some _ => true
      | some s, some t => s < t
      | _, none => false)

/-- Of two directives the one that decides: the second, unless the first outranks it. -/
def stronger (a b : Directive) : Directive := if a.outranks b then a else b

/-! ### Levels -/

/-- A text without regard to capital letters. -/
def lower (text : List Char) : String := String.ofList (text.map Char.toLower)

/-- The level of a name or number; `off` and zero are none. -/
def levelOf? (text : List Char) : Option (Option Level) :=
  match Settings.readSize? text with
  | some 0 => some none
  | some rank => (Level.all.find? fun l => l.rank == rank).map some
  | none =>
      if lower text = "off" then some none
      else (Level.all.find? fun l => lower l.name.toList == lower text).map some

/-! ### Places

The parts of a directive are found in its text without the white space at the ends, but
they are taken at the same places of the text with it.  So white space at the end belongs
to the last part, and white space in front shifts all parts. -/

/-- The text of a directive. -/
structure Script where
  /-- The text. -/
  given : List Char
  /-- The text without the white space at its ends. -/
  body : List Char

namespace Script

/-- The text of a directive. -/
def ofText (text : List Char) : Script := ⟨text, Text.trim text⟩

/-- The place at which some end of the body begins. -/
def place (s : Script) (rest : List Char) : Nat := Text.byteSize s.body - Text.byteSize rest

/-- The part from where one end of the body begins to where another begins. -/
def part? (s : Script) (start stop : List Char) : Option (List Char) :=
  Text.slice? s.given (s.place start) (s.place stop)

/-- The part from where an end of the body begins to the end of the text. -/
def tail? (s : Script) (start : List Char) : Option (List Char) :=
  Text.dropBytes? (s.place start) s.given

end Script

/-- The parts before and behind the first character that meets a condition. -/
def cut (stops : Char → Bool) (text : List Char) : List Char × List Char :=
  (text.takeWhile (! stops ·), text.dropWhile (! stops ·))

/-- The level that stands behind target and condition: all events when none is written or
nothing follows the equals sign. -/
def levelAt? (s : Script) : List Char → Option (Option Level)
  | [] => some (some .trace)
  | '=' :: rest => do
      let written ← s.tail? rest
      if written.isEmpty then some (some .trace) else levelOf? written
  | _ => none

/-! ### Conditions -/

/-- Names of numbers that are not finite. -/
def numberNames : List String := ["inf", "infinity", "nan"]

/-- The text is a number: a numeral or a name, with an optional sign. -/
def isNumber (text : List Char) : Bool :=
  (Numeral.parse? text).isSome || lower (Numeral.readSign text).2 ∈ numberNames

/-- A text that a value can be compared with: a number or a regular expression. -/
def isComparand (text : List Char) : Bool := isNumber text || Pattern.isUsable text

/-- The condition on a field: its name, perhaps with a value behind an equals sign.  A
second equals sign ends the value. -/
def fieldCondition? (text : List Char) : Option Condition :=
  match cut (· == '=') text with
  | (name, []) => if name.isEmpty then none else some (.hasField (String.ofList name))
  | (_, _ :: value) => if isComparand (cut (· == '=') value).1 then some .inStretch else none

/-- Reads a condition up to its closing bracket, behind the opening one: the name of a
stretch, perhaps followed by a field in braces. -/
def readCondition? (s : Script) (text : List Char) : Option (Condition × List Char) :=
  match cut (fun c => c == ']' || c == '\x7b') text with
  | (_, ']' :: rest) => some (.inStretch, rest)
  | (stretch, _ :: start) =>
      match (cut (· == '\x7d') start).2 with
      | brace :: ']' :: rest => do
          let condition ← fieldCondition? (← s.part? start (brace :: ']' :: rest))
          return (if stretch.isEmpty then condition else .inStretch, rest)
      | _ => none
  | _ => none

/-! ### Directives -/

/-- A character that a target or level can begin with. -/
def opens (c : Char) : Bool := c ∈ ['-', ':', '_'] || Text.isAlphanumeric c

/-- A level or a target alone; a target alone shows all its events. -/
def ofWord (word : List Char) : Directive :=
  match levelOf? word with
  | some level => ⟨"", .always, level⟩
  | none => ⟨String.ofList word, .always, some .trace⟩

/-- A directive whose target ends where an end of the body begins: with a condition, or
with a level. -/
def withTarget? (s : Script) (rest : List Char) : Option Directive := do
  let target ← s.part? s.body rest
  match rest with
  | '[' :: rest =>
      let (condition, rest) ← readCondition? s rest
      return ⟨String.ofList target, condition, ← levelAt? s rest⟩
  | _ => return ⟨String.ofList target, .always, ← levelAt? s rest⟩

/-- The directive of a text: a level; or a target, a condition in brackets or both, and
perhaps a level behind an equals sign. -/
def parse? (text : List Char) : Option Directive :=
  let s := Script.ofText text
  match s.body with
  | [] => none
  | '[' :: _ => withTarget? s s.body
  | c :: _ =>
      if !opens c then none
      else
        match (cut (fun c => c == '[' || c == '=') s.body).2 with
        | [] => some (ofWord s.given)
        | rest => withTarget? s rest

end Directive

end BenchReport
