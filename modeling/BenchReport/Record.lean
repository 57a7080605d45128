import BenchReport.Json.Reader
import BenchReport.Text.Basic

/-!
# Records

A result file is a list of loosely typed records.  A record belongs to a scenario by the
text in its `test` field; a figure is one of its fields, read as a finite number when it
can be.

## Main definitions

* `Record`, `Record.isEmpty`, `Record.get?`, `Record.scenario?` — a record and its fields.
* `Record.findWhere`, `Record.find`, `Record.findVariant` — the first record of a scenario.
* `Record.figure?` — a field read as a finite number.
* `Record.ofJson?`, `Record.listOfJson?` — the record, or the records, of a JSON value.
-/

namespace BenchReport

/-- A record: named values of any kind. -/
structure Record where
  /-- The fields, in ascending order of their names when the record was read. -/
  fields : List (String × Json)

namespace Record

/-- The record without fields. -/
def empty : Record := ⟨[]⟩

/-- The record has no fields. -/
def isEmpty (r : Record) : Bool := r.fields.isEmpty

/-- The value of a field. -/
def get? (r : Record) (field : String) : Option Json := Json.fieldOf? field r.fields

/-- The field that names the scenario. -/
def scenarioField : String := "test"

/-- The name of the scenario, when it is a text. -/
def scenario? (r : Record) : Option String :=
  match r.get? scenarioField with
  | some (.scalar (.string name)) => some name
  | _ => none

/-- The record as a JSON value. -/
def toJson (r : Record) : Json := .object r.fields

/-- The record of a JSON value that is an object. -/
def ofJson? : Json → Option Record
  | .object fields => some ⟨fields⟩
  | _ => none

/-- The records of a JSON value that is a list of objects and nothing else. -/
def listOfJson? : Json → Option (List Record)
  | .array items => items.mapM ofJson?
  | _ => none

/-! ### The first record of a scenario -/

/-- The first record of a scenario that satisfies a condition, or the empty record. -/
def findWhere (records : List Record) (scenario : String) (accepts : Record → Bool) : Record :=
  (records.find? fun r => r.scenario? == some scenario && accepts r).getD empty

/-- The first record of a scenario, or the empty record. -/
def find (records : List Record) (scenario : String) : Record :=
  findWhere records scenario fun _ => true

/-- The field is a number and the same number as `value`. -/
def hasNumber (r : Record) (field : String) (value : Binary64) : Bool :=
  match r.get? field with
  | some (.scalar (.number x)) => x.toBinary64.sameNumber value
  | _ => false

/-- The first record of a scenario that has a certain number in a field, or the empty
record.  A text of digits is no number here. -/
def findVariant (records : List Record) (scenario field : String) (value : Binary64) : Record :=
  findWhere records scenario fun r => r.hasNumber field value

/-! ### Figures -/

/-- A value read as a number: numbers, texts that are numerals, and `true`. -/
def numberOf? : Json → Option Binary64
  | .scalar (.number x) => some x.toBinary64
  | .scalar (.string text) => Numeral.parse? (Text.trim text.toList)
  | .scalar (.bool true) => some 1
  | _ => none

/-- A field read as a finite number. -/
def figure? (r : Record) (field : String) : Option Binary64 :=
  ((r.get? field).bind numberOf?).filter Binary64.isFinite

/-- A field read as a finite number, or else a default. -/
def figureD (r : Record) (field : String) (default : Binary64) : Binary64 :=
  (r.figure? field).getD default

end Record

end BenchReport
