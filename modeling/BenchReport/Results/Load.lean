import BenchReport.Job
import BenchReport.Record
import BenchReport.Results.Inputs

/-!
# Records of a result file

A file that cannot be used has no records; why it cannot be used is only reported.

## Main definitions

* `LoadFault.checkSize`, `Record.itemsOfContent` — what is wrong with a size or a content.
* `Record.tryLoad` — the records of a file, or why there are none.
* `Record.load` — the records of a file that may be absent.
-/

namespace BenchReport

/-- What is wrong with the size of a file. -/
def LoadFault.checkSize (path : Path) (limit size : Nat) : Except LoadFault Unit :=
  if limit < size then .error (.tooLarge path size limit) else .ok ()

namespace Record

/-- The items of the list that a content is the text of. -/
def itemsOfContent (path : Path) (content : ByteArray) : Except LoadFault (List Json) :=
  match String.fromUTF8? content with
  | none => .error (.unreadable path .notText)
  | some text =>
      match Json.parse? text with
      | none => .error (.malformed path)
      | some (.array items) => .ok items
      | some _ => .error (.notAList path)

/-- The items that are records. -/
def ofItems (items : List Json) : List Record := items.filterMap ofJson?

/-- The items that are no records. -/
def skippedItems (items : List Json) : List Json := items.filter fun v => (ofJson? v).isNone

/-- The items of the list in a file, or why there are none: its size is looked at before
its content. -/
def readItems (path : Path) (limit : Nat) : Job (Except LoadFault (List Json)) := do
  match ← Job.status path with
  | .error e => return .error (.unreadable path e)
  | .ok status =>
      match LoadFault.checkSize path limit status.size with
      | .error fault => return .error fault
      | .ok () =>
          match ← Job.read path with
          | .error e => return .error (.unreadable path e)
          | .ok content => return itemsOfContent path content

/-- The records of a file with at most `limit` bytes, or why there are none. -/
def tryLoad (path : Path) (limit : Nat) : Job (Except LoadFault (List Record)) := do
  match ← readItems path limit with
  | .error fault => return .error fault
  | .ok items =>
      Job.forEach (fun item => Job.note (.skipped item)) (skippedItems items)
      return .ok (ofItems items)

/-- The records of a file that may be absent; none when it cannot be used. -/
def load (file : Option ResultFile) (limit : Nat) : Job (List Record) :=
  match file with
  | none => return []
  | some file => do
      match ← tryLoad file.path limit with
      | .ok records =>
          Job.note (.loaded records.length file.path)
          return records
      | .error fault =>
          Job.note (.ignored fault)
          return []

end Record

end BenchReport
