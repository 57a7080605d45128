import BenchReport.Job
import BenchReport.Results.Inputs

/-!
# The newest result file

Result files of a suite have names of a fixed pattern.  Of all files with such a name the
one that was changed last counts; of several changed at the same time, the first.

## Main definitions

* `ResultFile.hasPattern` — the pattern.
* `ResultFile.newest?` — the file that counts.
* `ResultFile.locate` — the job that finds it in a folder.
-/

namespace BenchReport.ResultFile

/-- What the names of result files end with. -/
def ending : List Char := ['.', 'j', 's', 'o', 'n']

/-- A name without the ending. -/
def stem? (name : List Char) : Option (List Char) :=
  if ending.isSuffixOf name then some (name.take (name.length - ending.length)) else none

/-- The name has the pattern of a key: the key, an underscore, anything, and the ending. -/
def hasPattern (key name : List Char) : Bool :=
  match stem? name with
  | some stem => (key ++ ['_']).isPrefixOf stem
  | none => false

/-- Of two files the one that was changed later; the first unless the second is newer. -/
def newer (a b : ResultFile) : ResultFile := if a.modified.before b.modified then b else a

/-- The file that was changed last. -/
def newest? : List ResultFile → Option ResultFile
  | [] => none
  | first :: rest => some (rest.foldl newer first)

/-- The result file that a name in a folder stands for: the name is text and has the
pattern, and it leads to a file. -/
def ofName? (folder : Path) (key : String) (name : FileName) : Job (Option ResultFile) :=
  match name.text? with
  | none => return none
  | some text =>
      if hasPattern key.toList text.toList then do
        let path := folder.join ⟨text⟩
        match ← Job.status path with
        | .ok (.file _ modified) => return some ⟨path, modified⟩
        | _ => return none
      else return none

/-- The result file that an entry of a folder stands for; none when its name cannot be read. -/
def ofListed? (folder : Path) (key : String) :
    Except AccessError FileName → Job (Option ResultFile)
  | .error _ => return none
  | .ok name => ofName? folder key name

/-- The event for what was found. -/
def found (folder : Path) (key : String) : Option ResultFile → Event
  | some file => .latest key file.path
  | none => .absent key folder

/-- Finds the newest result file of a key in a folder. -/
def locate (folder : Path) (key : String) : Job (Option ResultFile) := do
  match ← Job.list folder with
  | .error e =>
      Job.note (.unlisted folder e)
      return none
  | .ok entries =>
      let newest := newest? (← Job.findAll (ofListed? folder key) entries)
      Job.note (found folder key newest)
      return newest

end BenchReport.ResultFile
