import BenchReport.Calendar
import BenchReport.Files.Path

/-!
# A store of files

A store holds files, folders and links at locations.  Paths lead through it from the
root; the root is the working folder too.  A link stands for the path in it wherever a
path goes on behind it or is followed to its end.

## Main definitions

* `FileName`, `Location`, `Node`, `Store` — what a store holds, and where.
* `Store.node?`, `Store.put`, `Store.erase` — one location.
* `Store.walk`, `Store.resolve` — where a path leads.
* `Store.status`, `Store.read`, `Store.list` — what is there.
* `Store.write`, `Store.makeFolder`, `Store.makeLink`, `Store.remove` — changes.
-/

namespace BenchReport

/-- The name of a file or folder inside its folder. -/
inductive FileName where
  /-- A name that is encoded text. -/
  | text (name : String)
  /-- The bytes of any other name. -/
  | raw (bytes : List UInt8)
  deriving DecidableEq

namespace FileName

/-- The name with given bytes. -/
def ofBytes (bytes : ByteArray) : FileName :=
  match String.fromUTF8? bytes with
  | some name => .text name
  | none => .raw bytes.toList

/-- The name, when it is encoded text. -/
def text? : FileName → Option String
  | .text name => some name
  | .raw _ => none

end FileName

/-- A place in a store: the names on the way to it, the innermost first. -/
abbrev Location := List FileName

/-- What is at a location. -/
inductive Node where
  /-- A file, and when it was last changed. -/
  | file (content : ByteArray) (modified : Instant)
  /-- A folder. -/
  | folder
  /-- A link. -/
  | link (target : Path)

/-- What a path leads to is a file or a folder. -/
inductive Status where
  /-- A file: its size in bytes, and when it was last changed. -/
  | file (size : Nat) (modified : Instant)
  /-- A folder. -/
  | folder
  deriving DecidableEq

/-- The size in bytes that a folder is given. -/
def folderSize : Nat := 4096

/-- The size in bytes. -/
def Status.size : Status → Nat
  | .file size _ => size
  | .folder => folderSize

/-- Files, folders and links.  What was made first stands first; the root is always
there and is not among the entries. -/
structure Store where
  /-- What is at which location. -/
  entries : List (Location × Node)
  /-- There is one thing at a location. -/
  distinct : (entries.map (·.1)).Nodup

namespace Store

/-- The store with nothing in its root. -/
def empty : Store := ⟨[], .nil⟩

/-! ### One location -/

/-- What is at a location. -/
def node? (s : Store) : Location → Option Node
  | [] => some .folder
  | name :: folder => s.entries.lookup (name :: folder)

/-- The names in a folder. -/
def names (s : Store) (folder : Location) : List FileName :=
  s.entries.filterMap fun (location, _) =>
    match location with
    | name :: parent => if parent = folder then some name else none
    | [] => none

/-- Puts something at a location, in place of what is there. -/
def put (s : Store) (location : Location) (node : Node) : Store :=
  if h : location ∈ s.entries.map (·.1) then
    { entries := s.entries.map fun e => if e.1 = location then (location, node) else e
      distinct := by
        have keys : (s.entries.map fun e => if e.1 = location then (location, node) else e).map
            (·.1) = s.entries.map (·.1) := by
          rw [List.map_map]
          apply List.map_congr_left
          intro e _
          by_cases he : e.1 = location <;> simp [he]
        rw [keys]
        exact s.distinct }
  else
    { entries := s.entries ++ [(location, node)]
      distinct := by
        rw [List.map_append, List.nodup_append]
        exact ⟨s.distinct, by simp, fun a ha b hb => by
          simp only [List.map_cons, List.map_nil, List.mem_singleton] at hb
          exact fun hab => h (hb ▸ hab ▸ ha)⟩ }

/-- Takes away what is at a location. -/
def erase (s : Store) (location : Location) : Store where
  entries := s.entries.filter fun e => e.1 != location
  distinct := List.Pairwise.sublist (List.filter_sublist.map _) s.distinct

/-! ### Where a path leads -/

/-- Where a path leads. -/
inductive Place where
  /-- To a file. -/
  | file (location : Location) (content : ByteArray) (modified : Instant)
  /-- To a folder. -/
  | folder (location : Location)
  /-- To a name that nothing has, in a folder. -/
  | vacant (folder : Location) (name : FileName)

/-- What a way is walked for. -/
inductive Purpose where
  /-- To see what is there. -/
  | look
  /-- To write a file.  A slash at the end means a folder then, whatever is there. -/
  | write
  deriving DecidableEq

/-- Nothing is left of a way but the slash at its end. -/
def onlySlash (rest : List Path.Step) : Bool := !rest.isEmpty && rest.all (· == .slash)

/-- Walks from a folder.  Where a link is met, `follow` walks from the folder with the
link, or from the root, first along the link and then along the rest. -/
def walkWith (s : Store) (purpose : Purpose)
    (follow : Location → List Path.Step → Except AccessError Place) (here : Location) :
    List Path.Step → Except AccessError Place
  | [] => .ok (.folder here)
  | .stay :: rest => s.walkWith purpose follow here rest
  | .slash :: rest => s.walkWith purpose follow here rest
  | .up :: rest => s.walkWith purpose follow here.tail rest
  | .into name :: rest =>
      if purpose = .write ∧ onlySlash rest then .error (.system .isFolder)
      else if Path.maxNameSize < name.utf8ByteSize then .error (.system .nameTooLong)
      else
        match s.node? (.text name :: here) with
        | none =>
            if rest.isEmpty then .ok (.vacant here (.text name))
            else .error (.system .notFound)
        | some .folder => s.walkWith purpose follow (.text name :: here) rest
        | some (.file content modified) =>
            if rest.isEmpty then .ok (.file (.text name :: here) content modified)
            else .error (.system .notFolder)
        | some (.link target) =>
            follow (if target.isAbsolute then [] else here) (target.fullSteps ++ rest)

/-- Walks from a folder, along a number of links at most. -/
def walk (s : Store) (purpose : Purpose) :
    Nat → Location → List Path.Step → Except AccessError Place
  | 0 => s.walkWith purpose fun _ _ => .error (.system .linkLoop)
  | links + 1 => s.walkWith purpose (s.walk purpose links)

/-- How many links a path may lead along. -/
def maxLinks : Nat := 40

/-- Where a way from the root leads. -/
def follow (s : Store) (purpose : Purpose) (steps : List Path.Step) : Except AccessError Place :=
  s.walk purpose maxLinks [] steps

/-- Where a path leads. -/
def resolve (s : Store) (purpose : Purpose) (p : Path) : Except AccessError Place := do
  p.check
  s.follow purpose p.fullSteps

/-! ### What is there -/

/-- What a path leads to. -/
def status (s : Store) (p : Path) : Except AccessError Status := do
  match ← s.resolve .look p with
  | .file _ content modified => return .file content.size modified
  | .folder _ => return .folder
  | .vacant .. => throw (.system .notFound)

/-- The content of a file. -/
def read (s : Store) (p : Path) : Except AccessError ByteArray := do
  match ← s.resolve .look p with
  | .file _ content _ => return content
  | .folder _ => throw (.system .isFolder)
  | .vacant .. => throw (.system .notFound)

/-- The names in a folder. -/
def list (s : Store) (p : Path) : Except AccessError (List FileName) := do
  match ← s.resolve .look p with
  | .file .. => throw (.system .notFolder)
  | .folder location => return s.names location
  | .vacant .. => throw (.system .notFound)

/-! ### Changes -/

/-- Writes a file, in place of a file that is there.  A store is never full and may be changed
everywhere, so a write fails only for where its path leads.  It is done at once: there is no store
after a write that fails, and a file that was to be replaced by it stays whole. -/
def write (s : Store) (p : Path) (content : ByteArray) (now : Instant) :
    Except AccessError Store := do
  match ← s.resolve .write p with
  | .file location .. => return s.put location (.file content now)
  | .folder _ => throw (.system .isFolder)
  | .vacant folder name => return s.put (name :: folder) (.file content now)

/-- The folder that all but the last step lead to, and the name in the last step.  A path
whose last step is no name means a folder that is there. -/
def parentOf (s : Store) (p : Path) : Except AccessError (Location × FileName) := do
  p.check
  match p.steps.getLast? with
  | some (.into name) =>
      match ← s.follow .look p.steps.dropLast with
      | .file .. => throw (.system .notFolder)
      | .folder location =>
          if Path.maxNameSize < name.utf8ByteSize then throw (.system .nameTooLong)
          else return (location, .text name)
      | .vacant .. => throw (.system .notFound)
  | _ => do
      let _ ← s.follow .look p.steps
      throw (.system .alreadyExists)

/-- Puts something where nothing is.  A link in the last step is not followed. -/
def make (s : Store) (p : Path) (node : Node) : Except AccessError Store := do
  let (folder, name) ← s.parentOf p
  match s.node? (name :: folder) with
  | some _ => throw (.system .alreadyExists)
  | none => return s.put (name :: folder) node

/-- Makes a folder.  As with a file, this fails only for where the path leads. -/
def makeFolder (s : Store) (p : Path) : Except AccessError Store := s.make p .folder

/-- Makes a link. -/
def makeLink (s : Store) (p target : Path) : Except AccessError Store := s.make p (.link target)

/-- Removes a file or a link. -/
def remove (s : Store) (p : Path) : Except AccessError Store := do
  let (folder, name) ← s.parentOf p
  match s.node? (name :: folder) with
  | some .folder => throw (.system .isFolder)
  | some _ => return s.erase (name :: folder)
  | none => throw (.system .notFound)

end Store

end BenchReport
