import BenchReport.Files.Error
import BenchReport.Text.Basic

/-!
# Paths

A path is kept as the text in which it was given, because messages show that text.  Read
as a way through folders it is a list of steps.

## Main definitions

* `Path`, `Path.join` — a path, and the path of something inside a folder.
* `Path.Step`, `Path.steps` — the way that a path describes.
* `Path.parent?`, `Path.ancestors` — the path without its last step, again and again.
* `Path.check` — what is wrong with the text alone.
-/

namespace BenchReport

/-- The name of a file or folder, as text. -/
structure Path where
  /-- The text of the path. -/
  text : String
  deriving DecidableEq

namespace Path

/-- The path starts at the root. -/
def isAbsolute (p : Path) : Bool := p.text.toList.head? == some '/'

/-- The path ends with a slash, so that it can only mean a folder. -/
def namesFolder (p : Path) : Bool := p.text.toList.getLast? == some '/'

/-- The path of something inside a folder.  An absolute path stays as it is. -/
def join (folder : Path) (inner : Path) : Path :=
  if inner.isAbsolute then inner
  else if folder.text.isEmpty then inner
  else if folder.namesFolder then ⟨folder.text ++ inner.text⟩
  else ⟨folder.text ++ "/" ++ inner.text⟩

/-! ### Steps -/

/-- A step on a way through folders. -/
inductive Step where
  /-- To where one is. -/
  | stay
  /-- To the folder around. -/
  | up
  /-- To what has a name. -/
  | into (name : String)
  /-- The slash at the end of a path: what was reached has to be a folder. -/
  | slash
  deriving DecidableEq

/-- The step that a stretch between slashes stands for; an empty one is none. -/
def stepOf? : List Char → Option Step
  | [] => none
  | ['.'] => some .stay
  | ['.', '.'] => some .up
  | name => some (.into (String.ofList name))

/-- The stretches between slashes. -/
def pieces (p : Path) : List (List Char) := Text.split '/' p.text.toList

/-- The way that the path describes. -/
def steps (p : Path) : List Step := p.pieces.filterMap stepOf?

/-- The way that the path describes, with the slash at its end. -/
def fullSteps (p : Path) : List Step := p.steps ++ if p.namesFolder then [.slash] else []

/-! ### Parents -/

/-- A stretch that leads nowhere. -/
def isIdle (piece : List Char) : Bool := piece == [] || piece == ['.']

/-- A list without the idle stretches at its end. -/
def trimIdle (pieces : List (List Char)) : List (List Char) :=
  (pieces.reverse.dropWhile isIdle).reverse

/-- The path without its last step.  Idle stretches are no steps, except for a dot at the
front; neither the root nor the empty path has a last step. -/
def parent? (p : Path) : Option Path :=
  match p.pieces with
  | [] => none
  | first :: rest =>
      match (trimIdle rest).reverse with
      | [] => if first = [] then none else some ⟨""⟩
      | _ :: before =>
          let kept := trimIdle before.reverse
          if first = [] ∧ kept = [] then some ⟨"/"⟩
          else some ⟨String.ofList (['/'].intercalate (first :: kept))⟩

/-- The paths of at most so many folders around, the innermost first. -/
def ancestorsUpTo (p : Path) : Nat → List Path
  | 0 => []
  | count + 1 =>
      match p.parent? with
      | some q => q :: q.ancestorsUpTo count
      | none => []

/-- The paths of the folders around, the innermost first.  Each is shorter than the one
before it, so there are no more of them than characters. -/
def ancestors (p : Path) : List Path := p.ancestorsUpTo p.text.length

/-! ### Texts that are no paths -/

/-- The length of a path in bytes stays below this. -/
def sizeLimit : Nat := 4096

/-- The greatest length of a name in bytes. -/
def maxNameSize : Nat := 255

/-- What is wrong with the text alone. -/
def check (p : Path) : Except AccessError Unit :=
  if '\x00' ∈ p.text.toList then .error .nulInPath
  else if p.text.isEmpty then .error (.system .notFound)
  else if sizeLimit ≤ p.text.utf8ByteSize then .error (.system .nameTooLong)
  else .ok ()

end Path

end BenchReport
