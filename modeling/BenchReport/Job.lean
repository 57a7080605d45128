import BenchReport.Event
import BenchReport.Files.Store

/-!
# Jobs

A job is a run of the program as data: it asks for one thing after the other, and what it
asks next may depend on the answers.  The same job can be answered by a store of files
and by the machine; what it does with the answers does not change.

## Main definitions

* `Request`, `Request.Answer` — what can be asked, and the answers.
* `Job` — a job; jobs are a monad.
* `World`, `World.answer` — a store, a clock, and what was reported and printed.
* `Job.run` — a job answered by a world.
-/

namespace BenchReport

/-- What a job can ask for. -/
inductive Request where
  /-- The entries of a folder. -/
  | list (folder : Path)
  /-- What a path leads to. -/
  | status (path : Path)
  /-- The content of a file. -/
  | read (path : Path)
  /-- That a file is written. -/
  | write (path : Path) (content : ByteArray)
  /-- That a folder is made. -/
  | makeFolder (path : Path)
  /-- The time. -/
  | clock
  /-- That an event is reported. -/
  | note (event : Event)
  /-- That a text is printed. -/
  | print (text : String)

/-- The answers to a request.  A folder that can be listed may still have entries that cannot be
read. -/
def Request.Answer : Request → Type
  | list _ => Except AccessError (List (Except AccessError FileName))
  | status _ => Except AccessError Status
  | read _ => Except AccessError ByteArray
  | write .. => Except AccessError Unit
  | makeFolder _ => Except AccessError Unit
  | clock => Instant
  | note _ => Unit
  | print _ => Unit

/-- A run of the program that ends with a value. -/
inductive Job (α : Type) : Type where
  /-- The end. -/
  | done (value : α)
  /-- A request, and what is done with the answer. -/
  | ask (request : Request) (next : request.Answer → Job α)

namespace Job

/-- One job after the other. -/
protected def bind {α β : Type} : Job α → (α → Job β) → Job β
  | done value, f => f value
  | ask request next, f => ask request fun answer => (next answer).bind f

instance : Monad Job where
  pure := done
  bind := Job.bind

/-! ### Single requests -/

/-- The entries of a folder: for each its name, if it can be read. -/
def list (folder : Path) : Job (Except AccessError (List (Except AccessError FileName))) :=
  ask (.list folder) done

/-- What a path leads to. -/
def status (path : Path) : Job (Except AccessError Status) := ask (.status path) done

/-- The content of a file. -/
def read (path : Path) : Job (Except AccessError ByteArray) := ask (.read path) done

/-- Writes a file. -/
def write (path : Path) (content : ByteArray) : Job (Except AccessError Unit) :=
  ask (.write path content) done

/-- Makes a folder. -/
def makeFolder (path : Path) : Job (Except AccessError Unit) := ask (.makeFolder path) done

/-- The time. -/
def clock : Job Instant := ask .clock done

/-- Reports an event. -/
def note (event : Event) : Job Unit := ask (.note event) done

/-- Prints a text. -/
def print (text : String) : Job Unit := ask (.print text) done

/-! ### Lists -/

/-- What a job finds for the members of a list, one after the other. -/
def findAll {α β : Type} (f : α → Job (Option β)) : List α → Job (List β)
  | [] => return []
  | a :: rest => do
      let found ← f a
      let others ← findAll f rest
      return found.toList ++ others

/-- A job for every member of a list, one after the other. -/
def forEach {α : Type} (f : α → Job Unit) : List α → Job Unit
  | [] => return ()
  | a :: rest => do
      f a
      forEach f rest

end Job

/-! ### Answers from a store -/

/-- A store of files, a clock that stands, and what was reported and printed so far. -/
structure World where
  /-- The files. -/
  files : Store
  /-- The time. -/
  now : Instant
  /-- The reported events, in order. -/
  events : List Event
  /-- The printed text. -/
  printed : String

namespace World

/-- A world in which nothing was reported or printed. -/
def quiet (files : Store) (now : Instant) : World := ⟨files, now, [], ""⟩

/-- The world after a change to its files, which may fail and then leaves them all as they
were. -/
def change (w : World) (result : Except AccessError Store) : Except AccessError Unit × World :=
  match result with
  | .ok files => (.ok (), { w with files := files })
  | .error e => (.error e, w)

/-- The answer to a request, and the world afterwards.  In a store every entry can be read, and
there is room for every file.  So a world refuses to write a file or to make a folder for the shape
of its path only; a machine has further reasons, and may leave a part of a file behind. -/
def answer (w : World) : (request : Request) → request.Answer × World
  | .list folder => ((w.files.list folder).map (·.map .ok), w)
  | .status path => (w.files.status path, w)
  | .read path => (w.files.read path, w)
  | .write path content => w.change (w.files.write path content w.now)
  | .makeFolder path => w.change (w.files.makeFolder path)
  | .clock => (w.now, w)
  | .note event => ((), { w with events := w.events ++ [event] })
  | .print text => ((), { w with printed := w.printed ++ text })

end World

/-- The value a job ends with when a world answers it, and the world afterwards. -/
def Job.run {α : Type} : Job α → World → α × World
  | .done value, w => (value, w)
  | .ask request next, w => (next (w.answer request).1).run (w.answer request).2

@[simp] theorem Job.run_pure {α : Type} (value : α) (w : World) :
    (pure value : Job α).run w = (value, w) := rfl

@[simp] theorem Job.run_bind {α β : Type} (job : Job α) (f : α → Job β) (w : World) :
    (job >>= f).run w = (f (job.run w).1).run (job.run w).2 := by
  induction job generalizing w with
  | done value => rfl
  | ask request next ih => exact ih _ _

end BenchReport
