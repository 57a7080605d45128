import BenchReport.Results.Collect

/-!
# Results as a function of the files

Finding and reading result files only looks: the outcome is a function of the files, and
nothing but the reported events changes.  This file names these functions, so that what is
said about results is said about stores, without requests and answers.

## Main definitions

* `Job.Looks` — a job ends with a function of the files and only reports events.
* `ResultFile.newestIn`, `Record.inFile`, `SuiteResults.inStore` — what the jobs find.

## Main results

* `Job.Looks.bind` — looking, and then looking again, is looking.
* `ResultFile.looks_locate`, `Record.looks_load` — finding and reading result files.
* `Inputs.results_collect` — **what is collected for a suite is a function of the files.**
-/

namespace BenchReport

namespace Job

variable {α β : Type}

/-- A job only looks: it ends with a function of the files, and all that it changes in a
world are the reported events. -/
def Looks (job : Job α) (value : Store → α) : Prop :=
  ∀ w : World, ∃ reports,
    job.run w = (value w.files, { w with events := w.events ++ reports })

theorem looks_pure (a : α) : (pure a : Job α).Looks fun _ => a :=
  fun w => ⟨[], by simp⟩

theorem Looks.bind {job : Job α} {value : Store → α} {f : α → Job β} {g : α → Store → β}
    (hjob : job.Looks value) (hf : ∀ a, (f a).Looks (g a)) :
    (job >>= f).Looks fun s => g (value s) s := by
  intro w
  obtain ⟨reports, hrun⟩ := hjob w
  obtain ⟨more, hmore⟩ := hf (value w.files) { w with events := w.events ++ reports }
  refine ⟨reports ++ more, ?_⟩
  rw [run_bind, hrun, hmore, List.append_assoc]

theorem looks_list (folder : Path) :
    (list folder).Looks fun s => (s.list folder).map (·.map .ok) :=
  fun w => ⟨[], by simp [list, run, World.answer]⟩

theorem looks_status (path : Path) : (status path).Looks (·.status path) :=
  fun w => ⟨[], by simp [status, run, World.answer]⟩

theorem looks_read (path : Path) : (read path).Looks (·.read path) :=
  fun w => ⟨[], by simp [read, run, World.answer]⟩

theorem looks_note (event : Event) : (note event).Looks fun _ => () :=
  fun _ => ⟨[event], rfl⟩

/-- Looking at one thing after the other. -/
theorem looks_findAll {f : α → Job (Option β)} {g : Store → α → Option β}
    (hf : ∀ a, (f a).Looks (g · a)) (l : List α) :
    (findAll f l).Looks fun s => l.filterMap (g s) := by
  induction l with
  | nil => exact looks_pure []
  | cons a l ih =>
    have hlist : (fun s => (a :: l).filterMap (g s)) =
        fun s => (g s a).toList ++ l.filterMap (g s) := by
      funext s
      cases h : g s a <;> simp [h]
    rw [hlist]
    exact (hf a).bind fun found => ih.bind fun others => looks_pure _

theorem looks_forEach {f : α → Job Unit} (hf : ∀ a, (f a).Looks fun _ => ()) (l : List α) :
    (forEach f l).Looks fun _ => () := by
  induction l with
  | nil => exact looks_pure ()
  | cons a l ih => exact (hf a).bind fun _ => ih

end Job

/-! ### The newest result file -/

namespace ResultFile

/-- The result file that a name in a folder stands for. -/
def namedIn (folder : Path) (key : String) (s : Store) (name : FileName) : Option ResultFile :=
  match name.text? with
  | none => none
  | some text =>
      if hasPattern key.toList text.toList then
        match s.status (folder.join ⟨text⟩) with
        | .ok (.file _ modified) => some ⟨folder.join ⟨text⟩, modified⟩
        | _ => none
      else none

/-- The newest result file of a key in a folder. -/
def newestIn (folder : Path) (key : String) (s : Store) : Option ResultFile :=
  match s.list folder with
  | .error _ => none
  | .ok names => newest? (names.filterMap (namedIn folder key s))

theorem looks_ofName? (folder : Path) (key : String) (name : FileName) :
    (ofName? folder key name).Looks (namedIn folder key · name) := by
  unfold ofName? namedIn
  cases name.text? with
  | none => exact Job.looks_pure none
  | some text =>
    simp only
    split
    · refine (Job.looks_status _).bind
        (g := fun (status : Except AccessError Status) (_ : Store) => (match status with
          | .ok (.file _ modified) => some ⟨folder.join ⟨text⟩, modified⟩
          | _ => none : Option ResultFile)) fun status => ?_
      cases status with
      | error e => exact Job.looks_pure _
      | ok status => cases status <;> exact Job.looks_pure _
    · exact Job.looks_pure none

/-- The result file that an entry of a folder stands for. -/
def entryIn (folder : Path) (key : String) (s : Store) :
    Except AccessError FileName → Option ResultFile
  | .error _ => none
  | .ok name => namedIn folder key s name

theorem looks_ofListed? (folder : Path) (key : String) (entry : Except AccessError FileName) :
    (ofListed? folder key entry).Looks (entryIn folder key · entry) := by
  cases entry with
  | error e => exact Job.looks_pure none
  | ok name => exact looks_ofName? folder key name

/-- In a store every entry of a folder has a name that can be read. -/
theorem newestIn_eq_entries (folder : Path) (key : String) (s : Store) :
    newestIn folder key s = match (s.list folder).map (·.map .ok) with
      | .error _ => none
      | .ok entries => newest? (entries.filterMap (entryIn folder key s)) := by
  rw [newestIn]
  cases s.list folder with
  | error e => rfl
  | ok names => simp [Except.map, List.filterMap_map, Function.comp_def, entryIn]

theorem looks_locate (folder : Path) (key : String) :
    (locate folder key).Looks (newestIn folder key) := by
  rw [funext (newestIn_eq_entries folder key)]
  refine (Job.looks_list folder).bind
    (g := fun (entries : Except AccessError (List (Except AccessError FileName))) s =>
      match entries with
      | .error _ => none
      | .ok entries => newest? (entries.filterMap (entryIn folder key s))) fun entries => ?_
  cases entries with
  | error e => exact (Job.looks_note _).bind fun _ => Job.looks_pure none
  | ok entries =>
    exact (Job.looks_findAll (looks_ofListed? folder key) entries).bind fun files =>
      (Job.looks_note _).bind fun _ => Job.looks_pure _

end ResultFile

/-! ### The records of a result file -/

namespace Record

/-- The items of the list in a file, or why there are none. -/
def itemsIn (path : Path) (limit : Nat) (s : Store) : Except LoadFault (List Json) :=
  match s.status path with
  | .error e => .error (.unreadable path e)
  | .ok status =>
      match LoadFault.checkSize path limit status.size with
      | .error fault => .error fault
      | .ok () =>
          match s.read path with
          | .error e => .error (.unreadable path e)
          | .ok content => itemsOfContent path content

/-- The records of a file; none when it cannot be used. -/
def inFile (limit : Nat) (s : Store) (path : Path) : List Record :=
  match itemsIn path limit s with
  | .error _ => []
  | .ok items => ofItems items

theorem looks_readItems (path : Path) (limit : Nat) :
    (readItems path limit).Looks (itemsIn path limit) := by
  -- size first, content second; each answer ends the job or leads to the next request
  refine (Job.looks_status path).bind
    (g := fun (status : Except AccessError Status) s => (match status with
      | .error e => .error (.unreadable path e)
      | .ok status =>
          match LoadFault.checkSize path limit status.size with
          | .error fault => .error fault
          | .ok () =>
              match s.read path with
              | .error e => .error (.unreadable path e)
              | .ok content => itemsOfContent path content : Except LoadFault (List Json)))
    fun status => ?_
  cases status with
  | error e => exact Job.looks_pure _
  | ok status =>
    simp only
    cases LoadFault.checkSize path limit status.size with
    | error fault => exact Job.looks_pure _
    | ok =>
      refine (Job.looks_read path).bind
        (g := fun (content : Except AccessError ByteArray) _ => (match content with
          | .error e => .error (.unreadable path e)
          | .ok content => itemsOfContent path content : Except LoadFault (List Json)))
        fun content => ?_
      cases content <;> exact Job.looks_pure _

theorem looks_tryLoad (path : Path) (limit : Nat) :
    (tryLoad path limit).Looks fun s => (itemsIn path limit s).map ofItems := by
  refine (looks_readItems path limit).bind (g := fun items _ => items.map ofItems)
    fun items => ?_
  cases items with
  | error fault => exact Job.looks_pure _
  | ok items =>
    exact (Job.looks_forEach (fun _ => Job.looks_note _) _).bind fun _ => Job.looks_pure _

theorem looks_load (file : Option ResultFile) (limit : Nat) :
    (load file limit).Looks fun s => (file.map fun f => inFile limit s f.path).getD [] := by
  cases file with
  | none => exact Job.looks_pure []
  | some file =>
    have hvalue : (fun s => ((some file).map fun f => inFile limit s f.path).getD []) =
        fun s => match (itemsIn file.path limit s).map ofItems with
          | .error _ => []
          | .ok records => records := by
      funext s
      simp only [Option.map_some, Option.getD_some, inFile]
      cases itemsIn file.path limit s <;> rfl
    rw [hvalue]
    refine (looks_tryLoad file.path limit).bind
      (g := fun (records : Except LoadFault (List Record)) _ => match records with
        | .error _ => []
        | .ok records => records) fun records => ?_
    cases records <;> exact (Job.looks_note _).bind fun _ => Job.looks_pure _

end Record

/-! ### The results of all suites -/

/-- The results of a suite in a store. -/
def SuiteResults.inStore (settings : Settings) (s : Store) (suite : Suite) : SuiteResults where
  suite := suite
  file := ResultFile.newestIn settings.resultsFolder suite.key s
  records := ((ResultFile.newestIn settings.resultsFolder suite.key s).map
    fun f => Record.inFile settings.maxFileSize s f.path).getD []

theorem SuiteResults.looks_collect (settings : Settings) (suite : Suite) :
    (SuiteResults.collect settings suite).Looks (inStore settings · suite) :=
  (ResultFile.looks_locate _ _).bind fun file => (Record.looks_load file _).bind fun _ =>
    Job.looks_pure _

namespace Inputs

theorem looks_collectAll (settings : Settings) (suites : List Suite) :
    ∀ inputs : Inputs, (collectAll settings suites inputs).Looks fun s =>
      suites.foldl (fun inputs suite => inputs.put (.inStore settings s suite)) inputs := by
  induction suites with
  | nil => exact fun inputs => Job.looks_pure inputs
  | cons suite rest ih =>
    intro inputs
    exact (SuiteResults.looks_collect settings suite).bind (g := fun results s =>
      rest.foldl (fun inputs suite => inputs.put (.inStore settings s suite)) (inputs.put results))
      fun results => ih (inputs.put results)

/-- **What is collected for a suite is a function of the files.** -/
theorem results_collect (settings : Settings) (w : World) (suite : Suite) :
    ((collect settings).run w).1.results suite = .inStore settings w.files suite := by
  obtain ⟨reports, hrun⟩ := looks_collectAll settings Suite.all empty w
  rw [collect, hrun]
  cases suite <;> rfl

end Inputs

end BenchReport
