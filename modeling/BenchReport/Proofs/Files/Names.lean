import BenchReport.Job
import BenchReport.Proofs.Files.Folder

/-!
# Names hold no slashes

A path is cut at its slashes, and so is the path in a link, so no way leads to a name with
a slash in it.  Whatever a job does, no such name comes into a store.

## Main definitions

* `Path.Step.Slashless`, `Location.Slashless` — steps and locations without such names.
* `Store.Place.Sound` — what is said of a place is so in the store.

## Main results

* `Store.sound_of_resolve` — **where a path leads is sound.**
* `Job.wellNamed_run` — **a job keeps the names of a store free of slashes.**
-/

namespace BenchReport

/-! ### Steps and locations -/

/-- The step is not into a name with a slash. -/
def Path.Step.Slashless : Path.Step → Prop
  | .into name => '/' ∉ name.toList
  | _ => True

theorem Path.slashless_of_mem_steps {p : Path} {step : Path.Step} (h : step ∈ p.steps) :
    step.Slashless := by
  obtain ⟨piece, hpiece, hstep⟩ := List.mem_filterMap.1 h
  have hslash : '/' ∉ piece := Text.notMem_of_mem_split hpiece
  unfold Path.stepOf? at hstep
  split at hstep
  · cases hstep
  · exact Option.some.inj hstep ▸ trivial
  · exact Option.some.inj hstep ▸ trivial
  · rw [← Option.some.inj hstep, Path.Step.Slashless, String.toList_ofList]
    exact hslash

theorem Path.slashless_of_mem_fullSteps {p : Path} {step : Path.Step} (h : step ∈ p.fullSteps) :
    step.Slashless := by
  rcases List.mem_append.1 h with h | h
  · exact Path.slashless_of_mem_steps h
  · split at h
    · exact List.mem_singleton.1 h ▸ trivial
    · cases h

/-- No name on the way to the location holds a slash. -/
def Location.Slashless (location : Location) : Prop :=
  ∀ name, FileName.text name ∈ location → '/' ∉ name.toList

theorem Location.slashless_nil : Location.Slashless [] := fun _ h => nomatch h

theorem Location.Slashless.tail {location : Location} (h : location.Slashless) :
    Location.Slashless location.tail :=
  fun name hname => h name (List.mem_of_mem_tail hname)

theorem Location.Slashless.cons {location : Location} (h : location.Slashless) {name : String}
    (hname : '/' ∉ name.toList) : Location.Slashless (.text name :: location) := by
  intro other hother
  rcases List.mem_cons.1 hother with hother | hother
  · obtain rfl := FileName.text.inj hother
    exact hname
  · exact h other hother

namespace Store

/-! ### Where a path leads -/

/-- What is said of the place is so in the store, and no name on the way holds a slash. -/
def Place.Sound (s : Store) : Place → Prop
  | .file location content modified =>
      s.node? location = some (.file content modified) ∧ Location.Slashless location
  | .folder location => Location.Slashless location
  | .vacant around name => Location.Slashless (name :: around)

variable {s : Store}

theorem sound_of_walkWith {purpose : Purpose} {place : Place}
    {follow : Location → List Path.Step → Except AccessError Place}
    (hfollow : ∀ here steps, Location.Slashless here → (∀ step ∈ steps, step.Slashless) →
      follow here steps = .ok place → place.Sound s) :
    ∀ (steps : List Path.Step) (here : Location), Location.Slashless here →
      (∀ step ∈ steps, step.Slashless) → s.walkWith purpose follow here steps = .ok place →
      place.Sound s := by
  intro steps
  induction steps with
  | nil =>
    intro here hhere _ h
    rw [walkWith] at h
    exact Except.ok.inj h ▸ hhere
  | cons step rest ih =>
    intro here hhere hsteps h
    have hrest : ∀ step ∈ rest, step.Slashless := fun step hstep =>
      hsteps step (List.mem_cons_of_mem _ hstep)
    cases step with
    | stay => exact ih here hhere hrest h
    | up => exact ih here.tail hhere.tail hrest h
    | slash => exact ih here hhere hrest h
    | into name =>
      have hthere : Location.Slashless (.text name :: here) :=
        hhere.cons (hsteps _ List.mem_cons_self)
      rw [walkWith] at h
      split at h
      · cases h
      · split at h
        · cases h
        · cases hnode : s.node? (.text name :: here) with
          | none =>
            rw [hnode] at h
            simp only at h
            split at h
            · exact Except.ok.inj h ▸ hthere
            · cases h
          | some node =>
            rw [hnode] at h
            cases node with
            | file content modified =>
              simp only at h
              split at h
              · exact Except.ok.inj h ▸ ⟨hnode, hthere⟩
              · cases h
            | folder => exact ih _ hthere hrest h
            | link target =>
              -- a link leads on from the root or from here, by its own steps and then the rest
              refine hfollow _ _ ?_ ?_ h
              · split
                · exact Location.slashless_nil
                · exact hhere
              · intro step hstep
                rcases List.mem_append.1 hstep with hstep | hstep
                · exact Path.slashless_of_mem_fullSteps hstep
                · exact hrest step hstep

theorem sound_of_walk {purpose : Purpose} {place : Place} (links : Nat) :
    ∀ (here : Location) (steps : List Path.Step), Location.Slashless here →
      (∀ step ∈ steps, step.Slashless) → s.walk purpose links here steps = .ok place →
      place.Sound s := by
  -- on the links that may still be followed; the steps of one stretch are `sound_of_walkWith`
  induction links with
  | zero =>
    intro here steps hhere hsteps h
    exact sound_of_walkWith (fun _ _ _ _ h => by cases h) steps here hhere hsteps h
  | succ links ih =>
    intro here steps hhere hsteps h
    exact sound_of_walkWith ih steps here hhere hsteps h

theorem sound_of_follow {purpose : Purpose} {place : Place} {steps : List Path.Step}
    (hsteps : ∀ step ∈ steps, step.Slashless) (h : s.follow purpose steps = .ok place) :
    place.Sound s :=
  sound_of_walk maxLinks [] steps Location.slashless_nil hsteps h

/-- **Where a path leads is sound.** -/
theorem sound_of_resolve {purpose : Purpose} {p : Path} {place : Place}
    (h : s.resolve purpose p = .ok place) : place.Sound s := by
  obtain ⟨_, -, hfollow⟩ := bind_eq_ok.1 h
  exact sound_of_follow (fun _ => Path.slashless_of_mem_fullSteps) hfollow

/-! ### Changes -/

theorem wellNamed_empty : empty.WellNamed := fun _ h => nomatch h

theorem WellNamed.put (h : s.WellNamed) {location : Location} (hlocation : location.Slashless)
    (node : Node) : (s.put location node).WellNamed := by
  intro e he name hname
  rw [Store.put] at he
  split at he
  · obtain ⟨old, hold, rfl⟩ := List.mem_map.1 he
    split at hname
    · exact hlocation name hname
    · exact h old hold name hname
  · rcases List.mem_append.1 he with he | he
    · exact h e he name hname
    · rw [List.mem_singleton.1 he] at hname
      exact hlocation name hname

theorem WellNamed.erase (h : s.WellNamed) (location : Location) :
    (s.erase location).WellNamed :=
  fun e he => h e (List.mem_filter.1 he).1

variable {t : Store} {p : Path}

theorem WellNamed.write (h : s.WellNamed) {content : ByteArray} {now : Instant}
    (hwrite : s.write p content now = .ok t) : t.WellNamed := by
  obtain ⟨place, hplace, hput⟩ := bind_eq_ok.1 hwrite
  have hsound := sound_of_resolve hplace
  cases place with
  | file location old modified => exact Except.ok.inj hput ▸ h.put hsound.2 _
  | folder location => cases hput
  | vacant folder name => exact Except.ok.inj hput ▸ h.put hsound _

theorem slashless_of_parentOf {folder : Location} {name : FileName}
    (h : s.parentOf p = .ok (folder, name)) : Location.Slashless (name :: folder) := by
  obtain ⟨_, -, h⟩ := bind_eq_ok.1 h
  split at h
  · rename_i last hlast
    have hsteps : ∀ step ∈ p.steps.dropLast, step.Slashless := fun step hstep =>
      Path.slashless_of_mem_steps ((List.dropLast_sublist _).mem hstep)
    have hslash : Path.Step.Slashless (.into last) :=
      Path.slashless_of_mem_steps (List.mem_of_getLast? hlast)
    obtain ⟨place, hplace, h⟩ := bind_eq_ok.1 h
    cases place with
    | file location content modified => cases h
    | vacant around name => cases h
    | folder location =>
      simp only at h
      split at h
      · cases h
      · obtain ⟨rfl, rfl⟩ := Prod.mk.inj (Except.ok.inj h)
        exact Location.Slashless.cons (sound_of_follow hsteps hplace) hslash
  · obtain ⟨place, -, h⟩ := bind_eq_ok.1 h
    cases h

theorem WellNamed.make (h : s.WellNamed) {node : Node} (hmake : s.make p node = .ok t) :
    t.WellNamed := by
  obtain ⟨⟨folder, name⟩, hparent, hput⟩ := bind_eq_ok.1 hmake
  simp only at hput
  split at hput
  · cases hput
  · exact Except.ok.inj hput ▸ h.put (slashless_of_parentOf hparent) node

theorem WellNamed.remove (h : s.WellNamed) (hremove : s.remove p = .ok t) : t.WellNamed := by
  obtain ⟨⟨folder, name⟩, -, herase⟩ := bind_eq_ok.1 hremove
  simp only at herase
  split at herase
  · cases herase
  · exact Except.ok.inj herase ▸ h.erase _
  · cases herase

end Store

/-! ### Jobs -/

theorem World.wellNamed_change {w : World} {result : Except AccessError Store}
    (h : w.files.WellNamed) (hresult : ∀ files, result = .ok files → files.WellNamed) :
    (w.change result).2.files.WellNamed := by
  cases result with
  | error e => exact h
  | ok files => exact hresult files rfl

theorem World.wellNamed_answer {w : World} (h : w.files.WellNamed) (request : Request) :
    (w.answer request).2.files.WellNamed := by
  cases request with
  | write path content => exact wellNamed_change h fun _ => h.write
  | makeFolder path => exact wellNamed_change h fun _ => h.make
  | _ => exact h

/-- **A job keeps the names of a store free of slashes.** -/
theorem Job.wellNamed_run {α : Type} (job : Job α) :
    ∀ w : World, w.files.WellNamed → (job.run w).2.files.WellNamed := by
  induction job with
  | done value => exact fun _ h => h
  | ask request next ih => exact fun w h => ih _ _ (w.wellNamed_answer h request)

end BenchReport
