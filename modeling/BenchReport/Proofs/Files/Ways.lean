import BenchReport.Proofs.Files.Growth

/-!
# Ways through a store that grows

A way to a folder still leads there when the store has grown.  A path that leads nowhere yet
may do so when folders come up, and the folder it leads to then is settled beforehand: it is
the folder that the path means.  A file is written into the folder that the path around it
leads to, unless a link has its name.

## Main definitions

* `Store.Means` — the folder that a path leads to, now or when folders have come up.
* `Store.LinkFree` — there are no links in the folder that a path means.
* `Store.Reached` — a path leads to the folder that it means, if that is there.
* `Store.Rooted` — what is in a store is in a folder.

## Main results

* `Store.exists_folder_of_walk` — a way to a name leads to a folder before it.
* `Store.exists_put_of_write` — **where a file is written.**
* `Store.resolve_of_write` — **what was written is found by its path.**
* `Store.KeepsWays.follow_folder` — a way to a folder stays.
* `Store.Means.eq_of_follow`, `Store.Means.exists_of_join` — a path that leads to a folder means
  this one only, and a path into a folder means what is in the folder.
-/

namespace BenchReport

/-- The way into a folder, without a slash behind it. -/
theorem Path.steps_join {folder : Path} {name : String} (hname : '/' ∉ name.toList)
    (hstep : stepOf? name.toList = some (.into name)) :
    (folder.join ⟨name⟩).steps = folder.steps ++ [.into name] := by
  obtain ⟨tail, hfull, htail⟩ := (folder.join ⟨name⟩).exists_fullSteps
  rw [fullSteps_join hname hstep] at hfull
  rcases List.eq_nil_or_concat tail with rfl | ⟨before, last, rfl⟩
  · rw [hfull, List.append_nil]
  · -- a slash would be the last step in place of the name
    rw [htail last (by simp), List.concat_eq_append, ← List.append_assoc] at hfull
    have hlast := (List.append_inj' hfull rfl).2
    cases hlast

namespace Store

variable {own : Location → Prop} {s t u : Store} {p : Path} {name : String} {location : Location}

/-! ### The folder around a name -/

theorem exists_folder_of_walkWith {purpose : Purpose} {place : Place}
    {follow follow' : Location → List Path.Step → Except AccessError Place}
    (hfollow : ∀ here steps, follow here (steps ++ [.into name]) = .ok place →
      ∃ location, follow' here steps = .ok (.folder location)) :
    ∀ (steps : List Path.Step) (here : Location),
      s.walkWith purpose follow here (steps ++ [.into name]) = .ok place →
      ∃ location, s.walkWith .look follow' here steps = .ok (.folder location) := by
  intro steps
  induction steps with
  | nil =>
    intro here _
    exact ⟨here, by rw [walkWith]⟩
  | cons step rest ih =>
    intro here h
    rw [List.cons_append] at h
    cases step with
    | stay => rw [walkWith] at h ⊢; exact ih here h
    | up => rw [walkWith] at h ⊢; exact ih here.tail h
    | slash => rw [walkWith] at h ⊢; exact ih here h
    | into first =>
      have hrest : (rest ++ [Path.Step.into name]).isEmpty = false := by simp
      rw [walkWith] at h
      rw [walkWith, if_neg (by simp)]
      split at h
      · cases h
      · split at h
        · cases h
        · rename_i hsize
          rw [if_neg hsize]
          -- the way goes on, so only a folder and a link can be here
          cases hnode : s.node? (.text first :: here) with
          | none => simp [hnode, hrest] at h
          | some node =>
            cases node with
            | file content modified => simp [hnode, hrest] at h
            | folder =>
              simp only [hnode] at h
              exact ih _ h
            | link target =>
              simp only [hnode, ← List.append_assoc] at h
              exact hfollow _ _ h

/-- A way to a name leads to a folder before it. -/
theorem exists_folder_of_walk {purpose : Purpose} {place : Place} (links : Nat) :
    ∀ (here : Location) (steps : List Path.Step),
      s.walk purpose links here (steps ++ [.into name]) = .ok place →
      ∃ location, s.walk .look links here steps = .ok (.folder location) := by
  induction links with
  | zero =>
    intro here steps h
    exact exists_folder_of_walkWith (fun _ _ h => by cases h) steps here h
  | succ links ih =>
    intro here steps h
    exact exists_folder_of_walkWith ih steps here h

/-- A path to a name leads to the entry of that name in the folder that the path around it leads
to, for every purpose and unless the entry is a link. -/
theorem exists_entry_of_resolve {purpose : Purpose} {place : Place} (hname : '/' ∉ name.toList)
    (hstep : Path.stepOf? name.toList = some (.into name))
    (hlink : ∀ location target, s.follow .look p.steps = .ok (.folder location) →
      s.node? (.text name :: location) ≠ some (.link target))
    (h : s.resolve purpose (p.join ⟨name⟩) = .ok place) :
    (p.join ⟨name⟩).check = .ok () ∧
      ∃ location, s.follow .look p.steps = .ok (.folder location) ∧
        s.entry location name = .ok place := by
  obtain ⟨_, hcheck, hwalk⟩ := bind_eq_ok.1 h
  rw [follow, Path.fullSteps_join hname hstep] at hwalk
  obtain ⟨location, hfolder⟩ := exists_folder_of_walk maxLinks [] p.steps hwalk
  refine ⟨hcheck, location, hfolder, ?_⟩
  -- behind the folder there is the step to the name, and it ends at the entry
  have hgoes : GoesOn purpose [Path.Step.into name] := fun _ => ⟨[], name, rfl⟩
  have hend : s.walk .look maxLinks [] (p.steps ++ []) = .ok (.folder location) := by
    rwa [List.append_nil]
  obtain ⟨left, happend⟩ := walk_append (.refl s) (by simp) hgoes maxLinks [] p.steps hend
  rw [← hwalk, happend]
  cases left <;> exact (walkWith_singleton (fun target => hlink location target hfolder) _ _).symm

/-- **A file is written into the folder that the path around it leads to**, in place of nothing
or of a file, unless a link has its name. -/
theorem exists_put_of_write {content : ByteArray} {now : Instant} (hname : '/' ∉ name.toList)
    (hstep : Path.stepOf? name.toList = some (.into name))
    (hlink : ∀ location target, s.follow .look p.steps = .ok (.folder location) →
      s.node? (.text name :: location) ≠ some (.link target))
    (hwrite : s.write (p.join ⟨name⟩) content now = .ok t) :
    ∃ location, s.follow .look p.steps = .ok (.folder location) ∧
      t = s.put (.text name :: location) (.file content now) ∧
      (s.node? (.text name :: location) = none ∨
        ∃ old before, s.node? (.text name :: location) = some (.file old before)) := by
  obtain ⟨place, hplace, hput⟩ := bind_eq_ok.1 hwrite
  obtain ⟨-, location, hfolder, hentry⟩ := exists_entry_of_resolve hname hstep hlink hplace
  have hlink := hlink location
  refine ⟨location, hfolder, ?_⟩
  rw [entry] at hentry
  split at hentry
  · cases hentry
  · cases hnode : s.node? (.text name :: location) with
    | none =>
      rw [hnode] at hentry
      obtain rfl := Except.ok.inj hentry
      exact ⟨(Except.ok.inj hput).symm, .inl rfl⟩
    | some node =>
      rw [hnode] at hentry
      cases node with
      | file old before =>
        obtain rfl := Except.ok.inj hentry
        exact ⟨(Except.ok.inj hput).symm, .inr ⟨old, before, rfl⟩⟩
      | folder =>
        obtain rfl := Except.ok.inj hentry
        cases hput
      | link target => exact absurd hnode (hlink target hfolder)

/-! ### Ways that stay -/

/-- A way to a folder stays, with slashes behind it or not. -/
theorem KeepsWays.walk_folder (h : s.KeepsWays t) {steps tail tail' : List Path.Step}
    (htail : ∀ step ∈ tail, step = .slash) (htail' : ∀ step ∈ tail', step = .slash)
    (hs : s.walk .look maxLinks [] (steps ++ tail) = .ok (.folder location)) :
    t.walk .look maxLinks [] (steps ++ tail') = .ok (.folder location) := by
  have hgoes : GoesOn .look tail' := fun h => by cases h
  obtain ⟨left, happend⟩ := walk_append h htail hgoes maxLinks [] steps hs
  rw [happend]
  cases left <;> exact walkWith_slashes htail' location

theorem KeepsWays.follow_folder (h : s.KeepsWays t)
    (hs : s.follow .look p.steps = .ok (.folder location)) :
    t.follow .look p.steps = .ok (.folder location) := by
  rw [follow, ← List.append_nil p.steps] at hs ⊢
  exact h.walk_folder (by simp) (by simp) hs

/-- A slash at the end of a path changes nothing about the folder that it leads to. -/
theorem resolve_eq_folder_iff :
    s.resolve .look p = .ok (.folder location) ↔
      p.check = .ok () ∧ s.follow .look p.steps = .ok (.folder location) := by
  obtain ⟨tail, hfull, htail⟩ := p.exists_fullSteps
  have hslash : s.follow .look p.fullSteps = .ok (.folder location) ↔
      s.follow .look p.steps = .ok (.folder location) := by
    rw [hfull, follow, follow]
    constructor
    · intro h
      rw [← List.append_nil p.steps]
      exact (KeepsWays.refl s).walk_folder htail (by simp) h
    · intro h
      rw [← List.append_nil p.steps] at h
      exact (KeepsWays.refl s).walk_folder (by simp) htail h
  rw [← hslash]
  exact bind_eq_ok.trans ⟨fun ⟨_, h⟩ => h, fun h => ⟨(), h⟩⟩

theorem KeepsWays.resolve_folder (h : s.KeepsWays t)
    (hs : s.resolve .look p = .ok (.folder location)) :
    t.resolve .look p = .ok (.folder location) := by
  rw [resolve_eq_folder_iff] at hs ⊢
  exact ⟨hs.1, h.follow_folder hs.2⟩

/-! ### Files that were written -/

/-- A name that is no link ends every way to it at its entry. -/
theorem exists_name_of_resolve {purpose : Purpose} {content : ByteArray} {modified : Instant}
    (hname : '/' ∉ name.toList) (hstep : Path.stepOf? name.toList = some (.into name))
    (hlinks : s.Unlinked)
    (h : s.resolve purpose (p.join ⟨name⟩) = .ok (.file location content modified)) :
    ∃ folder, location = .text name :: folder := by
  obtain ⟨-, folder, -, hentry⟩ :=
    exists_entry_of_resolve hname hstep (fun _ target _ => hlinks _ target) h
  exact ⟨folder, eq_of_entry hentry⟩

/-- **What was written is found by its path**, also when the store has changed further, if the ways
and the file itself were kept. -/
theorem resolve_of_write {content content' : ByteArray} {now now' : Instant}
    (hname : '/' ∉ name.toList) (hstep : Path.stepOf? name.toList = some (.into name))
    (hlinks : s.Unlinked) (hwrite : s.write (p.join ⟨name⟩) content now = .ok t)
    (hways : s.KeepsWays u) (hfolder : s.follow .look p.steps = .ok (.folder location))
    (hnode : u.node? (.text name :: location) = some (.file content' now')) :
    u.resolve .look (p.join ⟨name⟩) = .ok (.file (.text name :: location) content' now') := by
  obtain ⟨place, hplace, -⟩ := bind_eq_ok.1 hwrite
  obtain ⟨hcheck, other, hother, hentry⟩ :=
    exists_entry_of_resolve hname hstep (fun _ target _ => hlinks _ target) hplace
  obtain rfl : location = other :=
    Place.folder.inj (Except.ok.inj (hfolder.symm.trans hother))
  have hend : u.walk .look maxLinks [] (p.steps ++ []) = .ok (.folder location) := by
    rw [List.append_nil]
    exact hways.follow_folder hfolder
  have hlink : ∀ target, u.node? (.text name :: location) ≠ some (.link target) := by
    rw [hnode]
    exact fun _ h => nomatch h
  rw [resolve_eq, hcheck, Path.fullSteps_join hname hstep]
  show u.walk .look maxLinks [] (p.steps ++ [.into name]) = _
  rw [walk_into (by simp) hlink maxLinks [] p.steps hend, entry, hnode]
  -- the name was not too long when it was written
  rw [entry] at hentry
  split at hentry
  · cases hentry
  · rename_i hsize
    rw [if_neg hsize]

/-! ### Folders that are meant -/

/-- The path means the folder: it leads there, now or in a store that has grown. -/
def Means (s : Store) (p : Path) (location : Location) : Prop :=
  ∃ t : Store, s.Grows (fun _ => True) t ∧ t.follow .look p.steps = .ok (.folder location)

/-- In the folder that the path means there are no links, and it is none itself. -/
def LinkFree (s : Store) (p : Path) : Prop :=
  ∀ location inner target, s.Means p location → location <:+ inner →
    s.node? inner ≠ some (.link target)

/-- If the folder that the path means is there, the path leads to it. -/
def Reached (s : Store) (p : Path) : Prop :=
  ∀ location, s.Means p location → s.node? location = some .folder →
    s.follow .look p.steps = .ok (.folder location)

theorem Grows.means (h : s.Grows own t) (ht : t.follow .look p.steps = .ok (.folder location)) :
    s.Means p location :=
  ⟨t, h.mono fun _ _ => trivial, ht⟩

theorem LinkFree.linkless (h : s.LinkFree p) : s.Linkless p := by
  intro location name target hfolder
  have grown : s.Grows (fun _ => True) s := .refl s
  have hmeans := grown.means (resolve_eq_folder_iff.1 hfolder).2
  exact h location (name :: location) target hmeans (List.suffix_cons _ _)

/-- A path that leads to a folder means this one only. -/
theorem Means.eq_of_follow {other : Location} (h : s.Means p other)
    (hs : s.follow .look p.steps = .ok (.folder location)) : other = location := by
  obtain ⟨t, grown, ht⟩ := h
  rw [grown.keepsWays.follow_folder hs] at ht
  exact (Place.folder.inj (Except.ok.inj ht)).symm

/-- A path into a folder means what is in the folder. -/
theorem Means.exists_of_join {inner : Location} (hname : '/' ∉ name.toList)
    (hstep : Path.stepOf? name.toList = some (.into name))
    (hlink : ∀ location target, s.Means p location →
      s.node? (.text name :: location) ≠ some (.link target))
    (h : s.Means (p.join ⟨name⟩) inner) :
    ∃ location, s.Means p location ∧ inner = .text name :: location := by
  obtain ⟨t, grown, ht⟩ := h
  rw [follow, Path.steps_join hname hstep] at ht
  obtain ⟨location, hfolder⟩ := exists_folder_of_walk maxLinks [] p.steps ht
  have hmeans : s.Means p location := ⟨t, grown, hfolder⟩
  refine ⟨location, hmeans, ?_⟩
  have hend : t.walk .look maxLinks [] (p.steps ++ []) = .ok (.folder location) := by
    rwa [List.append_nil]
  rw [walk_into (by simp) (grown.node?_ne_link (hlink location · hmeans)) maxLinks [] p.steps hend,
    entry] at ht
  split at ht
  · cases ht
  · split at ht <;> cases ht
    rfl

/-- A path that leads to a folder leads to what it means. -/
theorem reached_of_follow (hs : s.follow .look p.steps = .ok (.folder location)) : s.Reached p := by
  intro other hmeans _
  rwa [hmeans.eq_of_follow hs]

/-! ### Trees -/

/-- Whatever is in the store is in a folder. -/
def Rooted (s : Store) : Prop :=
  ∀ name folder, s.node? (name :: folder) ≠ none → s.node? folder = some .folder

theorem mem_names_iff {name : FileName} :
    name ∈ s.names location ↔ s.node? (name :: location) ≠ none := by
  rw [Ne, node?_eq_none_iff, Decidable.not_not, names, List.mem_filterMap, List.mem_map]
  constructor
  · rintro ⟨⟨place, node⟩, hentry, hplace⟩
    cases place with
    | nil => cases hplace
    | cons first parent =>
      simp only at hplace
      split at hplace
      · rename_i hparent
        exact ⟨_, hentry, by rw [← Option.some.inj hplace, ← hparent]⟩
      · cases hplace
  · rintro ⟨⟨place, node⟩, hentry, rfl⟩
    exact ⟨_, hentry, by simp⟩

end Store

end BenchReport
