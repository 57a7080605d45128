import BenchReport.Files.Store
import BenchReport.Proofs.Text.Split

/-!
# What stands in a folder

A path into a folder is the path of the folder and one more step.  Where the way to the
folder ends in a folder, the way to something inside ends at the entry of that name,
unless the entry is a link.  The way to the folder itself may lead along links.

## Main definitions

* `Store.WellNamed` — no name of a store holds a slash, as slashes divide names.
* `Store.Linkless` — no entry of a folder is a link.
* `Store.entry` — what a name in a folder stands for.
* `Store.KeepsWays` — a store has the folders and links of another.

## Main results

* `Path.fullSteps_join` — the way into a folder is one step longer.
* `Store.walk_append` — **a way that ends in a folder can be taken further.**
* `Store.walk_into` — a last step is answered by the entry of that name.
* `Store.resolve_join` — **a path into a folder leads to the entry of that name.**
-/

namespace BenchReport

/-- Two steps that may fail end well when both do. -/
theorem bind_eq_ok {ε α β : Type} {first : Except ε α} {next : α → Except ε β} {b : β} :
    first >>= next = .ok b ↔ ∃ a, first = .ok a ∧ next a = .ok b := by
  cases first <;> simp [bind, Except.bind]

namespace Path

/-! ### The way into a folder -/

/-- A name without slashes, other than the two that mean a folder around, is one step. -/
theorem stepOf?_eq_into {name : String} (hne : name ≠ "") (hstay : name ≠ ".")
    (hup : name ≠ "..") : stepOf? name.toList = some (.into name) := by
  unfold stepOf?
  split
  · rename_i h
    exact absurd (String.toList_eq_nil_iff.1 h) hne
  · rename_i h
    exact absurd (String.toList_inj.1 h) hstay
  · rename_i h
    exact absurd (String.toList_inj.1 h) hup
  · rw [String.ofList_toList]

/-- A text is the stretches before its last slash and what follows it. -/
theorem steps_append_slash (text rest : List Char) (hrest : '/' ∉ rest) :
    (Text.split '/' (text ++ '/' :: rest)).filterMap stepOf? =
      (Text.split '/' text).filterMap stepOf? ++ (stepOf? rest).toList := by
  rw [Text.split_append_cons, List.filterMap_append, Text.split_eq_singleton hrest]
  cases h : stepOf? rest <;> simp [h]

variable {folder : Path} {name : String}

/-- Behind the steps of a path there is nothing but a slash. -/
theorem exists_fullSteps (p : Path) :
    ∃ tail, p.fullSteps = p.steps ++ tail ∧ ∀ step ∈ tail, step = .slash := by
  refine ⟨_, rfl, fun step hstep => ?_⟩
  split at hstep
  · exact List.mem_singleton.1 hstep
  · cases hstep

/-- The text of a path into a folder: a slash divides the folder from the name, and the
stretches before it are the steps to the folder. -/
theorem exists_text_join (hfolder : folder.text ≠ "") (hname : '/' ∉ name.toList) :
    ∃ base, (folder.join ⟨name⟩).text.toList = base ++ '/' :: name.toList ∧
      (Text.split '/' base).filterMap stepOf? = folder.steps := by
  have habsolute : (⟨name⟩ : Path).isAbsolute = false := by
    rw [isAbsolute, beq_eq_false_iff_ne]
    exact fun h => hname (List.mem_of_head? h)
  have hempty : folder.text.isEmpty = false := by
    simpa using hfolder
  rw [join, habsolute, hempty]
  cases hslash : folder.namesFolder with
  | false => exact ⟨folder.text.toList, by simp, rfl⟩
  | true =>
    rw [namesFolder, beq_iff_eq] at hslash
    obtain ⟨base, hbase⟩ := List.getLast?_eq_some_iff.1 hslash
    refine ⟨base, by simp [hbase], ?_⟩
    rw [steps, pieces, hbase, steps_append_slash base [] (by simp)]
    simp [stepOf?]

/-- What stands in a folder has different paths for different names. -/
theorem join_inj {other : String} (hname : (⟨name⟩ : Path).isAbsolute = false)
    (hother : (⟨other⟩ : Path).isAbsolute = false)
    (h : folder.join ⟨name⟩ = folder.join ⟨other⟩) : name = other := by
  have htext := congrArg (·.text.toList) h
  simp only [join, hname, hother, Bool.false_eq_true, if_false] at htext
  apply String.toList_inj.1
  -- the folder and the slash behind it are the same on both sides
  split at htext
  · exact htext
  · split at htext
    · simpa using htext
    · simpa using htext

/-- **The way into a folder is one step longer than the way to it.** -/
theorem fullSteps_join (hname : '/' ∉ name.toList)
    (hstep : stepOf? name.toList = some (.into name)) :
    (folder.join ⟨name⟩).fullSteps = folder.steps ++ [.into name] := by
  have hne : name.toList ≠ [] := by
    intro h
    rw [h] at hstep
    cases hstep
  have hlast : ∀ c, name.toList.getLast? = some c → c ≠ '/' := by
    rintro _ hc rfl
    exact hname (List.mem_of_getLast? hc)
  by_cases hfolder : folder.text = ""
  · -- the empty path is no way at all, and the name alone is the path
    have hjoin : folder.join ⟨name⟩ = ⟨name⟩ := by
      simp [join, hfolder]
    have hslash : (⟨name⟩ : Path).namesFolder = false := by
      rw [namesFolder, beq_eq_false_iff_ne]
      exact fun h => hlast _ h rfl
    rw [hjoin, fullSteps, hslash, steps, steps, pieces, pieces, hfolder,
      Text.split_eq_singleton hname, List.filterMap_cons_some hstep]
    rfl
  · obtain ⟨base, htext, hbase⟩ := exists_text_join hfolder hname
    have hslash : (folder.join ⟨name⟩).namesFolder = false := by
      rw [namesFolder, htext, beq_eq_false_iff_ne, List.getLast?_append,
        List.getLast?_cons_of_ne_nil hne, List.getLast?_eq_some_getLast hne, Option.some_or]
      exact fun h => hlast _ (List.getLast?_eq_some_getLast hne) (Option.some.inj h)
    rw [fullSteps, hslash, steps, pieces, htext, steps_append_slash _ _ hname, hbase, hstep]
    simp

end Path

namespace Store

/-! ### Entries of a folder -/

/-- No name in the store holds a slash. -/
def WellNamed (s : Store) : Prop :=
  ∀ e ∈ s.entries, ∀ name, FileName.text name ∈ e.1 → '/' ∉ name.toList

/-- No entry of the folder is a link. -/
def Linkless (s : Store) (folder : Path) : Prop :=
  ∀ location name target, s.resolve .look folder = .ok (.folder location) →
    s.node? (name :: location) ≠ some (.link target)

/-- What a name in a folder stands for, when it is no link. -/
def entry (s : Store) (folder : Location) (name : String) : Except AccessError Place :=
  if Path.maxNameSize < name.utf8ByteSize then .error (.system .nameTooLong)
  else
    match s.node? (.text name :: folder) with
    | some (.file content modified) => .ok (.file (.text name :: folder) content modified)
    | some .folder => .ok (.folder (.text name :: folder))
    | _ => .ok (.vacant folder (.text name))

variable {s : Store} {location : Location} {name : String}

theorem WellNamed.notMem_of_mem_names (h : s.WellNamed) (hname : .text name ∈ s.names location) :
    '/' ∉ name.toList := by
  obtain ⟨⟨place, node⟩, hentry, hplace⟩ := List.mem_filterMap.1 hname
  cases place with
  | nil => cases hplace
  | cons first parent =>
    simp only at hplace
    split at hplace
    · obtain rfl := Option.some.inj hplace
      exact h _ hentry name List.mem_cons_self
    · cases hplace

/-- An entry that is a file is at the location of its name. -/
theorem eq_of_entry {here : Location} {content : ByteArray} {modified : Instant}
    (h : s.entry location name = .ok (.file here content modified)) :
    here = .text name :: location := by
  rw [entry] at h
  split at h
  · cases h
  · split at h <;> cases h
    rfl

/-- A single step to what is no link ends at the entry. -/
theorem walkWith_singleton
    (hlink : ∀ target, s.node? (.text name :: location) ≠ some (.link target)) (purpose : Purpose)
    (follow : Location → List Path.Step → Except AccessError Place) :
    s.walkWith purpose follow location [.into name] = s.entry location name := by
  have hslash : ¬ (purpose = .write ∧ onlySlash [] = true) := fun h => by cases h.2
  rw [walkWith, entry, if_neg hslash]
  split
  · rfl
  · cases h : s.node? (.text name :: location) with
    | none => rfl
    | some node =>
      cases node with
      | file content modified => rfl
      | folder => rw [walkWith]
      | link target => exact absurd h (hlink target)

theorem walkWith_slashes {follow : Location → List Path.Step → Except AccessError Place}
    {tail : List Path.Step} (htail : ∀ step ∈ tail, step = .slash) (here : Location) :
    s.walkWith .look follow here tail = .ok (.folder here) := by
  induction tail with
  | nil => rw [walkWith]
  | cons step rest ih =>
    rw [htail step List.mem_cons_self, walkWith]
    exact ih fun other hother => htail other (List.mem_cons_of_mem _ hother)

/-- The folders and links of the store `s` are in `t` as well. -/
structure KeepsWays (s t : Store) : Prop where
  folder : ∀ location, s.node? location = some .folder → t.node? location = some .folder
  link : ∀ location target, s.node? location = some (.link target) →
    t.node? location = some (.link target)

theorem KeepsWays.refl (s : Store) : s.KeepsWays s := ⟨fun _ h => h, fun _ _ h => h⟩

/-- The steps can be walked for the purpose with a slash behind them or not: to write, the
last of them has to be a name. -/
def GoesOn (purpose : Purpose) (steps : List Path.Step) : Prop :=
  purpose = .write → ∃ before name, steps = before ++ [.into name]

theorem GoesOn.not_onlySlash {purpose : Purpose} {steps : List Path.Step}
    (h : GoesOn purpose steps) (front : List Path.Step) :
    ¬ (purpose = .write ∧ onlySlash (front ++ steps) = true) := by
  rintro ⟨hpurpose, hslash⟩
  obtain ⟨before, name, rfl⟩ := h hpurpose
  simp [onlySlash] at hslash

variable {t : Store} {purpose : Purpose} {tail rest : List Path.Step}

/-- A way that ends in a folder, possibly with a slash, can be taken further, also when the
store has grown meanwhile. -/
theorem walkWith_append {follow follow' : Location → List Path.Step → Except AccessError Place}
    {P : Except AccessError Place → Prop} (hways : s.KeepsWays t)
    (htail : ∀ step ∈ tail, step = .slash) (hrest : GoesOn purpose rest)
    (hfollow : ∀ here steps, follow here (steps ++ tail) = .ok (.folder location) →
      P (follow' here (steps ++ rest)))
    (hlast : P (t.walkWith purpose follow' location rest)) :
    ∀ (steps : List Path.Step) (here : Location),
      s.walkWith .look follow here (steps ++ tail) = .ok (.folder location) →
      P (t.walkWith purpose follow' here (steps ++ rest)) := by
  intro steps
  induction steps with
  | nil =>
    intro here h
    rw [List.nil_append, walkWith_slashes htail, Except.ok.injEq, Place.folder.injEq] at h
    rwa [List.nil_append, h]
  | cons step others ih =>
    intro here h
    rw [List.cons_append] at h ⊢
    cases step with
    | stay => rw [walkWith] at h ⊢; exact ih here h
    | up => rw [walkWith] at h ⊢; exact ih here.tail h
    | slash => rw [walkWith] at h ⊢; exact ih here h
    | into first =>
      rw [walkWith, if_neg (by simp)] at h
      rw [walkWith, if_neg (hrest.not_onlySlash others)]
      split at h
      · cases h
      · rename_i hsize
        rw [if_neg hsize]
        -- only a folder and a link lead on; anything else would have ended the first way
        cases hnode : s.node? (.text first :: here) with
        | none =>
          rw [hnode] at h
          simp only at h
          split at h <;> cases h
        | some node =>
          rw [hnode] at h
          cases node with
          | file content modified =>
            simp only at h
            split at h <;> cases h
          | folder =>
            rw [hways.folder _ hnode]
            exact ih _ h
          | link target =>
            rw [hways.link _ _ hnode]
            simp only at h ⊢
            rw [← List.append_assoc] at h ⊢
            exact hfollow _ _ h

/-- **A way that ends in a folder can be taken further**: what is left to walk begins at the
folder, with as many links as are not used up. -/
theorem walk_append (hways : s.KeepsWays t) (htail : ∀ step ∈ tail, step = .slash)
    (hrest : GoesOn purpose rest) (links : Nat) :
    ∀ (here : Location) (steps : List Path.Step),
      s.walk .look links here (steps ++ tail) = .ok (.folder location) →
      ∃ left, t.walk purpose links here (steps ++ rest) = t.walk purpose left location rest := by
  -- on the links that may still be followed; a link puts its own steps before the rest
  induction links with
  | zero =>
    intro here steps h
    rw [walk] at h
    have hlast : ∃ left, t.walk purpose 0 location rest = t.walk purpose left location rest :=
      ⟨0, rfl⟩
    rw [walk] at hlast ⊢
    exact walkWith_append (P := fun place => ∃ left, place = t.walk purpose left location rest)
      hways htail hrest (fun _ _ h => by cases h) hlast steps here h
  | succ links ih =>
    intro here steps h
    rw [walk] at h
    have hlast : ∃ left, t.walk purpose (links + 1) location rest =
        t.walk purpose left location rest := ⟨links + 1, rfl⟩
    rw [walk] at hlast ⊢
    exact walkWith_append (P := fun place => ∃ left, place = t.walk purpose left location rest)
      hways htail hrest ih hlast steps here h

/-- **A last step is answered by the entry of that name**, however many links the way to
the folder leads along. -/
theorem walk_into (htail : ∀ step ∈ tail, step = .slash)
    (hlink : ∀ target, s.node? (.text name :: location) ≠ some (.link target)) (links : Nat)
    (here : Location) (steps : List Path.Step)
    (h : s.walk .look links here (steps ++ tail) = .ok (.folder location)) :
    s.walk .look links here (steps ++ [.into name]) = s.entry location name := by
  have hgoes : GoesOn .look [.into name] := fun h => by cases h
  obtain ⟨left, hwalk⟩ := walk_append (.refl s) htail hgoes links here steps h
  rw [hwalk]
  cases left <;> exact walkWith_singleton hlink _ _

/-! ### Paths into a folder -/

variable {folder : Path}

theorem resolve_eq (p : Path) (purpose : Purpose) :
    s.resolve purpose p = p.check >>= fun _ => s.walk purpose maxLinks [] p.fullSteps := rfl

/-- **A path into a folder leads to the entry of that name**, if nothing is wrong with its
text. -/
theorem resolve_join (hfolder : s.resolve .look folder = .ok (.folder location))
    (hname : '/' ∉ name.toList) (hstep : Path.stepOf? name.toList = some (.into name))
    (hlink : ∀ target, s.node? (.text name :: location) ≠ some (.link target)) :
    s.resolve .look (folder.join ⟨name⟩) =
      (folder.join ⟨name⟩).check >>= fun _ => s.entry location name := by
  rw [resolve_eq] at hfolder ⊢
  cases hcheck : folder.check with
  | error e => rw [hcheck] at hfolder; cases hfolder
  | ok =>
    rw [hcheck] at hfolder
    have hwalk : s.walk .look maxLinks [] folder.fullSteps = .ok (.folder location) := hfolder
    obtain ⟨tail, hfull, htail⟩ := folder.exists_fullSteps
    rw [hfull] at hwalk
    rw [Path.fullSteps_join hname hstep]
    rw [walk_into htail hlink maxLinks [] folder.steps hwalk]

end Store

end BenchReport
