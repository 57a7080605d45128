import BenchReport.Proofs.Files.Rewrite

/-!
# Stores grow

A job that makes folders and writes files of its own leaves everything else where it is.
A store grows when nothing is lost and no kind changes: a folder may come up where nothing
was, and at some locations a file may be written where nothing or a file was.  What comes
up is listed behind what was there.

## Main definitions

* `Node.Grows`, `Store.Grows` — what may become of one location, and of a store.
* `Store.file?`, `Store.Unlinked` — the files of a store, and stores without links.
* `Job.Keeps` — a job keeps a property of the files.

## Main results

* `Store.Grows.trans` — growing is transitive.
* `Store.Grows.file?_eq` — files stay except at own locations.
* `Store.grows_put` — putting grows a store when it does so at the one location.
* `Store.grows_makeFolder` — making a folder grows a store.
* `Job.Keeps.bind` — a job keeps what its parts keep.
-/

namespace BenchReport

/-- What may become of a location: nothing changes, a folder is made where nothing is, or,
at an own location, a file is written where nothing or a file is. -/
inductive Node.Grows (own : Prop) : Option Node → Option Node → Prop where
  | same (node : Option Node) : Grows own node node
  | folder : Grows own none (some .folder)
  | written (content : ByteArray) (modified : Instant) :
      own → Grows own none (some (.file content modified))
  | rewritten (old content : ByteArray) (before modified : Instant) :
      own → Grows own (some (.file old before)) (some (.file content modified))

namespace Node.Grows

variable {own : Prop} {a b c : Option Node}

theorem trans (h : Grows own a b) (h' : Grows own b c) : Grows own a c := by
  cases h with
  | same => exact h'
  | folder =>
    cases h'
    exact .folder
  | written content modified hown =>
    cases h' with
    | same => exact .written _ _ hown
    | rewritten => exact .written _ _ hown
  | rewritten old content before modified hown =>
    cases h' with
    | same => exact .rewritten _ _ _ _ hown
    | rewritten => exact .rewritten _ _ _ _ hown

theorem mono {own' : Prop} (h : Grows own a b) (hown : own → own') : Grows own' a b := by
  cases h with
  | same => exact .same _
  | folder => exact .folder
  | written content modified h => exact .written _ _ (hown h)
  | rewritten old content before modified h => exact .rewritten _ _ _ _ (hown h)

theorem eq_folder (h : Grows own (some .folder) b) : b = some .folder := by
  cases h
  rfl

theorem eq_link {target : Path} (h : Grows own (some (.link target)) b) :
    b = some (.link target) := by
  cases h
  rfl

theorem link_of_link {target : Path} (h : Grows own a (some (.link target))) :
    a = some (.link target) := by
  cases h
  rfl

theorem eq_of_not_own (h : Grows own a b) (hown : ¬ own) (ha : a ≠ none) : b = a := by
  cases h with
  | same => rfl
  | folder => exact absurd rfl ha
  | written _ _ h => exact absurd h hown
  | rewritten _ _ _ _ h => exact absurd h hown

theorem own_of_file {content : ByteArray} {modified : Instant}
    (h : Grows own none (some (.file content modified))) : own := by
  cases h
  assumption

end Node.Grows

namespace Store

/-- The store `t` has grown from `s`, with files written at own locations only. -/
structure Grows (own : Location → Prop) (s t : Store) : Prop where
  /-- Each location has what it had, or what may have come up there. -/
  node : ∀ location, Node.Grows (own location) (s.node? location) (t.node? location)
  /-- New names stand behind the old ones. -/
  names : ∀ folder, ∃ new, t.names folder = s.names folder ++ new ∧
    ∀ name ∈ new, s.node? (name :: folder) = none

variable {own : Location → Prop} {s t u : Store}

theorem Grows.refl (s : Store) : s.Grows own s :=
  ⟨fun _ => .same _, fun _ => ⟨[], by simp⟩⟩

theorem Grows.trans (h : s.Grows own t) (h' : t.Grows own u) : s.Grows own u := by
  refine ⟨fun location => (h.node location).trans (h'.node location), fun folder => ?_⟩
  obtain ⟨new, hnames, hnew⟩ := h.names folder
  obtain ⟨more, hnames', hmore⟩ := h'.names folder
  refine ⟨new ++ more, by rw [hnames', hnames, List.append_assoc], fun name hname => ?_⟩
  rcases List.mem_append.1 hname with hname | hname
  · exact hnew name hname
  · -- where nothing has come up yet, nothing was
    have hnode := h.node (name :: folder)
    rw [hmore name hname] at hnode
    generalize s.node? (name :: folder) = before at hnode ⊢
    cases hnode
    rfl

theorem Grows.mono {own' : Location → Prop} (h : s.Grows own t)
    (hown : ∀ location, own location → own' location) : s.Grows own' t :=
  ⟨fun location => (h.node location).mono (hown location), h.names⟩

theorem Grows.keepsWays (h : s.Grows own t) : s.KeepsWays t where
  folder location hnode := (hnode ▸ h.node location).eq_folder
  link location _ hnode := (hnode ▸ h.node location).eq_link

theorem Grows.node?_ne_link (h : s.Grows own t) {location : Location}
    (hs : ∀ target, s.node? location ≠ some (.link target)) (target : Path) :
    t.node? location ≠ some (.link target) :=
  fun hnode => hs target (hnode ▸ h.node location).link_of_link

/-- The file at a location: its content, and when it was last changed. -/
def file? (s : Store) (location : Location) : Option (ByteArray × Instant) :=
  match s.node? location with
  | some (.file content modified) => some (content, modified)
  | _ => none

/-- Nothing in the store is a link. -/
def Unlinked (s : Store) : Prop := ∀ location target, s.node? location ≠ some (.link target)

theorem Grows.unlinked (h : s.Grows own t) (hs : s.Unlinked) : t.Unlinked :=
  fun location => h.node?_ne_link (hs location)

/-- Where no file may be written, the files stay. -/
theorem Grows.file?_eq (h : s.Grows own t) {location : Location} (hown : ¬ own location) :
    t.file? location = s.file? location := by
  have hnode := h.node location
  rw [file?, file?]
  generalize s.node? location = before at hnode ⊢
  generalize t.node? location = after at hnode ⊢
  cases hnode with
  | same => rfl
  | folder => rfl
  | written _ _ h => exact absurd h hown
  | rewritten _ _ _ _ h => exact absurd h hown

/-! ### Putting -/

theorem node?_eq_none_iff {name : FileName} {folder : Location} :
    s.node? (name :: folder) = none ↔ name :: folder ∉ s.entries.map (·.1) := by
  rw [node?, List.lookup_eq_none_iff]
  constructor
  · intro h hmem
    obtain ⟨e, he, hkey⟩ := List.mem_map.1 hmem
    exact bne_iff_ne.1 (h e he) hkey.symm
  · intro h e he
    rw [bne_iff_ne]
    intro hkey
    exact h (hkey ▸ List.mem_map_of_mem he)

theorem node?_put (s : Store) (name : FileName) (folder here : Location) (node : Node) :
    (s.put (name :: folder) node).node? here =
      if here = name :: folder then some node else s.node? here := by
  cases here with
  | nil => rfl
  | cons first around =>
    by_cases hmem : name :: folder ∈ s.entries.map (·.1)
    · rw [put, dif_pos hmem, node?]
      simp only [lookup_map_replace]
      rw [← node?]
      split
      · rename_i hhere
        cases hnode : s.node? (first :: around) with
        | none => exact absurd (hhere ▸ hmem) (node?_eq_none_iff.1 hnode)
        | some old => rfl
      · cases s.node? (first :: around) <;> rfl
    · rw [put, dif_neg hmem, node?, List.lookup_append]
      split
      · rename_i hhere
        rw [hhere, ← node?, node?_eq_none_iff.2 hmem]
        simp
      · rename_i hhere
        have hbeq : (first :: around == name :: folder) = false := beq_eq_false_iff_ne.2 hhere
        rw [← node?, List.lookup_cons, hbeq]
        simp

theorem node?_put_self (s : Store) (name : FileName) (folder : Location) (node : Node) :
    (s.put (name :: folder) node).node? (name :: folder) = some node := by
  rw [node?_put, if_pos rfl]

/-- A name that is put into a folder anew stands behind the others. -/
theorem names_put (s : Store) (name : FileName) (folder around : Location) (node : Node) :
    (s.put (name :: folder) node).names around = s.names around ++
      if s.node? (name :: folder) = none ∧ folder = around then [name] else [] := by
  by_cases hmem : name :: folder ∈ s.entries.map (·.1)
  · have hnode : s.node? (name :: folder) ≠ none := fun h => node?_eq_none_iff.1 h hmem
    rw [if_neg (fun h => hnode h.1), List.append_nil, put, dif_pos hmem, names, names,
      List.filterMap_map]
    congr 1
    funext e
    by_cases he : e.1 = name :: folder <;> simp [he]
  · rw [put, dif_neg hmem, names, names, List.filterMap_append]
    have hnode := node?_eq_none_iff.2 hmem
    by_cases haround : folder = around
    · subst haround
      simp [hnode]
    · simp [haround]

/-- **Putting grows a store when it does so at the one location.** -/
theorem grows_put {name : FileName} {folder : Location} {node : Node}
    (h : Node.Grows (own (name :: folder)) (s.node? (name :: folder)) (some node)) :
    s.Grows own (s.put (name :: folder) node) := by
  constructor
  · intro here
    rw [node?_put]
    split
    · rename_i hhere
      rw [hhere]
      exact h
    · exact .same _
  · intro around
    refine ⟨_, names_put s name folder around node, fun new hnew => ?_⟩
    split at hnew
    · rename_i hvacant
      rw [List.mem_singleton.1 hnew, ← hvacant.2]
      exact hvacant.1
    · cases hnew

theorem grows_makeFolder {p : Path} (h : s.makeFolder p = .ok t) : s.Grows own t := by
  obtain ⟨⟨folder, name⟩, -, hput⟩ := bind_eq_ok.1 h
  simp only at hput
  cases hnode : s.node? (name :: folder) with
  | some node => rw [hnode] at hput; cases hput
  | none =>
    rw [hnode] at hput
    rw [← Except.ok.inj hput]
    apply grows_put
    rw [hnode]
    exact .folder

end Store

/-! ### Jobs -/

namespace Job

variable {α β : Type} {inv : Store → Prop}

/-- Whatever the job does to the files, they keep the property. -/
def Keeps (inv : Store → Prop) (job : Job α) : Prop :=
  ∀ w : World, inv w.files → inv (job.run w).2.files

theorem keeps_pure (a : α) : (pure a : Job α).Keeps inv := fun _ h => h

theorem Keeps.bind {job : Job α} {f : α → Job β} (hjob : job.Keeps inv)
    (hf : ∀ a, (f a).Keeps inv) : (job >>= f).Keeps inv := by
  intro w hw
  rw [run_bind]
  exact hf _ _ (hjob w hw)

theorem keeps_status (path : Path) : (status path).Keeps inv := fun _ h => h

theorem keeps_note (event : Event) : (note event).Keeps inv := fun _ h => h

theorem keeps_change {w : World} {result : Except AccessError Store} (hw : inv w.files)
    (hresult : ∀ files, result = .ok files → inv files) : inv (w.change result).2.files := by
  cases result with
  | error e => exact hw
  | ok files => exact hresult files rfl

theorem keeps_makeFolder {path : Path}
    (h : ∀ s t : Store, inv s → s.makeFolder path = .ok t → inv t) :
    (makeFolder path).Keeps inv :=
  fun w hw => keeps_change hw (h w.files · hw)

theorem keeps_write {path : Path} {content : ByteArray}
    (h : ∀ (s t : Store) (now : Instant), inv s → s.write path content now = .ok t → inv t) :
    (write path content).Keeps inv :=
  fun w hw => keeps_change hw (h w.files · w.now hw)

end Job

end BenchReport
