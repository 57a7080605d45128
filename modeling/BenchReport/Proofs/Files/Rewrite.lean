import BenchReport.Proofs.Files.Names

/-!
# A file with another content

Two stores can hold the same things at the same places except for the content of one
file.  Then every path leads to the same place in both, every folder has the same names in
the same order, and what can be read differs in that file only.

## Main definitions

* `Store.rewrite` — replaces the content of a file and keeps the time of its last change.
* `Store.SameBut` — two stores differ in the content of one file at most.

## Main results

* `Store.sameBut_put` — replacing the content of a file leaves the rest as it is.
* `Store.SameBut.resolve_eq` — paths lead to the same places.
* `Store.SameBut.list_eq` — folders have the same names.
* `Store.sameBut_rewrite` — **rewriting a file changes its content only.**
-/

namespace BenchReport

/-- What is at a place, when the content of the file at a location is replaced. -/
def Node.withContent (location : Location) (content : ByteArray) (here : Location) : Node → Node
  | .file old modified => .file (if here = location then content else old) modified
  | node => node

/-- Where a path leads, when the content of the file at a location is replaced. -/
def Store.Place.withContent (location : Location) (content : ByteArray) :
    Store.Place → Store.Place
  | .file here old modified => .file here (if here = location then content else old) modified
  | place => place

namespace Store

/-- Replaces the content of the file that a path leads to; the time of its last change
stays.  A path that leads to no file changes nothing. -/
def rewrite (s : Store) (p : Path) (content : ByteArray) : Store :=
  match s.resolve .look p with
  | .ok (.file location _ modified) => s.put location (.file content modified)
  | _ => s

/-- `t` is `s` with another content of the file at a location. -/
structure SameBut (s t : Store) (location : Location) (content : ByteArray) : Prop where
  /-- Every location has the same node, up to that content. -/
  node_eq : ∀ here, t.node? here = (s.node? here).map (Node.withContent location content here)
  /-- Every folder has the same names in the same order. -/
  names_eq : ∀ folder, t.names folder = s.names folder

/-! ### Putting a file in place of a file -/

theorem mem_keys_of_node? {s : Store} {name : FileName} {folder : Location} {node : Node}
    (h : s.node? (name :: folder) = some node) : name :: folder ∈ s.entries.map (·.1) := by
  obtain ⟨before, after, hentries, -⟩ := List.lookup_eq_some_iff.1 h
  simp [hentries]

/-- Looking a key up in a list in which the values under one key were replaced. -/
theorem lookup_map_replace {α β : Type} [BEq α] [LawfulBEq α] [DecidableEq α] (key : α)
    (value : β) (k : α) (l : List (α × β)) :
    (l.map fun e => if e.1 = key then (key, value) else e).lookup k =
      (l.lookup k).map fun v => if k = key then value else v := by
  induction l with
  | nil => rfl
  | cons e l ih =>
    obtain ⟨k', v⟩ := e
    rw [List.map_cons, List.lookup_cons]
    by_cases hk : k = k'
    · subst hk
      by_cases hkey : k = key <;> simp [hkey]
    · have hbeq : (k == k') = false := beq_eq_false_iff_ne.2 hk
      by_cases hkey : k' = key
      · subst hkey
        simp [List.lookup_cons, hbeq, ih]
      · simp [List.lookup_cons, hkey, hbeq, ih]

/-- Putting a file in place of a file leaves the rest as it is. -/
theorem sameBut_put {s : Store} {name : FileName} {folder : Location} {old content : ByteArray}
    {modified : Instant} (h : s.node? (name :: folder) = some (.file old modified)) :
    s.SameBut (s.put (name :: folder) (.file content modified)) (name :: folder) content := by
  have hmem := mem_keys_of_node? h
  constructor
  · intro here
    cases here with
    | nil => rfl
    | cons first around =>
      rw [put, dif_pos hmem, node?]
      simp only [lookup_map_replace]
      rw [← node?]
      -- the node at the location is a file, so replacing it is replacing its content
      by_cases hhere : first :: around = name :: folder
      · rw [hhere, h]
        simp [Node.withContent]
      · cases hnode : s.node? (first :: around) with
        | none => rfl
        | some node => cases node <;> simp [Node.withContent, hhere]
  · intro around
    rw [put, dif_pos hmem, names, names, List.filterMap_map]
    congr 1
    funext e
    by_cases he : e.1 = name :: folder <;> simp [he]

namespace SameBut

variable {s t : Store} {location : Location} {content : ByteArray}

/-! ### Paths lead to the same places -/

theorem walkWith_eq (same : s.SameBut t location content) (purpose : Purpose)
    {follow follow' : Location → List Path.Step → Except AccessError Place}
    (hfollow : ∀ here steps,
      follow' here steps = (follow here steps).map (Place.withContent location content)) :
    ∀ (steps : List Path.Step) (here : Location), t.walkWith purpose follow' here steps =
      (s.walkWith purpose follow here steps).map (Place.withContent location content) := by
  intro steps
  induction steps with
  | nil => intro here; rfl
  | cons step rest ih =>
    intro here
    cases step with
    | stay => exact ih here
    | up => exact ih here.tail
    | slash => exact ih here
    | into name =>
      rw [walkWith, walkWith, same.node_eq]
      split
      · rfl
      · split
        · rfl
        · cases s.node? (.text name :: here) with
          | none => simp only [Option.map_none]; split <;> rfl
          | some node =>
            cases node with
            | file old modified =>
              simp only [Option.map_some, Node.withContent]
              split <;> rfl
            | folder => exact ih _
            -- a link is the same in both stores
            | link target => exact hfollow _ _

theorem walk_eq (same : s.SameBut t location content) (purpose : Purpose) (links : Nat) :
    ∀ (here : Location) (steps : List Path.Step), t.walk purpose links here steps =
      (s.walk purpose links here steps).map (Place.withContent location content) := by
  induction links with
  | zero =>
    intro here steps
    have hloop : ∀ (here : Location) (steps : List Path.Step),
        (Except.error (.system .linkLoop) : Except AccessError Place) =
          (Except.error (.system .linkLoop)).map (Place.withContent location content) :=
      fun _ _ => rfl
    exact same.walkWith_eq purpose hloop steps here
  | succ links ih =>
    intro here steps
    exact same.walkWith_eq purpose ih steps here

/-- Paths lead to the same places, up to the replaced content. -/
theorem resolve_eq (same : s.SameBut t location content) (purpose : Purpose) (p : Path) :
    t.resolve purpose p = (s.resolve purpose p).map (Place.withContent location content) := by
  rw [Store.resolve_eq, Store.resolve_eq]
  cases p.check with
  | error e => rfl
  | ok => exact same.walk_eq purpose maxLinks [] p.fullSteps

/-! ### What is there -/

/-- Folders have the same names. -/
theorem list_eq (same : s.SameBut t location content) (p : Path) : t.list p = s.list p := by
  rw [Store.list, Store.list, same.resolve_eq]
  cases s.resolve .look p with
  | error e => rfl
  | ok place =>
    cases place with
    | file here old modified => rfl
    | folder here => exact congrArg Except.ok (same.names_eq here)
    | vacant here name => rfl

/-- A path that leads elsewhere leads to the same there. -/
theorem resolve_eq_of_ne (same : s.SameBut t location content) {p : Path}
    (hne : ∀ old modified, s.resolve .look p ≠ .ok (.file location old modified)) :
    t.resolve .look p = s.resolve .look p := by
  rw [same.resolve_eq]
  cases h : s.resolve .look p with
  | error e => rfl
  | ok place =>
    cases place with
    | file here old modified =>
      have hhere : here ≠ location := by
        rintro rfl
        exact hne old modified h
      simp [Except.map, Place.withContent, hhere]
    | folder here => rfl
    | vacant here name => rfl

end SameBut

/-! ### The rewritten file -/

variable {s : Store} {p : Path} {location : Location} {old : ByteArray} {modified : Instant}

/-- **Rewriting a file changes its content only.** -/
theorem sameBut_rewrite (h : s.resolve .look p = .ok (.file location old modified))
    (content : ByteArray) : s.SameBut (s.rewrite p content) location content := by
  have hnode := (sound_of_resolve h).1
  cases location with
  | nil => cases hnode
  | cons name folder =>
    rw [rewrite, h]
    exact sameBut_put hnode

theorem resolve_rewrite (h : s.resolve .look p = .ok (.file location old modified))
    (content : ByteArray) :
    (s.rewrite p content).resolve .look p = .ok (.file location content modified) := by
  rw [(sameBut_rewrite h content).resolve_eq, h]
  simp [Except.map, Place.withContent]

theorem read_rewrite (h : s.resolve .look p = .ok (.file location old modified))
    (content : ByteArray) : (s.rewrite p content).read p = .ok content := by
  rw [read, resolve_rewrite h]
  rfl

theorem status_rewrite (h : s.resolve .look p = .ok (.file location old modified))
    (content : ByteArray) :
    (s.rewrite p content).status p = .ok (.file content.size modified) := by
  rw [status, resolve_rewrite h]
  rfl

end Store

end BenchReport
