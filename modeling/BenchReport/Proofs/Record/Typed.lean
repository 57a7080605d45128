import BenchReport.Proofs.Json.Grammar
import BenchReport.Record

/-!
# Records that are read by their type

A reader that knows that it reads a list of records refuses every token that begins something else:
the text must begin with a bracket, every item with a brace, and only the values of the fields may
be any.  It accepts the texts that are read without this knowledge and turn out to be lists of
objects, and makes the same records of them.

## Main definitions

* `Record.mayBegin`, `Record.typedStep` — what may begin where, and a step that minds it.
* `Record.readList?` — the records of a text, read by their type.
* `Record.IsTyped` — a place at which only what may begin has begun.

## Main results

* `Record.typed_of_step` — where a step leads tells where it may have begun.
* `Record.readList?_eq` — **reading by the type is reading and looking at the result.**
-/

namespace BenchReport.Record

open Json (Frame Progress)
open Json.Progress (Begins step step_eq_some_iff)

/-! ### Reading by the type -/

/-- What may begin inside so many open containers: the list, in it a record, in that anything. -/
def mayBegin : Nat → Token → Bool
  | 0, t => t == .beginArray
  | 1, t => t == .beginObject
  | _, _ => true

/-- Takes one token; none when it may not stand here or begins what may not begin here. -/
def typedStep : Progress → Token → Option Progress
  | .value stack, t => if mayBegin stack.length t then step (.value stack) t else none
  | .firstItem stack, t =>
      if t == .endArray || mayBegin (stack.length + 1) t then step (.firstItem stack) t else none
  | p, t => step p t

/-- The records of a text; none when it is not one list of records. -/
def readList? (text : String) : Option (List Record) :=
  (Token.scan? text.toList).bind fun ts =>
    (ts.foldlM typedStep (.value [])).bind fun p => p.result?.bind listOfJson?

/-! ### What has begun -/

/-- The container may stand inside `n` others: the outermost is a list of objects, those in it are
objects. -/
def IsTypedFrame (n : Nat) : Frame → Prop
  | .array items => n ≠ 1 ∧ (n = 0 → ∀ v ∈ items, (ofJson? v).isSome)
  | .object _ _ => n ≠ 0

/-- The value may stand inside `n` containers. -/
def IsTypedValue (n : Nat) : Json → Prop
  | .scalar _ => 2 ≤ n
  | .array items => n ≠ 1 ∧ (n = 0 → ∀ v ∈ items, (ofJson? v).isSome)
  | .object _ => n ≠ 0

/-- All open containers may stand where they stand. -/
def IsTypedStack : List Frame → Prop
  | [] => True
  | frame :: stack => IsTypedFrame stack.length frame ∧ IsTypedStack stack

/-- Nothing has begun that may not begin there. -/
def IsTyped : Progress → Prop
  | .value stack => IsTypedStack stack
  | .firstItem stack => stack.length ≠ 1 ∧ IsTypedStack stack
  | .firstKey stack => stack.length ≠ 0 ∧ IsTypedStack stack
  | .nextKey _ stack => stack.length ≠ 0 ∧ IsTypedStack stack
  | .afterKey _ _ stack => stack.length ≠ 0 ∧ IsTypedStack stack
  | .complete v stack => IsTypedValue stack.length v ∧ IsTypedStack stack

variable {p q : Progress} {t : Token} {stack : List Frame} {v : Json} {n : Nat}

/-- Any value may stand in a record. -/
theorem isTypedValue_of_two_le (h : 2 ≤ n) (v : Json) : IsTypedValue n v := by
  cases v with
  | scalar s => exact h
  | array items => exact ⟨by omega, by omega⟩
  | object fields =>
    show n ≠ 0
    omega

theorem isTypedValue_one (h : (ofJson? v).isSome) : IsTypedValue 1 v := by
  cases v with
  | scalar s => cases h
  | array items => cases h
  | object fields => exact Nat.one_ne_zero

/-- A value inside a list may stand there. -/
theorem isTypedValue_of_mem (hn : n ≠ 1) (h : n = 0 → (ofJson? v).isSome) :
    IsTypedValue (n + 1) v := by
  rcases Nat.eq_zero_or_pos n with rfl | hpos
  · exact isTypedValue_one (h rfl)
  · exact isTypedValue_of_two_le (by omega) v

/-- In a record anything may begin. -/
theorem mayBegin_of_two_le (h : 2 ≤ n) (t : Token) : mayBegin n t = true := by
  obtain ⟨k, rfl⟩ := Nat.exists_eq_add_of_le' h
  rfl

/-- Where a value has begun tells that it might. -/
theorem mayBegin_of_begins (h : Begins stack t q) (hq : IsTyped q) :
    mayBegin stack.length t = true ∧ IsTypedStack stack := by
  cases h with
  | scalar s =>
    obtain ⟨hdeep, hstack⟩ := hq
    exact ⟨mayBegin_of_two_le hdeep _, hstack⟩
  | array hroom =>
    obtain ⟨hne, hstack⟩ := hq
    refine ⟨?_, hstack⟩
    rcases Nat.eq_zero_or_pos stack.length with hzero | hpos
    · rw [hzero]
      rfl
    · exact mayBegin_of_two_le (by omega) _
  | object hroom =>
    obtain ⟨hne, hstack⟩ := hq
    refine ⟨?_, hstack⟩
    rcases Nat.lt_or_ge stack.length 2 with hshort | hdeep
    · have hone : stack.length = 1 := by omega
      rw [hone]
      rfl
    · exact mayBegin_of_two_le hdeep _

/-- Where a list goes on tells what its last item may be. -/
theorem isTypedFrame_of_cons {items : List Json} (h : IsTypedFrame n (.array (v :: items))) :
    IsTypedValue (n + 1) v ∧ IsTypedFrame n (.array items) := by
  obtain ⟨hn, hitems⟩ := h
  refine ⟨isTypedValue_of_mem hn fun hzero => hitems hzero v List.mem_cons_self, hn, ?_⟩
  exact fun hzero w hw => hitems hzero w (List.mem_cons_of_mem v hw)

/-- **Where a step leads tells where it may have begun.** -/
theorem typed_of_step (h : step p t = some q) (hq : IsTyped q) :
    typedStep p t = some q ∧ IsTyped p := by
  cases step_eq_some_iff.1 h with
  | value hbegins =>
    obtain ⟨hbegin, hstack⟩ := mayBegin_of_begins hbegins hq
    exact ⟨by rwa [typedStep, if_pos hbegin], hstack⟩
  | firstItem hbegins =>
    obtain ⟨hbegin, hframe, hstack⟩ := mayBegin_of_begins hbegins hq
    rw [List.length_cons] at hbegin
    refine ⟨?_, hframe.1, hstack⟩
    rwa [typedStep, if_pos (by rw [hbegin, Bool.or_true])]
  | noItem => exact ⟨rfl, hq.1.1, hq.2⟩
  | firstKey key => exact ⟨rfl, hq⟩
  | noField => exact ⟨rfl, hq⟩
  | nextKey key => exact ⟨rfl, hq⟩
  | colon key => exact ⟨rfl, hq⟩
  | nextItem =>
    obtain ⟨hframe, hstack⟩ := hq
    obtain ⟨hv, hframe⟩ := isTypedFrame_of_cons hframe
    exact ⟨rfl, hv, hframe, hstack⟩
  | @endArray v items stack =>
    obtain ⟨⟨hn, hitems⟩, hstack⟩ := hq
    have hclosed : IsTypedFrame stack.length (.array (v :: items)) :=
      ⟨hn, fun hzero w hw => hitems hzero w (List.mem_reverse.2 hw)⟩
    obtain ⟨hv, hframe⟩ := isTypedFrame_of_cons hclosed
    exact ⟨rfl, hv, hframe, hstack⟩
  | @nextField v fields key stack =>
    obtain ⟨hn, hstack⟩ := hq
    exact ⟨rfl, isTypedValue_of_two_le (by rw [List.length_cons]; omega) v, hn, hstack⟩
  | @endObject v fields key stack =>
    obtain ⟨hn, hstack⟩ := hq
    have hpos : stack.length ≠ 0 := hn
    exact ⟨rfl, isTypedValue_of_two_le (by rw [List.length_cons]; omega) v, hn, hstack⟩

/-- A step that minds what begins is a step. -/
theorem step_of_typedStep (h : typedStep p t = some q) : step p t = some q := by
  unfold typedStep at h
  split at h
  · exact (Option.ite_none_right_eq_some.1 h).2
  · exact (Option.ite_none_right_eq_some.1 h).2
  · exact h

/-! ### Runs -/

theorem steps_of_typedSteps {ts : List Token} (h : ts.foldlM typedStep p = some q) :
    ts.foldlM step p = some q := by
  induction ts generalizing p with
  | nil => exact h
  | cons t ts ih =>
    rw [List.foldlM_cons] at h ⊢
    obtain ⟨r, hr, hrest⟩ := Option.bind_eq_some_iff.1 h
    exact Option.bind_eq_some_iff.2 ⟨r, step_of_typedStep hr, ih hrest⟩

/-- Where a run leads tells that all its steps mind what begins. -/
theorem typedSteps_of_steps {ts : List Token} (h : ts.foldlM step p = some q) (hq : IsTyped q) :
    ts.foldlM typedStep p = some q ∧ IsTyped p := by
  induction ts generalizing p with
  | nil =>
    obtain rfl := Option.some.inj h
    exact ⟨rfl, hq⟩
  | cons t ts ih =>
    rw [List.foldlM_cons] at h ⊢
    obtain ⟨r, hr, hrest⟩ := Option.bind_eq_some_iff.1 h
    obtain ⟨hsteps, htyped⟩ := ih hrest
    obtain ⟨hstep, hp⟩ := typed_of_step hr htyped
    exact ⟨Option.bind_eq_some_iff.2 ⟨r, hstep, hsteps⟩, hp⟩

/-! ### Whole texts -/

theorem ofJson?_eq_some_iff {r : Record} : ofJson? v = some r ↔ v = r.toJson := by
  cases v with
  | scalar s => exact iff_of_false nofun nofun
  | array items => exact iff_of_false nofun nofun
  | object fields =>
    rw [ofJson?, Option.some.injEq, toJson, Json.object.injEq]
    constructor
    · rintro rfl
      rfl
    · rintro rfl
      rfl

/-- A value is a list of records when it is the list of their objects. -/
theorem listOfJson?_eq_some_iff {records : List Record} :
    listOfJson? v = some records ↔ v = .array (records.map toJson) := by
  cases v with
  | scalar s => exact iff_of_false nofun nofun
  | object fields => exact iff_of_false nofun nofun
  | array items =>
    rw [listOfJson?, Json.array.injEq]
    induction items generalizing records with
    | nil => cases records <;> simp
    | cons v items ih =>
      rw [List.mapM_cons]
      cases records with
      | nil => simp [Option.bind_eq_some_iff]
      | cons r records =>
        rw [List.map_cons, List.cons.injEq, ← ih, ← ofJson?_eq_some_iff]
        simp [Option.bind_eq_some_iff]

/-- **Reading by the type is reading and looking at the result.** -/
theorem readList?_eq (text : String) :
    readList? text = (Json.parse? text).bind listOfJson? := by
  rw [readList?, Json.parse?, Json.parseChars?, Option.bind_assoc]
  congr 1
  funext ts
  rw [Json.ofTokens?, Option.bind_assoc]
  apply Option.ext
  intro records
  simp only [Option.bind_eq_some_iff]
  constructor
  · rintro ⟨p, hp, hresult⟩
    exact ⟨p, steps_of_typedSteps hp, hresult⟩
  · rintro ⟨p, hp, v, hresult, hrecords⟩
    refine ⟨p, (typedSteps_of_steps hp ?_).1, v, hresult, hrecords⟩
    -- a list of objects may have begun where nothing is open
    rw [listOfJson?_eq_some_iff] at hrecords
    unfold Progress.result? at hresult
    split at hresult
    · obtain rfl := Option.some.inj hresult
      rw [hrecords]
      refine ⟨⟨Nat.zero_ne_one, fun _ w hw => ?_⟩, trivial⟩
      obtain ⟨r, -, rfl⟩ := List.mem_map.1 hw
      rfl
    · cases hresult

end BenchReport.Record
