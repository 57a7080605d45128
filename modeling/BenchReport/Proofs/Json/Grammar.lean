import BenchReport.Proofs.Json.Lookup
import BenchReport.Proofs.Json.Moves
import BenchReport.Proofs.Json.Spelling
import Mathlib.Data.List.Induction

/-!
# The texts that are JSON values

Which tokens make up a value is said here as a grammar: a value without parts is one token, an array
is its items with commas between them in brackets, and an object is its members in braces.  Members
are collected from left to right, so of several with one key the last one counts.  No more than
`maxDepth` containers stand inside each other.  Reading accepts the texts of this grammar and no
others.

## Main definitions

* `Json.collect` — the fields of an object with given members.
* `Json.IsValue`, `Json.IsItems`, `Json.IsMembers` — the grammar.
* `Json.IsText` — a text is one value.
* `Json.Progress.Consumed` — the tokens that have led to a place.

## Main results

* `Json.fieldOf?_collect` — the last member with a key counts.
* `Json.Progress.reads_of_isValue` — a value of the grammar is put together.
* `Json.Progress.consumed_of_step` — what one token preserves.
* `Json.ofTokens?_eq_some_iff`, `Json.parseChars?_eq_some_iff` — **a text is read as a value exactly
  when it is that value.**
-/

namespace BenchReport.Json

/-- The fields of an object with given members: in order of their keys, and of several members with
one key the last one. -/
def collect (members : List (String × Json)) : List (String × Json) :=
  members.foldl (fun fields member => putField member.1 member.2 fields) []

@[simp] theorem collect_nil : collect [] = [] := rfl

@[simp] theorem collect_append (members : List (String × Json)) (key : String) (v : Json) :
    collect (members ++ [(key, v)]) = putField key v (collect members) := by
  rw [collect, List.foldl_append]
  rfl

/-- Of several members with one key the last one counts. -/
theorem fieldOf?_collect (key : String) (members : List (String × Json)) :
    fieldOf? key (collect members) = members.reverse.lookup key := by
  induction members using List.reverseRecOn with
  | nil => rfl
  | append_singleton members member ih =>
    obtain ⟨k, v⟩ := member
    rw [collect_append, fieldOf?_putField, ih, List.reverse_append, List.reverse_singleton,
      List.singleton_append, List.lookup_cons]
    split_ifs with h
    · rw [beq_iff_eq.2 h]
    · rw [beq_eq_false_iff_ne.2 h]

mutual

/-- The tokens make up a value that stands inside `n` containers. -/
inductive IsValue : Nat → List Token → Json → Prop
  | scalar {n : Nat} (s : JsonScalar) : IsValue n [.scalar s] (.scalar s)
  | emptyArray {n : Nat} : n < maxDepth → IsValue n [.beginArray, .endArray] (.array [])
  | array {n : Nat} {ts : List Token} {items : List Json} : n < maxDepth →
      IsItems (n + 1) ts items → IsValue n (.beginArray :: (ts ++ [.endArray])) (.array items)
  | emptyObject {n : Nat} : n < maxDepth → IsValue n [.beginObject, .endObject] (.object [])
  | object {n : Nat} {ts : List Token} {members : List (String × Json)} : n < maxDepth →
      IsMembers (n + 1) ts members →
      IsValue n (.beginObject :: (ts ++ [.endObject])) (.object (collect members))

/-- The tokens make up values with commas between them. -/
inductive IsItems : Nat → List Token → List Json → Prop
  | last {n : Nat} {ts : List Token} {v : Json} : IsValue n ts v → IsItems n ts [v]
  | more {n : Nat} {ts us : List Token} {v : Json} {items : List Json} : IsValue n ts v →
      IsItems n us items → IsItems n (ts ++ .comma :: us) (v :: items)

/-- The tokens make up keys with their values and commas between them. -/
inductive IsMembers : Nat → List Token → List (String × Json) → Prop
  | last {n : Nat} (key : String) {ts : List Token} {v : Json} : IsValue n ts v →
      IsMembers n (.scalar (.string key) :: .colon :: ts) [(key, v)]
  | more {n : Nat} (key : String) {ts us : List Token} {v : Json}
      {members : List (String × Json)} : IsValue n ts v → IsMembers n us members →
      IsMembers n (.scalar (.string key) :: .colon :: (ts ++ .comma :: us)) ((key, v) :: members)

end

/-- The text is one value, with white space where it may stand. -/
def IsText (text : List Char) (v : Json) : Prop := ∃ ts, Token.IsSpelling text ts ∧ IsValue 0 ts v

namespace Progress

/-! ### Values of the grammar are read -/

mutual

-- on the derivation, for every stack of open containers: a container of the grammar is a frame

/-- **A value of the grammar is put together.** -/
theorem reads_of_isValue : ∀ {n : Nat} {ts : List Token} {v : Json}, IsValue n ts v →
    ∀ {p : Progress} {stack : List Frame}, p.Awaits stack → stack.length = n →
      p.Reads ts (.complete v stack)
  | _, _, _, .scalar s, _, _, hp, _ => .cons (hp _ Token.noConfusion) (.nil _)
  | _, _, _, .emptyArray hroom, _, _, hp, hn =>
    .cons (hp.beginArray (hn ▸ hroom)) (.cons rfl (.nil _))
  | _, _, _, .array hroom hitems, _, stack, hp, hn =>
    .cons (hp.beginArray (hn ▸ hroom))
      (reads_of_isItems hitems (awaits_firstItem stack) (congrArg (· + 1) hn))
  | _, _, _, .emptyObject hroom, _, _, hp, hn =>
    .cons (hp.beginObject (hn ▸ hroom)) (.cons rfl (.nil _))
  | _, _, _, .object hroom hmembers, _, stack, hp, hn =>
    .cons (hp.beginObject (hn ▸ hroom))
      (reads_of_isMembers hmembers (awaitsKey_firstKey stack) (congrArg (· + 1) hn))

/-- Items, and the end of their array, are put behind those that have been read. -/
theorem reads_of_isItems : ∀ {n : Nat} {ts : List Token} {items : List Json},
    IsItems n ts items → ∀ {p : Progress} {stack : List Frame} {done : List Json},
      p.Awaits (.array done :: stack) → stack.length + 1 = n →
      p.Reads (ts ++ [.endArray]) (.complete (.array (done.reverse ++ items)) stack)
  | _, _, _, .last hv, _, _, _, hp, hn => by
    have hread := reads_of_isValue hv hp hn
    rw [← List.reverse_cons]
    exact hread.append (.cons rfl (.nil _))
  | _, _, _, @IsItems.more _ _ _ v _ hv hitems, _, stack, done, hp, hn => by
    have hread := reads_of_isValue hv hp hn
    have hrest := reads_of_isItems hitems (awaits_value (.array (v :: done) :: stack)) hn
    rw [List.reverse_cons, List.append_assoc, List.singleton_append] at hrest
    rw [List.append_assoc]
    exact hread.append (.cons rfl hrest)

/-- Members, and the end of their object, are collected behind those that have been read. -/
theorem reads_of_isMembers : ∀ {n : Nat} {ts : List Token} {members : List (String × Json)},
    IsMembers n ts members → ∀ {p : Progress} {stack : List Frame}
      {fields : List (String × Json)}, p.AwaitsKey fields stack → stack.length + 1 = n →
      p.Reads (ts ++ [.endObject]) (.complete (.object
        (members.foldl (fun fields member => putField member.1 member.2 fields) fields)) stack)
  | _, _, _, .last key hv, _, stack, fields, hp, hn => by
    have hread := reads_of_isValue hv (awaits_value (.object fields key :: stack)) hn
    exact (Reads.field hp key hread).append (.cons rfl (.nil _))
  | _, _, _, @IsMembers.more _ key _ _ v _ hv hmembers, _, stack, fields, hp, hn => by
    have hread := reads_of_isValue hv (awaits_value (.object fields key :: stack)) hn
    have hrest := reads_of_isMembers hmembers (awaitsKey_nextKey (putField key v fields) stack) hn
    have hboth := Reads.field hp key (hread.append (.cons (t := .comma) rfl hrest))
    simpa using hboth

end

/-! ### What is read is of the grammar -/

/-- The tokens make up values with a comma behind each of them; the last one stands first. -/
inductive IsDone (n : Nat) : List Token → List Json → Prop
  | nil : IsDone n [] []
  | snoc {ts us : List Token} {v : Json} {done : List Json} : IsDone n us done → IsValue n ts v →
      IsDone n (us ++ (ts ++ [.comma])) (v :: done)

/-- The tokens make up members with a comma behind each of them. -/
inductive IsDoneMembers (n : Nat) : List Token → List (String × Json) → Prop
  | nil : IsDoneMembers n [] []
  | snoc (key : String) {ts us : List Token} {v : Json} {members : List (String × Json)} :
      IsDoneMembers n us members → IsValue n ts v →
      IsDoneMembers n (us ++ (.scalar (.string key) :: .colon :: (ts ++ [.comma])))
        (members ++ [(key, v)])

theorem IsDone.isItems {n : Nat} {us ts : List Token} {done items : List Json}
    (h : IsDone n us done) (hitems : IsItems n ts items) :
    IsItems n (us ++ ts) (done.reverse ++ items) := by
  induction h generalizing ts items with
  | nil => exact hitems
  | snoc _ hv ih =>
    have hmore := ih (.more hv hitems)
    simpa using hmore

theorem IsDoneMembers.isMembers {n : Nat} {us ts : List Token}
    {before members : List (String × Json)} (h : IsDoneMembers n us before)
    (hmembers : IsMembers n ts members) : IsMembers n (us ++ ts) (before ++ members) := by
  induction h generalizing ts members with
  | nil => exact hmembers
  | snoc key _ hv ih =>
    have hmore := ih (.more key hv hmembers)
    simpa using hmore

/-- The tokens have opened these containers, and a value is what they lack. -/
inductive Opened : List Token → List Frame → Prop
  | nil : Opened [] []
  | array {ts us : List Token} {stack : List Frame} {done : List Json} : Opened ts stack →
      stack.length < maxDepth → IsDone (stack.length + 1) us done →
      Opened (ts ++ .beginArray :: us) (.array done :: stack)
  | object {ts us : List Token} {stack : List Frame} {members : List (String × Json)}
      (key : String) : Opened ts stack → stack.length < maxDepth →
      IsDoneMembers (stack.length + 1) us members →
      Opened (ts ++ .beginObject :: (us ++ [.scalar (.string key), .colon]))
        (.object (collect members) key :: stack)

/-- The tokens that have led to a place. -/
inductive Consumed : List Token → Progress → Prop
  | value {ts : List Token} {stack : List Frame} : Opened ts stack → Consumed ts (.value stack)
  | firstItem {ts : List Token} {stack : List Frame} : Opened ts stack →
      stack.length < maxDepth → Consumed (ts ++ [.beginArray]) (.firstItem stack)
  | firstKey {ts : List Token} {stack : List Frame} : Opened ts stack →
      stack.length < maxDepth → Consumed (ts ++ [.beginObject]) (.firstKey stack)
  | nextKey {ts us : List Token} {stack : List Frame} {members : List (String × Json)} :
      Opened ts stack → stack.length < maxDepth → IsDoneMembers (stack.length + 1) us members →
      Consumed (ts ++ .beginObject :: us) (.nextKey (collect members) stack)
  | afterKey {ts us : List Token} {stack : List Frame} {members : List (String × Json)}
      (key : String) : Opened ts stack → stack.length < maxDepth →
      IsDoneMembers (stack.length + 1) us members →
      Consumed (ts ++ .beginObject :: (us ++ [.scalar (.string key)]))
        (.afterKey (collect members) key stack)
  | complete {ts us : List Token} {stack : List Frame} {v : Json} : Opened ts stack →
      IsValue stack.length us v → Consumed (ts ++ us) (.complete v stack)

variable {ts : List Token} {t : Token} {p q : Progress} {stack : List Frame}

theorem consumed_of_begins (hstack : Opened ts stack) (h : Begins stack t q) :
    Consumed (ts ++ [t]) q := by
  cases h with
  | scalar s => exact .complete hstack (.scalar s)
  | array hroom => exact .firstItem hstack hroom
  | object hroom => exact .firstKey hstack hroom

/-- **One more token leads to the next place.** -/
theorem consumed_of_step (hp : Consumed ts p) (h : p.step t = some q) :
    Consumed (ts ++ [t]) q := by
  cases step_eq_some_iff.1 h with
  | value hbegins =>
    obtain ⟨hstack⟩ := hp
    exact consumed_of_begins hstack hbegins
  | firstItem hbegins =>
    obtain _ | ⟨hstack, hroom⟩ := hp
    exact consumed_of_begins (.array hstack hroom .nil) hbegins
  | noItem =>
    obtain _ | ⟨hstack, hroom⟩ := hp
    simpa using Consumed.complete hstack (.emptyArray hroom)
  | firstKey key =>
    obtain _ | _ | ⟨hstack, hroom⟩ := hp
    simpa using Consumed.afterKey key hstack hroom .nil
  | noField =>
    obtain _ | _ | ⟨hstack, hroom⟩ := hp
    simpa using Consumed.complete hstack (.emptyObject hroom)
  | nextKey key =>
    obtain _ | _ | _ | ⟨hstack, hroom, hmembers⟩ := hp
    simpa using Consumed.afterKey key hstack hroom hmembers
  | colon key =>
    obtain _ | _ | _ | _ | ⟨_, hstack, hroom, hmembers⟩ := hp
    simpa using Consumed.value (.object key hstack hroom hmembers)
  | nextItem =>
    obtain _ | _ | _ | _ | _ | ⟨⟨⟩ | ⟨hstack, hroom, hdone⟩, hv⟩ := hp
    simpa using Consumed.value (.array hstack hroom (hdone.snoc hv))
  | endArray =>
    obtain _ | _ | _ | _ | _ | ⟨⟨⟩ | ⟨hstack, hroom, hdone⟩, hv⟩ := hp
    simpa using Consumed.complete hstack (.array hroom (hdone.isItems (.last hv)))
  | nextField key =>
    obtain _ | _ | _ | _ | _ | ⟨⟨⟩ | ⟨⟩ | ⟨_, hstack, hroom, hmembers⟩, hv⟩ := hp
    simpa using Consumed.nextKey hstack hroom (hmembers.snoc key hv)
  | endObject key =>
    obtain _ | _ | _ | _ | _ | ⟨⟨⟩ | ⟨⟩ | ⟨_, hstack, hroom, hmembers⟩, hv⟩ := hp
    simpa using Consumed.complete hstack (.object hroom (hmembers.isMembers (.last key hv)))

/-- So do any number of them. -/
theorem consumed_of_steps {us : List Token} (hp : Consumed ts p)
    (h : us.foldlM step p = some q) : Consumed (ts ++ us) q := by
  induction us generalizing ts p with
  | nil =>
    obtain rfl := Option.some.inj h
    rwa [List.append_nil]
  | cons t us ih =>
    rw [List.foldlM_cons] at h
    obtain ⟨r, hr, hrest⟩ := Option.bind_eq_some_iff.1 h
    rw [List.append_cons]
    exact ih (consumed_of_step hp hr) hrest

end Progress

/-! ### Whole texts -/

/-- In front of a comma or the end of a container a number ends. -/
theorem ends_of_isSpelling {text : List Char} {t : Token} {ts : List Token}
    (h : Token.IsSpelling text (t :: ts)) (ht : t = .comma ∨ t = .endArray ∨ t = .endObject) :
    Numeral.Ends text := by
  generalize hwhole : t :: ts = us at h
  rcases h with _ | ⟨hspace, -⟩ | ⟨hpart, -, -⟩
  · cases hwhole
  · rintro d ⟨⟩
    simp only [Token.isSpace, Bool.or_eq_true, decide_eq_true_eq] at hspace
    rcases hspace with ((rfl | rfl) | rfl) | rfl <;> decide
  · obtain ⟨rfl, rfl⟩ := List.cons.inj hwhole
    obtain _ | _ | _ := hpart
    · simp at ht
    · simp at ht
    · exact ends_chars_append _ ht

/-- Tokens are put together to a value exactly when they make it up. -/
theorem ofTokens?_eq_some_iff {ts : List Token} {v : Json} :
    ofTokens? ts = some v ↔ IsValue 0 ts v := by
  constructor
  · intro h
    obtain ⟨p, hp, hresult⟩ := Option.bind_eq_some_iff.1 h
    have hconsumed := Progress.consumed_of_steps (.value .nil) hp
    unfold Progress.result? at hresult
    split at hresult
    · obtain rfl := Option.some.inj hresult
      -- nothing is open, so the tokens are those of the value
      generalize hwhole : [] ++ ts = whole at hconsumed
      obtain _ | _ | _ | _ | _ | ⟨⟨⟩, hv⟩ := hconsumed
      rw [List.nil_append, List.nil_append] at hwhole
      rwa [hwhole]
    · cases hresult
  · intro h
    have hreads := Progress.reads_of_isValue h (Progress.awaits_value []) rfl
    rw [Progress.Reads] at hreads
    rw [ofTokens?, hreads]
    rfl

/-- **A text is read as a value exactly when it is that value.** -/
theorem parseChars?_eq_some_iff {text : List Char} {v : Json} :
    parseChars? text = some v ↔ IsText text v := by
  rw [parseChars?, Option.bind_eq_some_iff]
  simp only [Token.scan?_eq_some_iff, ofTokens?_eq_some_iff]
  rfl

theorem parse?_eq_some_iff {text : String} {v : Json} :
    parse? text = some v ↔ IsText text.toList v :=
  parseChars?_eq_some_iff

end BenchReport.Json
