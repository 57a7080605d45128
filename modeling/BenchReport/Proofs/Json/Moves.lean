import BenchReport.Json.Reader

/-!
# What one token does

A text is read token by token.  From every place only some tokens lead on, and where a token leads
is said here once, with one case for every kind of step.

## Main definitions

* `Json.Progress.Begins` — the tokens that begin a value.
* `Json.Progress.Moves` — where a token leads from a place.

## Main results

* `Json.Progress.step_eq_some_iff` — **a step is taken exactly when the token leads there.**
-/

namespace BenchReport.Json.Progress

/-- The token begins a value inside the open containers. -/
inductive Begins (stack : List Frame) : Token → Progress → Prop
  | scalar (s : JsonScalar) : Begins stack (.scalar s) (.complete (.scalar s) stack)
  | array : stack.length < maxDepth → Begins stack .beginArray (.firstItem stack)
  | object : stack.length < maxDepth → Begins stack .beginObject (.firstKey stack)

/-- The token leads from one place to another. -/
inductive Moves : Progress → Token → Progress → Prop
  | value {stack : List Frame} {t : Token} {q : Progress} : Begins stack t q →
      Moves (.value stack) t q
  | firstItem {stack : List Frame} {t : Token} {q : Progress} : Begins (.array [] :: stack) t q →
      Moves (.firstItem stack) t q
  | noItem {stack : List Frame} :
      Moves (.firstItem stack) .endArray (.complete (.array []) stack)
  | firstKey {stack : List Frame} (key : String) :
      Moves (.firstKey stack) (.scalar (.string key)) (.afterKey [] key stack)
  | noField {stack : List Frame} :
      Moves (.firstKey stack) .endObject (.complete (.object []) stack)
  | nextKey {fields : List (String × Json)} {stack : List Frame} (key : String) :
      Moves (.nextKey fields stack) (.scalar (.string key)) (.afterKey fields key stack)
  | colon {fields : List (String × Json)} (key : String) {stack : List Frame} :
      Moves (.afterKey fields key stack) .colon (.value (.object fields key :: stack))
  | nextItem {v : Json} {items : List Json} {stack : List Frame} :
      Moves (.complete v (.array items :: stack)) .comma (.value (.array (v :: items) :: stack))
  | endArray {v : Json} {items : List Json} {stack : List Frame} :
      Moves (.complete v (.array items :: stack)) .endArray
        (.complete (.array (v :: items).reverse) stack)
  | nextField {v : Json} {fields : List (String × Json)} (key : String) {stack : List Frame} :
      Moves (.complete v (.object fields key :: stack)) .comma
        (.nextKey (putField key v fields) stack)
  | endObject {v : Json} {fields : List (String × Json)} (key : String) {stack : List Frame} :
      Moves (.complete v (.object fields key :: stack)) .endObject
        (.complete (.object (putField key v fields)) stack)

variable {p q : Progress} {t : Token} {stack : List Frame}

theorem begin?_eq_some_iff : begin? stack t = some q ↔ Begins stack t q := by
  constructor
  · intro h
    cases t with
    | scalar s =>
      obtain rfl := Option.some.inj h
      exact .scalar s
    | beginArray =>
      obtain ⟨hroom, hq⟩ := Option.ite_none_right_eq_some.1 h
      obtain rfl := Option.some.inj hq
      exact .array hroom
    | beginObject =>
      obtain ⟨hroom, hq⟩ := Option.ite_none_right_eq_some.1 h
      obtain rfl := Option.some.inj hq
      exact .object hroom
    | _ => cases h
  · rintro (s | hroom | hroom)
    · rfl
    · exact if_pos hroom
    · exact if_pos hroom

/-- **A step is taken exactly when the token leads there.** -/
theorem step_eq_some_iff : step p t = some q ↔ Moves p t q := by
  constructor
  · intro h
    unfold step at h
    split at h
    case h_1 => exact .value (begin?_eq_some_iff.1 h)
    case h_2 =>
      obtain rfl := Option.some.inj h
      exact .noItem
    case h_3 => exact .firstItem (begin?_eq_some_iff.1 h)
    case h_12 => cases h
    all_goals
      obtain rfl := Option.some.inj h
      constructor
  · intro h
    cases h with
    | value hbegins => exact begin?_eq_some_iff.2 hbegins
    | firstItem hbegins =>
      cases hbegins with
      | scalar s => rfl
      | array hroom => exact if_pos hroom
      | object hroom => exact if_pos hroom
    | _ => rfl

end BenchReport.Json.Progress
