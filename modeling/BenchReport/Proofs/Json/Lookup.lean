import BenchReport.Proofs.Json.RoundTrip
import Mathlib.Data.List.Forall2

/-!
# What is found in a value that was read

An object that was read has its fields in the order of their keys, so its values are looked up.
Under a key stands what was written under it last.

## Main definitions

* `Json.at?` — the value under a key of an object.
* `Json.ListAt` — under a key stands a list of what was written.

## Main results

* `Json.at?_settled` — **under a key stands the value that was written there last.**
* `Json.listAt_settled` — a list that was written is found in its order.
-/

namespace BenchReport.Json

theorem fieldOf?_cons (k key : String) (v : Json) (fields : List (String × Json)) :
    fieldOf? k ((key, v) :: fields) = if k = key then some v else fieldOf? k fields := by
  rw [fieldOf?, List.lookup_cons]
  split_ifs with h
  · rw [beq_iff_eq.2 h]
  · rw [beq_eq_false_iff_ne.2 h, fieldOf?]

/-- A key names the value that was put under it last. -/
theorem fieldOf?_putField (k key : String) (v : Json) (fields : List (String × Json)) :
    fieldOf? k (putField key v fields) = if k = key then some v else fieldOf? k fields := by
  induction fields with
  | nil => exact fieldOf?_cons k key v []
  | cons field fields ih =>
    obtain ⟨first, w⟩ := field
    rw [putField]
    by_cases hbefore : key < first
    · rw [if_pos hbefore, fieldOf?_cons]
    rw [if_neg hbefore]
    by_cases hsame : key = first
    · rw [if_pos hsame, fieldOf?_cons, fieldOf?_cons, ← hsame]
      split_ifs <;> rfl
    · -- different keys do not hide the values of each other
      rw [if_neg hsame, fieldOf?_cons, ih, fieldOf?_cons]
      by_cases hk : k = key
      · rw [if_pos hk, if_pos hk, if_neg (hk ▸ hsame)]
      · rw [if_neg hk, if_neg hk]

/-- The items of a list are read one by one. -/
theorem settledItems_eq_map (items : List Json) : settledItems items = items.map settled := by
  induction items with
  | nil => rfl
  | cons v items ih => rw [settledItems, ih, List.map_cons]

/-- The value under a key of an object. -/
def at? (key : String) : Json → Option Json
  | .object fields => fieldOf? key fields
  | _ => none

/-- Fields that are put in later go before those that were there. -/
theorem fieldOf?_putFields (key : String) (fields done : List (String × Json)) :
    fieldOf? key (putFields fields done) =
      ((fields.reverse.lookup key).map settled).or (fieldOf? key done) := by
  induction fields generalizing done with
  | nil => rfl
  | cons field fields ih =>
    obtain ⟨k, v⟩ := field
    rw [putFields, ih, fieldOf?_putField, List.reverse_cons, List.lookup_append]
    cases fields.reverse.lookup key with
    | some w => rfl
    | none =>
      -- the fields behind this one have another key
      by_cases hkey : key = k
      · simp [hkey]
      · simp [hkey, List.lookup_cons, beq_eq_false_iff_ne.2 hkey]

/-- **Under a key stands the value that was written there last.** -/
theorem at?_settled (key : String) (fields : List (String × Json)) :
    (object fields).settled.at? key = (fields.reverse.lookup key).map settled := by
  rw [settled, at?, fieldOf?_putFields]
  exact Option.or_none

variable {α : Type}

/-- Under a key stands a list that shows these things in their order. -/
def ListAt (v : Json) (key : String) (shows : α → Json → Prop) (list : List α) : Prop :=
  ∃ items, v.at? key = some (.array items) ∧ List.Forall₂ shows list items

theorem listAt_settled {v : Json} {key : String} {shows : α → Json → Prop} {list : List α}
    {toJson : α → Json} (hv : v.at? key = some (array (list.map toJson)).settled)
    (h : ∀ a ∈ list, shows a (toJson a).settled) : v.ListAt key shows list := by
  refine ⟨_, hv, ?_⟩
  rw [settledItems_eq_map, List.map_map, List.forall₂_map_right_iff, List.forall₂_same]
  exact h

end BenchReport.Json
