import BenchReport.Text.Basic

/-!
# Stretches between separators

## Main results

* `Text.split_append_cons` — a separator cuts a text in two.
* `Text.split_lines` — stretches that each end with a separator are found again.
* `Text.infix_lines` — what has no separator and stands in such stretches stands in one of them.
-/

namespace BenchReport.Text

theorem notMem_of_mem_split {separator : Char} {text piece : List Char}
    (h : piece ∈ split separator text) : separator ∉ piece := by
  induction text generalizing piece with
  | nil =>
    rw [split, List.mem_singleton] at h
    simp [h]
  | cons c text ih =>
    rw [split] at h
    split at h
    · rcases List.mem_cons.1 h with rfl | h
      · simp
      · exact ih h
    · rename_i hc
      obtain ⟨first, others, hsplit⟩ := List.exists_cons_of_ne_nil (split_ne_nil separator text)
      rw [hsplit] at h ih
      rcases List.mem_cons.1 h with rfl | h
      · exact List.not_mem_cons_of_ne_of_not_mem (Ne.symm hc) (ih List.mem_cons_self)
      · exact ih (List.mem_cons_of_mem _ h)

theorem split_eq_singleton {separator : Char} {text : List Char} (h : separator ∉ text) :
    split separator text = [text] := by
  induction text with
  | nil => rfl
  | cons c rest ih =>
    rw [List.mem_cons, not_or] at h
    rw [split, if_neg (Ne.symm h.1), ih h.2]

/-- A separator cuts a text in two. -/
theorem split_append_cons (separator : Char) (text rest : List Char) :
    split separator (text ++ separator :: rest) = split separator text ++ split separator rest := by
  induction text with
  | nil => simp [split]
  | cons c text ih =>
    rw [List.cons_append, split, split, ih]
    split
    · rfl
    · obtain ⟨first, others, h⟩ := List.exists_cons_of_ne_nil (split_ne_nil separator text)
      rw [h]
      rfl

/-- Stretches that each end with a separator are found again, and after the last of them nothing
is left. -/
theorem split_lines {separator : Char} {lines : List (List Char)}
    (h : ∀ line ∈ lines, separator ∉ line) :
    split separator (lines.flatMap (· ++ [separator])) = lines ++ [[]] := by
  induction lines with
  | nil => rfl
  | cons line lines ih =>
    obtain ⟨hline, hlines⟩ := List.forall_mem_cons.1 h
    rw [List.flatMap_cons, List.append_assoc, List.singleton_append, split_append_cons,
      split_eq_singleton hline, ih hlines]
    rfl

/-! ### Pieces of stretches -/

variable {piece : List Char} {separator : Char}

/-- A piece without the separator does not reach beyond it. -/
theorem prefix_of_prefix_append_cons (hpiece : separator ∉ piece) {a b : List Char}
    (h : piece <+: a ++ separator :: b) : piece <+: a := by
  rcases List.prefix_or_prefix_of_prefix h (List.prefix_append a (separator :: b)) with
    hshort | ⟨rest, rfl⟩
  · exact hshort
  · cases rest with
    | nil => simp
    | cons c rest =>
      rw [List.prefix_append_right_inj] at h
      obtain ⟨rfl, -⟩ := List.cons_prefix_cons.1 h
      exact absurd (List.mem_append_right _ List.mem_cons_self) hpiece

theorem infix_append_cons (hne : piece ≠ []) (hpiece : separator ∉ piece) {a b : List Char}
    (h : piece <:+: a ++ separator :: b) : piece <:+: a ∨ piece <:+: b := by
  induction a with
  | nil =>
    rcases List.infix_cons_iff.1 h with hbegins | hrest
    · exact absurd (List.prefix_nil.1 (prefix_of_prefix_append_cons (a := []) hpiece hbegins)) hne
    · exact .inr hrest
  | cons c a ih =>
    rcases List.infix_cons_iff.1 h with hbegins | hrest
    · exact .inl (prefix_of_prefix_append_cons (a := c :: a) hpiece hbegins).isInfix
    · exact (ih hrest).imp_left fun h => List.infix_cons_iff.2 (.inr h)

/-- A piece without the separator, in stretches that each end with one, stands in one of them. -/
theorem infix_lines (hne : piece ≠ []) (hpiece : separator ∉ piece) {lines : List (List Char)}
    (h : piece <:+: lines.flatMap (· ++ [separator])) : ∃ line ∈ lines, piece <:+: line := by
  induction lines with
  | nil => exact absurd (List.infix_nil.1 h) hne
  | cons line lines ih =>
    rw [List.flatMap_cons, List.append_assoc, List.singleton_append] at h
    rcases infix_append_cons hne hpiece h with hline | hlines
    · exact ⟨line, List.mem_cons_self, hline⟩
    · obtain ⟨other, hother, hinside⟩ := ih hlines
      exact ⟨other, List.mem_cons_of_mem _ hother, hinside⟩

end BenchReport.Text
