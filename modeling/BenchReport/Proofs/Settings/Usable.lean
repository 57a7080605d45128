import BenchReport.Settings

/-!
# Settings that can be used

Settings can be used when the browser document is among the formats and the size limit is not
zero.  Setting formats keeps the document in front and every other format once, where it was
asked for first; the environment can only set a limit that is not zero.

## Main results

* `Settings.foldl_addFormat`, `Settings.setFormats_eq` — **formats keep the order in which they
  were first asked for.**
* `Settings.nodup_setFormats` — no format is there twice.
* `Settings.withSizeOverride_eq`, `Settings.sizeOverride?_getD_pos` — what the environment sets.
* `Settings.validate_eq_ok_iff`, `Settings.exists_invalidSetting` — which settings can be used.
-/

namespace BenchReport.Settings

/-! ### Formats -/

/-- **Formats that are added stand behind those that are there**, each once and in the order in
which they were first asked for. -/
theorem foldl_addFormat (formats : List Format) (s : Settings) :
    formats.foldl addFormat s =
      { s with formats := s.formats ++ (formats.removeAll s.formats).eraseDups } := by
  induction formats generalizing s with
  | nil => simp [List.removeAll]
  | cons format rest ih =>
    rw [List.foldl_cons, ih, addFormat]
    by_cases hformat : format ∈ s.formats
    · rw [if_pos hformat, List.cons_removeAll, if_neg (by simpa using hformat)]
    · have hrest : rest.removeAll (s.formats ++ [format]) =
          (rest.removeAll s.formats).filter fun other => !other == format := by
        rw [List.removeAll, List.removeAll, List.filter_filter]
        refine List.filter_congr fun other _ => ?_
        by_cases hother : other = format <;> simp [hother]
      rw [if_neg hformat, List.cons_removeAll, if_pos (by simpa using hformat),
        List.eraseDups_cons, ← hrest, List.append_assoc]
      rfl

/-- Setting formats keeps the browser document in front, and the others once each in the order in
which they were first asked for. -/
theorem setFormats_eq (s : Settings) (formats : List Format) :
    s.setFormats formats =
      { s with formats := .html :: (formats.filter (· ≠ .html)).eraseDups } := by
  have hothers : formats.removeAll [.html] = formats.filter (· ≠ .html) := by
    simp [List.removeAll]
  rw [setFormats, foldl_addFormat, ← hothers]
  rfl

/-- A format is not added again. -/
theorem nodup_addFormat {s : Settings} (h : s.formats.Nodup) (format : Format) :
    (s.addFormat format).formats.Nodup := by
  rw [addFormat]
  split
  · exact h
  · rename_i hformat
    refine List.nodup_append.2 ⟨h, by simp, ?_⟩
    rintro _ hother _ hnew rfl
    rw [List.mem_singleton] at hnew
    exact hformat (hnew ▸ hother)

theorem nodup_foldl_addFormat {s : Settings} (h : s.formats.Nodup) (formats : List Format) :
    (formats.foldl addFormat s).formats.Nodup := by
  induction formats generalizing s with
  | nil => exact h
  | cons format rest ih => exact ih (nodup_addFormat h format)

theorem nodup_setFormats (s : Settings) (formats : List Format) :
    (s.setFormats formats).formats.Nodup :=
  nodup_foldl_addFormat (by simp) formats

/-! ### The size limit of the environment -/

theorem sizeOverride?_pos {value : Option String} {bytes : Nat}
    (h : sizeOverride? value = some bytes) : 0 < bytes := by
  simpa using (Option.filter_eq_some_iff.1 h).2

theorem withSizeOverride_eq (s : Settings) (value : Option String) :
    s.withSizeOverride value =
      { s with maxFileSize := (sizeOverride? value).getD s.maxFileSize } := by
  rw [withSizeOverride]
  cases sizeOverride? value <;> rfl

/-- In place of a limit that is not zero the environment sets none that is. -/
theorem sizeOverride?_getD_pos {bytes : Nat} (h : 0 < bytes) (value : Option String) :
    0 < (sizeOverride? value).getD bytes := by
  cases hvalue : sizeOverride? value with
  | none => exact h
  | some other => exact sizeOverride?_pos hvalue

/-! ### Which settings can be used -/

/-- **Settings can be used when the browser document is among the formats and the size limit is
not zero.** -/
theorem validate_eq_ok_iff (s : Settings) :
    s.validate = .ok () ↔ .html ∈ s.formats ∧ 0 < s.maxFileSize := by
  rw [validate, hasFormat, Nat.pos_iff_ne_zero]
  by_cases hformat : .html ∈ s.formats <;> by_cases hsize : s.maxFileSize = 0 <;>
    simp [hformat, hsize]

/-- Settings that cannot be used are told from one of two parameters. -/
theorem exists_invalidSetting {s : Settings} {problem : Problem}
    (h : s.validate = .error problem) :
    ∃ parameter reason, problem = .invalidSetting parameter reason := by
  rw [validate] at h
  split at h
  · exact ⟨_, _, (Except.error.inj h).symm⟩
  · split at h
    · exact ⟨_, _, (Except.error.inj h).symm⟩
    · cases h

end BenchReport.Settings
