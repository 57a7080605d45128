import BenchReport.Proofs.Results.Answers
import BenchReport.Proofs.Results.Separation

/-!
# The newest result file is found

In a folder whose entries are listed in any order, the result file that is found is the first of
those that were changed last, among all entries that stand for a result file.  What stands for none
does not matter, and neither does what is older than another one.

## Main definitions

* `Instant.sinceEpoch` — times as whole numbers.
* `ResultFile.IsFirstNewest` — the first file of a list that was changed last.
* `ResultFile.StandsFor`, `ResultFile.IsNewest` — the same for the entries of a folder.

## Main results

* `ResultFile.isFirstNewest_foldl` — going through a list keeps the first of the newest files.
* `ResultFile.newest?_eq_some_iff` — the file of a list that counts.
* `ResultFile.locate_newest` — **the newest result file of a folder is found.**
-/

namespace BenchReport

namespace Instant

/-- Nanoseconds since the beginning of 1970; negative before. -/
def sinceEpoch (t : Instant) : Int := t.seconds * secondNanos + t.nanos

/-- An instant comes before another one when fewer nanoseconds have passed. -/
theorem before_iff {t u : Instant} : t.before u = true ↔ t.sinceEpoch < u.sinceEpoch := by
  have ht := t.nanos_lt
  have hu := u.nanos_lt
  simp only [before, sinceEpoch, secondNanos, Bool.or_eq_true, Bool.and_eq_true,
    decide_eq_true_eq, beq_iff_eq] at *
  omega

end Instant

namespace ResultFile

/-! ### Lists of files -/

/-- The file was changed after all files in front of it, and no file behind it was changed later. -/
def IsFirstNewest (files : List ResultFile) (file : ResultFile) : Prop :=
  ∃ before after, files = before ++ file :: after ∧
    (∀ f ∈ before, f.modified.sinceEpoch < file.modified.sinceEpoch) ∧
    ∀ f ∈ after, f.modified.sinceEpoch ≤ file.modified.sinceEpoch

variable {files : List ResultFile} {file other : ResultFile}

theorem IsFirstNewest.mem (h : IsFirstNewest files file) : file ∈ files := by
  obtain ⟨before, after, rfl, -, -⟩ := h
  simp

theorem IsFirstNewest.le (h : IsFirstNewest files file) (hmem : other ∈ files) :
    other.modified.sinceEpoch ≤ file.modified.sinceEpoch := by
  obtain ⟨before, after, rfl, hbefore, hafter⟩ := h
  rcases List.mem_append.1 hmem with hmem | hmem
  · exact Int.le_of_lt (hbefore other hmem)
  · rcases List.mem_cons.1 hmem with rfl | hmem
    · exact Int.le_refl _
    · exact hafter other hmem

/-- A step keeps one of two files: the second one when it is newer, and else the first. -/
theorem newer_cases (a b : ResultFile) :
    (newer a b = b ∧ a.modified.sinceEpoch < b.modified.sinceEpoch) ∨
      (newer a b = a ∧ b.modified.sinceEpoch ≤ a.modified.sinceEpoch) := by
  unfold newer
  by_cases h : a.modified.before b.modified = true
  · exact .inl ⟨if_pos h, Instant.before_iff.1 h⟩
  · exact .inr ⟨if_neg h, Int.not_lt.1 fun hlt => h (Instant.before_iff.2 hlt)⟩

/-- What is kept of the first two files stands for both in front of the others. -/
theorem IsFirstNewest.of_newer {first second : ResultFile} {rest : List ResultFile}
    (h : IsFirstNewest (newer first second :: rest) file) :
    IsFirstNewest (first :: second :: rest) file := by
  have hle := h.le List.mem_cons_self
  obtain ⟨before, after, hsplit, hbefore, hafter⟩ := h
  rcases newer_cases first second with ⟨hnewer, hlt⟩ | ⟨hnewer, hsecond⟩
  · -- the first file is older than the second, so it is older than the newest
    rw [hnewer] at hsplit hle
    refine ⟨first :: before, after, by rw [hsplit, List.cons_append], ?_, hafter⟩
    exact List.forall_mem_cons.2 ⟨by omega, hbefore⟩
  · rw [hnewer] at hsplit hle
    cases before with
    | nil =>
      -- the first file is the newest, and the second is not newer
      obtain ⟨rfl, rfl⟩ := List.cons.inj hsplit
      exact ⟨[], second :: rest, rfl, by simp, List.forall_mem_cons.2 ⟨hsecond, hafter⟩⟩
    | cons f before =>
      obtain ⟨rfl, rfl⟩ := List.cons.inj hsplit
      rw [List.forall_mem_cons] at hbefore
      refine ⟨first :: second :: before, after, rfl, ?_, hafter⟩
      exact List.forall_mem_cons.2 ⟨hbefore.1, List.forall_mem_cons.2 ⟨by omega, hbefore.2⟩⟩

/-- **Going through a list keeps the first of the newest files.** -/
theorem isFirstNewest_foldl (first : ResultFile) (rest : List ResultFile) :
    IsFirstNewest (first :: rest) (rest.foldl newer first) := by
  induction rest generalizing first with
  | nil => exact ⟨[], [], rfl, by simp, by simp⟩
  | cons second rest ih =>
    rw [List.foldl_cons]
    exact (ih (newer first second)).of_newer

/-- There is only one first newest file. -/
theorem IsFirstNewest.unique (hfile : IsFirstNewest files file)
    (hother : IsFirstNewest files other) : file = other := by
  have hle := hother.le hfile.mem
  have hge := hfile.le hother.mem
  obtain ⟨before, after, rfl, hbefore, -⟩ := hfile
  obtain ⟨before', after', hsplit, hbefore', -⟩ := hother
  -- neither of the two stands in front of the other, because they were changed at the same time
  rcases List.append_eq_append_iff.1 hsplit with ⟨between, hfront, hback⟩ | ⟨between, hfront, hback⟩
  · cases between with
    | nil => exact (List.cons.inj hback).1
    | cons f between =>
      obtain ⟨rfl, -⟩ := List.cons.inj hback
      have hlt := hbefore' file (by rw [hfront]; simp)
      omega
  · cases between with
    | nil => exact (List.cons.inj hback).1.symm
    | cons f between =>
      obtain ⟨rfl, -⟩ := List.cons.inj hback
      have hlt := hbefore other (by rw [hfront]; simp)
      omega

/-- **The file that counts is the first newest one.** -/
theorem newest?_eq_some_iff : newest? files = some file ↔ IsFirstNewest files file := by
  cases files with
  | nil =>
    refine iff_of_false (by simp [newest?]) fun h => ?_
    cases h.mem
  | cons first rest =>
    rw [newest?, Option.some.injEq]
    have hfound := isFirstNewest_foldl first rest
    constructor
    · rintro rfl
      exact hfound
    · exact hfound.unique

theorem newest?_eq_none_iff : newest? files = none ↔ files = [] := by
  cases files <;> simp [newest?]

/-! ### Entries of a folder -/

variable (answers : Answers) (folder : Path) (key : String)

/-- An entry of a folder stands for a result file of a key: its name can be read, is text and has
the pattern, and the path with that name leads to a file, along links if need be.  That file's time
counts. -/
inductive StandsFor : Except AccessError FileName → ResultFile → Prop
  | intro {name : String} {size : Nat} {modified : Instant}
      (pattern : hasPattern key.toList name.toList = true)
      (status : answers (.status (folder.join ⟨name⟩)) = Except.ok (Status.file size modified)) :
      StandsFor (.ok (.text name)) ⟨folder.join ⟨name⟩, modified⟩

/-- Of the entries that stand for result files the one that stands for this file is the first of
those whose files were changed last. -/
def IsNewest (entries : List (Except AccessError FileName)) (file : ResultFile) : Prop :=
  ∃ before entry after, entries = before ++ entry :: after ∧
    StandsFor answers folder key entry file ∧
    (∀ e ∈ before, ∀ f, StandsFor answers folder key e f →
      f.modified.sinceEpoch < file.modified.sinceEpoch) ∧
    ∀ e ∈ after, ∀ f, StandsFor answers folder key e f →
      f.modified.sinceEpoch ≤ file.modified.sinceEpoch

/-- The result files that the entries of a folder stand for. -/
def filesOf (entries : List (Except AccessError FileName)) : List ResultFile :=
  entries.filterMap fun entry => (ofListed? folder key entry).result answers

variable {answers folder key} {entry : Except AccessError FileName}
  {entries : List (Except AccessError FileName)}

theorem result_ofListed?_eq_some_iff :
    (ofListed? folder key entry).result answers = some file ↔
      StandsFor answers folder key entry file := by
  constructor
  · intro h
    cases entry with
    | error e => cases h
    | ok name =>
      cases name with
      | raw bytes => cases h
      | text name =>
        rw [ofListed?, ofName?, FileName.text?] at h
        by_cases hpattern : hasPattern key.toList name.toList = true
        · simp only [hpattern, if_true, Job.result_bind, Job.result_status] at h
          cases hstatus : (answers (.status (folder.join ⟨name⟩)) : Except AccessError Status) with
          | error e =>
            rw [hstatus] at h
            cases h
          | ok status =>
            rw [hstatus] at h
            cases status with
            | folder => cases h
            | file size modified =>
              obtain rfl := Option.some.inj h
              exact ⟨hpattern, hstatus⟩
        · simp only [hpattern] at h
          cases h
  · rintro ⟨hpattern, hstatus⟩
    simp [ofListed?, ofName?, FileName.text?, hpattern, hstatus]

theorem StandsFor.unique (hfile : StandsFor answers folder key entry file)
    (hother : StandsFor answers folder key entry other) : file = other := by
  rw [← result_ofListed?_eq_some_iff] at hfile hother
  exact Option.some.inj (hfile.symm.trans hother)

/-- The listing of another folder does not matter. -/
theorem standsFor_listing (listed : List (Except AccessError FileName)) :
    StandsFor (answers.listing folder listed) folder key entry file ↔
      StandsFor answers folder key entry file := by
  constructor
  · rintro ⟨hpattern, hstatus⟩
    exact ⟨hpattern, hstatus⟩
  · rintro ⟨hpattern, hstatus⟩
    exact ⟨hpattern, hstatus⟩

/-- What is found in a folder that cannot be listed, and in one that can. -/
theorem result_locate : (locate folder key).result answers =
    match answers (.list folder) with
    | .error _ => none
    | .ok entries => newest? (filesOf answers folder key entries) := by
  rw [locate, Job.result_bind, Job.result_list]
  cases answers (.list folder) with
  | error e => rfl
  | ok entries =>
    simp only [Job.result_bind, Job.result_findAll]
    rfl

theorem mem_filesOf_iff : file ∈ filesOf answers folder key entries ↔
    ∃ entry ∈ entries, StandsFor answers folder key entry file := by
  simp only [filesOf, List.mem_filterMap, result_ofListed?_eq_some_iff]

/-- The first newest file of a folder is that of its newest entry. -/
theorem isFirstNewest_filesOf_iff : IsFirstNewest (filesOf answers folder key entries) file ↔
    IsNewest answers folder key entries file := by
  constructor
  · rintro ⟨before, after, hsplit, hbefore, hafter⟩
    obtain ⟨front, back, rfl, rfl, hback⟩ := List.filterMap_eq_append_iff.1 hsplit
    obtain ⟨passed, entry, rest, rfl, hpassed, hentry, rfl⟩ := List.filterMap_eq_cons_iff.1 hback
    refine ⟨front ++ passed, entry, rest, by rw [List.append_assoc],
      result_ofListed?_eq_some_iff.1 hentry, fun e he f hf => ?_, fun e he f hf =>
        hafter f (mem_filesOf_iff.2 ⟨e, he, hf⟩)⟩
    rcases List.mem_append.1 he with he | he
    · exact hbefore f (mem_filesOf_iff.2 ⟨e, he, hf⟩)
    · have hnone := hpassed e he
      rw [result_ofListed?_eq_some_iff.2 hf] at hnone
      cases hnone
  · rintro ⟨before, entry, after, rfl, hentry, hbefore, hafter⟩
    refine ⟨filesOf answers folder key before, filesOf answers folder key after, ?_, fun f hf => ?_,
      fun f hf => ?_⟩
    · have hfile := result_ofListed?_eq_some_iff.2 hentry
      simp only [filesOf, List.filterMap_append, List.filterMap_cons, hfile]
    · obtain ⟨e, he, hstands⟩ := mem_filesOf_iff.1 hf
      exact hbefore e he f hstands
    · obtain ⟨e, he, hstands⟩ := mem_filesOf_iff.1 hf
      exact hafter e he f hstands

theorem result_locate_eq_some_iff (hlist : answers (.list folder) = Except.ok entries) :
    (locate folder key).result answers = some file ↔ IsNewest answers folder key entries file := by
  rw [result_locate, hlist]
  exact newest?_eq_some_iff.trans isFirstNewest_filesOf_iff

theorem result_locate_eq_none_iff (hlist : answers (.list folder) = Except.ok entries) :
    (locate folder key).result answers = none ↔
      ∀ entry ∈ entries, ∀ file, ¬ StandsFor answers folder key entry file := by
  rw [result_locate, hlist]
  refine newest?_eq_none_iff.trans ?_
  rw [filesOf, List.filterMap_eq_nil_iff]
  simp only [Option.eq_none_iff_forall_ne_some, ne_eq, result_ofListed?_eq_some_iff]

theorem keepsAnswers_ofName? (folder : Path) (key : String) (name : FileName) :
    (ofName? folder key name).KeepsAnswers := by
  unfold ofName?
  cases name.text? with
  | none => exact Job.keepsAnswers_pure none
  | some text =>
    simp only
    split
    · refine (Job.keepsAnswers_status _).bind fun status => ?_
      split <;> exact Job.keepsAnswers_pure _
    · exact Job.keepsAnswers_pure none

theorem keepsAnswers_ofListed? (folder : Path) (key : String)
    (entry : Except AccessError FileName) : (ofListed? folder key entry).KeepsAnswers := by
  cases entry with
  | error e => exact Job.keepsAnswers_pure none
  | ok name => exact keepsAnswers_ofName? folder key name

theorem keepsAnswers_locate (folder : Path) (key : String) :
    (locate folder key).KeepsAnswers := by
  refine (Job.keepsAnswers_list folder).bind fun entries => ?_
  cases entries with
  | error e => exact (Job.keepsAnswers_note _).bind fun _ => Job.keepsAnswers_pure none
  | ok entries =>
    exact (Job.keepsAnswers_findAll (keepsAnswers_ofListed? folder key) entries).bind fun files =>
      (Job.keepsAnswers_note _).bind fun _ => Job.keepsAnswers_pure _

/-! ### Changes of a folder -/

/-- Two result files of the folder that were changed at the same time are the same one. -/
def DistinctTimes (answers : Answers) (folder : Path) (key : String)
    (entries : List (Except AccessError FileName)) : Prop :=
  ∀ a ∈ entries, ∀ b ∈ entries, ∀ f g, StandsFor answers folder key a f →
    StandsFor answers folder key b g → f.modified.sinceEpoch = g.modified.sinceEpoch → f = g

/-- Every entry that is not kept stands for no result file, or for an older one than an entry that
is kept. -/
def KeepsNewer (answers : Answers) (folder : Path) (key : String)
    (entries : List (Except AccessError FileName)) (keep : Except AccessError FileName → Bool) :
    Prop :=
  ∀ entry ∈ entries, keep entry = false → ∀ f, StandsFor answers folder key entry f →
    ∃ kept ∈ entries, keep kept = true ∧ ∃ g, StandsFor answers folder key kept g ∧
      f.modified.sinceEpoch < g.modified.sinceEpoch

theorem IsNewest.exists_mem (h : IsNewest answers folder key entries file) :
    ∃ entry ∈ entries, StandsFor answers folder key entry file := by
  obtain ⟨before, entry, after, rfl, hentry, -, -⟩ := h
  exact ⟨entry, by simp, hentry⟩

theorem IsNewest.le (h : IsNewest answers folder key entries file) (hmem : entry ∈ entries)
    (hentry : StandsFor answers folder key entry other) :
    other.modified.sinceEpoch ≤ file.modified.sinceEpoch :=
  (isFirstNewest_filesOf_iff.2 h).le (mem_filesOf_iff.2 ⟨entry, hmem, hentry⟩)

/-- The newest file of a folder does not depend on the listing of another. -/
theorem isNewest_listing (listed : List (Except AccessError FileName)) :
    IsNewest (answers.listing folder listed) folder key entries file ↔
      IsNewest answers folder key entries file := by
  simp only [IsNewest, standsFor_listing]

/-- **The order of the listing does not matter** when no two files have one time. -/
theorem result_locate_of_perm (hlist : answers (.list folder) = Except.ok entries)
    {entries' : List (Except AccessError FileName)} (hperm : entries.Perm entries')
    (hdistinct : DistinctTimes answers folder key entries) :
    (locate folder key).result (answers.listing folder entries') =
      (locate folder key).result answers := by
  have hlist' := answers.listing_list folder entries'
  cases hfound : (locate folder key).result answers with
  | none =>
    rw [result_locate_eq_none_iff hlist] at hfound
    rw [result_locate_eq_none_iff hlist']
    intro entry hmem file hentry
    exact hfound entry (hperm.mem_iff.2 hmem) file ((standsFor_listing _).1 hentry)
  | some file =>
    rw [result_locate_eq_some_iff hlist] at hfound
    obtain ⟨entry, hmem, hentry⟩ := hfound.exists_mem
    cases hother : (locate folder key).result (answers.listing folder entries') with
    | none =>
      rw [result_locate_eq_none_iff hlist'] at hother
      exact absurd ((standsFor_listing _).2 hentry) (hother entry (hperm.mem_iff.1 hmem) file)
    | some other =>
      rw [result_locate_eq_some_iff hlist', isNewest_listing] at hother
      obtain ⟨entry', hmem', hentry'⟩ := hother.exists_mem
      have hle := hfound.le (hperm.mem_iff.2 hmem') hentry'
      have hge := hother.le (hperm.mem_iff.1 hmem) hentry
      rw [hdistinct entry' (hperm.mem_iff.2 hmem') entry hmem other file hentry' hentry
        (Int.le_antisymm hle hge)]

/-- **Entries that stand for no result file or for an older one than another entry do not
matter**: without them the same file is found. -/
theorem result_locate_filter (hlist : answers (.list folder) = Except.ok entries)
    {keep : Except AccessError FileName → Bool}
    (hkeep : KeepsNewer answers folder key entries keep) :
    (locate folder key).result (answers.listing folder (entries.filter keep)) =
      (locate folder key).result answers := by
  have hlist' := answers.listing_list folder (entries.filter keep)
  cases hfound : (locate folder key).result answers with
  | none =>
    rw [result_locate_eq_none_iff hlist] at hfound
    rw [result_locate_eq_none_iff hlist']
    intro entry hmem file hentry
    exact hfound entry ((List.mem_filter.1 hmem).1) file ((standsFor_listing _).1 hentry)
  | some file =>
    rw [result_locate_eq_some_iff hlist] at hfound
    rw [result_locate_eq_some_iff hlist', isNewest_listing]
    have hle : ∀ kept ∈ entries, ∀ g, StandsFor answers folder key kept g →
        g.modified.sinceEpoch ≤ file.modified.sinceEpoch := fun kept hmem g => hfound.le hmem
    obtain ⟨before, entry, after, rfl, hentry, hbefore, hafter⟩ := hfound
    -- the entry of the newest file is kept, because no other one is newer
    have hkept : keep entry = true := by
      cases hdropped : keep entry with
      | true => rfl
      | false =>
        obtain ⟨kept, hmem, -, g, hg, hlt⟩ := hkeep entry (by simp) hdropped file hentry
        have hge := hle kept hmem g hg
        omega
    refine ⟨before.filter keep, entry, after.filter keep, ?_, hentry, ?_, ?_⟩
    · rw [List.filter_append, List.filter_cons_of_pos hkept]
    · exact fun e he => hbefore e ((List.mem_filter.1 he).1)
    · exact fun e he => hafter e ((List.mem_filter.1 he).1)

/-- **The newest result file of a folder is found**, whatever its listing and the times are.

A world finds what its answers give, and for any answers: nothing is found in a folder that cannot
be listed; in one that can, nothing exactly when no entry stands for a result file, and a file
exactly when it is the first of the newest ones.  When no two result files have one time, another
order of the listing leads to the same file; and so does a listing without some of the entries that
stand for no result file or for one that is older than that of an entry that stays. -/
theorem locate_newest (folder : Path) (key : String) :
    (∀ w : World, ((locate folder key).run w).1 = (locate folder key).result w.answers) ∧
    ∀ answers : Answers,
      (∀ e, answers (.list folder) = Except.error e →
        (locate folder key).result answers = none) ∧
      ∀ entries, answers (.list folder) = Except.ok entries →
        ((locate folder key).result answers = none ↔
          ∀ entry ∈ entries, ∀ file, ¬ StandsFor answers folder key entry file) ∧
        (∀ file, (locate folder key).result answers = some file ↔
          IsNewest answers folder key entries file) ∧
        (∀ entries', entries.Perm entries' → DistinctTimes answers folder key entries →
          (locate folder key).result (answers.listing folder entries') =
            (locate folder key).result answers) ∧
        ∀ keep : Except AccessError FileName → Bool,
          KeepsNewer answers folder key entries keep →
          (locate folder key).result (answers.listing folder (entries.filter keep)) =
            (locate folder key).result answers := by
  refine ⟨Job.fst_run (keepsAnswers_locate folder key),
    fun answers => ⟨fun e hlist => ?_, fun entries hlist => ?_⟩⟩
  · rw [result_locate, hlist]
  · exact ⟨result_locate_eq_none_iff hlist, fun file => result_locate_eq_some_iff hlist,
      fun entries' hperm => result_locate_of_perm hlist hperm,
      fun keep => result_locate_filter hlist⟩

/-- A folder with a name that is no text, a result file from before 1970, a link to a file
elsewhere, a result file of the same time as that file, a link to nothing, a folder with the name of
a result file, and a later result file of another key. -/
def mixedStore : Store where
  entries := [
    ([.text "r"], .folder),
    ([.text "kept"], .file ⟨#[]⟩ ⟨10, 500, by decide⟩),
    ([.raw [255], .text "r"], .file ⟨#[]⟩ ⟨99, 0, secondNanos_pos⟩),
    ([.text "server_a.json", .text "r"], .file ⟨#[]⟩ ⟨-5, 750000000, by decide⟩),
    ([.text "server_b.json", .text "r"], .link ⟨"../kept"⟩),
    ([.text "server_c.json", .text "r"], .file ⟨#[]⟩ ⟨10, 500, by decide⟩),
    ([.text "server_d.json", .text "r"], .link ⟨"missing"⟩),
    ([.text "server_e.json", .text "r"], .folder),
    ([.text "cache_f.json", .text "r"], .file ⟨#[]⟩ ⟨99, 0, secondNanos_pos⟩)]
  distinct := by decide

/-- The names in that folder, behind an entry that cannot be read. -/
def mixedListing : List (Except AccessError FileName) :=
  .error .notText :: (mixedStore.names [.text "r"]).map .ok

/-- The answers from that store, with some listing of the folder. -/
def mixedAnswers (listing : List (Except AccessError FileName)) : Answers :=
  (World.quiet mixedStore ⟨0, 0, secondNanos_pos⟩).answers.listing ⟨"r"⟩ listing

/-- The file behind the link, with the time of what it leads to. -/
def fileB : ResultFile := ⟨⟨"r/server_b.json"⟩, ⟨10, 500, by decide⟩⟩

/-- The entries of the last two result files. -/
def isLate (entry : Except AccessError FileName) : Bool :=
  entry.toOption == some (.text "server_b.json") || entry.toOption == some (.text "server_c.json")

/-- **The file that a link leads to is found**, as it stands in front of one of the same time; so it
is without the older one, and when the first half of the listing is turned around. -/
theorem locate_newest_mixedStore :
    (locate ⟨"r"⟩ "server").result (mixedAnswers mixedListing) = some fileB ∧
    (locate ⟨"r"⟩ "server").result ((mixedAnswers mixedListing).listing ⟨"r"⟩
      (mixedListing.filter isLate)) =
        (locate ⟨"r"⟩ "server").result (mixedAnswers mixedListing) ∧
    (locate ⟨"r"⟩ "server").result ((mixedAnswers (mixedListing.take 4)).listing ⟨"r"⟩
      (mixedListing.take 4).reverse) =
        (locate ⟨"r"⟩ "server").result (mixedAnswers (mixedListing.take 4)) := by
  have hwhole := ((locate_newest ⟨"r"⟩ "server").2 (mixedAnswers mixedListing)).2 mixedListing rfl
  have hhalf := ((locate_newest ⟨"r"⟩ "server").2 (mixedAnswers (mixedListing.take 4))).2
    (mixedListing.take 4) rfl
  refine ⟨(hwhole.2.1 fileB).2 ?_, hwhole.2.2.2 isLate ?_,
    hhalf.2.2.1 _ (List.reverse_perm _).symm ?_⟩
  · have hnewest : newest? (filesOf (mixedAnswers mixedListing) ⟨"r"⟩ "server" mixedListing) =
        some fileB := by decide +kernel
    exact isFirstNewest_filesOf_iff.1 (newest?_eq_some_iff.1 hnewest)
  · intro entry hmem hdropped f hf
    have holder : ∀ e ∈ mixedListing, isLate e = false →
        ∀ g ∈ (ofListed? ⟨"r"⟩ "server" e).result (mixedAnswers mixedListing),
          g.modified.sinceEpoch < fileB.modified.sinceEpoch := by decide +kernel
    have hkept : (ofListed? ⟨"r"⟩ "server" (.ok (.text "server_b.json"))).result
        (mixedAnswers mixedListing) = some fileB := by decide +kernel
    have hmem' : Except.ok (.text "server_b.json") ∈ mixedListing :=
      List.mem_cons_of_mem _ (List.mem_map_of_mem (by decide))
    exact ⟨.ok (.text "server_b.json"), hmem', by decide, fileB,
      result_ofListed?_eq_some_iff.1 hkept,
      holder entry hmem hdropped f (result_ofListed?_eq_some_iff.2 hf)⟩
  · have hdistinct : ∀ f ∈ filesOf (mixedAnswers (mixedListing.take 4)) ⟨"r"⟩ "server"
        (mixedListing.take 4), ∀ g ∈ filesOf (mixedAnswers (mixedListing.take 4)) ⟨"r"⟩ "server"
        (mixedListing.take 4), f.modified.sinceEpoch = g.modified.sinceEpoch → f = g := by
      decide +kernel
    intro a ha b hb f g hf hg
    exact hdistinct f (mem_filesOf_iff.2 ⟨a, ha, hf⟩) g (mem_filesOf_iff.2 ⟨b, hb, hg⟩)

end ResultFile

end BenchReport
