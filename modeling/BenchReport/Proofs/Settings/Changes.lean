import BenchReport.Proofs.Settings.Usable

/-!
# Settings that are changed one after the other

Settings begin with a folder of results and are changed any number of times, in any order and in
any environment.  What they are in the end can be said without following them: a folder, a limit
and remarks are those that were set last, and the formats are the browser document and those that
were asked for since formats were last set.

## Main definitions

* `Settings.Change`, `Settings.changed` — changes, and the settings after some of them.
* `Settings.requested` — the formats that were asked for since formats were last set.
* `Settings.lastSet` — what was set last.

## Main results

* `Settings.change_described` — a change to such settings is described by one more change.
* `Settings.changed_eq` — **settings are what their changes say**, field by field.
-/

namespace BenchReport.Settings

/-- A change to settings. -/
inductive Change where
  /-- Reports go to a folder of their own. -/
  | outputFolder (folder : Path)
  /-- One more format is asked for. -/
  | format (format : Format)
  /-- The formats are set. -/
  | formats (formats : List Format)
  /-- The size limit is set. -/
  | maxFileSize (bytes : Nat)
  /-- The remarks on the environment are set. -/
  | badges (badges : List String)
  /-- The environment is asked for a size limit; its variable has a value or none. -/
  | environment (sizeValue : Option String)

/-- The settings after a change. -/
def change (s : Settings) : Change → Settings
  | .outputFolder folder => s.setOutputFolder folder
  | .format format => s.addFormat format
  | .formats formats => s.setFormats formats
  | .maxFileSize bytes => s.setMaxFileSize bytes
  | .badges badges => s.setBadges badges
  | .environment sizeValue => s.withSizeOverride sizeValue

/-- Settings that name a folder of results, after changes. -/
def changed (folder : Path) (changes : List Change) : Settings :=
  changes.foldl change (new folder)

/-! ### What changes say -/

namespace Change

/-- The change sets the formats. -/
def setsFormats : Change → Bool
  | formats _ => true
  | _ => false

/-- The formats that the change asks for. -/
def asksFor : Change → List Format
  | format one => [one]
  | formats all => all
  | _ => []

/-- The folder for reports that the change sets. -/
def outputFolder? : Change → Option Path
  | outputFolder folder => some folder
  | _ => none

/-- The size limit that the change sets. -/
def sizeLimit? : Change → Option Nat
  | maxFileSize bytes => some bytes
  | environment sizeValue => sizeOverride? sizeValue
  | _ => none

/-- The remarks that the change sets. -/
def badges? : Change → Option (List String)
  | badges all => some all
  | _ => none

end Change

/-- The changes from the last one on that sets the formats; all of them when none does. -/
def sinceFormatsSet : List Change → List Change
  | [] => []
  | change :: rest =>
      if rest.any Change.setsFormats then sinceFormatsSet rest else change :: rest

/-- The formats that were asked for since formats were last set, in order. -/
def requested (changes : List Change) : List Format :=
  (sinceFormatsSet changes).flatMap Change.asksFor

/-- What was set last, of the things that a change may set. -/
def lastSet {α : Type} (part? : Change → Option α) (changes : List Change) : Option α :=
  (changes.filterMap part?).getLast?

variable {c : Change}

theorem sinceFormatsSet_concat_of_sets (h : c.setsFormats) (changes : List Change) :
    sinceFormatsSet (changes ++ [c]) = [c] := by
  induction changes with
  | nil => rfl
  | cons first rest ih =>
    rw [List.cons_append, sinceFormatsSet, if_pos (by simp [h]), ih]

theorem sinceFormatsSet_concat (h : c.setsFormats = false) (changes : List Change) :
    sinceFormatsSet (changes ++ [c]) = sinceFormatsSet changes ++ [c] := by
  induction changes with
  | nil => rfl
  | cons first rest ih =>
    -- whether formats are set later on does not depend on the last change
    have hany : (rest ++ [c]).any Change.setsFormats = rest.any Change.setsFormats := by
      simp [h]
    rw [List.cons_append, sinceFormatsSet, sinceFormatsSet, hany, ih]
    split <;> rfl

theorem requested_concat_formats (changes : List Change) (formats : List Format) :
    requested (changes ++ [.formats formats]) = formats := by
  rw [requested, sinceFormatsSet_concat_of_sets rfl, List.flatMap_singleton, Change.asksFor]

theorem requested_concat (h : c.setsFormats = false) (changes : List Change) :
    requested (changes ++ [c]) = requested changes ++ c.asksFor := by
  rw [requested, sinceFormatsSet_concat h, List.flatMap_append, List.flatMap_singleton, requested]

theorem lastSet_concat {α : Type} (part? : Change → Option α) (changes : List Change)
    (c : Change) : lastSet part? (changes ++ [c]) = (part? c).or (lastSet part? changes) := by
  rw [lastSet, List.filterMap_append, List.getLast?_append, lastSet]
  cases h : part? c <;> simp [h]

/-! ### What settings are -/

/-- The formats that stand when these were asked for, in order, and the browser document. -/
def formatsFor (asked : List Format) : List Format :=
  .html :: (asked.filter (· ≠ .html)).eraseDups

theorem nodup_formatsFor (asked : List Format) : (formatsFor asked).Nodup := by
  have h := nodup_setFormats (new ⟨""⟩) asked
  rwa [setFormats_eq] at h

theorem mem_formatsFor {asked : List Format} {format : Format} :
    format ∈ formatsFor asked ↔ format = .html ∨ format ∈ asked := by
  rw [formatsFor, List.mem_cons, List.mem_eraseDups, List.mem_filter, decide_eq_true_eq]
  by_cases h : format = .html <;> simp [h]

/-- The settings that changes say. -/
def described (folder : Path) (changes : List Change) : Settings :=
  { new folder with
    outputFolder := lastSet Change.outputFolder? changes
    formats := formatsFor (requested changes)
    maxFileSize := (lastSet Change.sizeLimit? changes).getD defaultMaxFileSize
    badges := (lastSet Change.badges? changes).getD defaultBadges }

theorem described_concat (folder : Path) (changes : List Change) (c : Change) :
    described folder (changes ++ [c]) =
      { described folder changes with
        outputFolder := c.outputFolder?.or (described folder changes).outputFolder
        formats := formatsFor (requested (changes ++ [c]))
        maxFileSize := c.sizeLimit?.getD (described folder changes).maxFileSize
        badges := c.badges?.getD (described folder changes).badges } := by
  simp only [described, lastSet_concat, Option.getD_or]

theorem addFormat_formatsFor {s : Settings} {asked : List Format}
    (h : s.formats = formatsFor asked) (format : Format) :
    s.addFormat format = { s with formats := formatsFor (asked ++ [format]) } := by
  have hasked : s = s.setFormats asked := by rw [setFormats_eq, ← formatsFor, ← h]
  calc s.addFormat format
      = (asked ++ [format]).foldl addFormat { s with formats := [.html] } := by
        rw [List.foldl_append, List.foldl_cons, List.foldl_nil, ← setFormats, ← hasked]
    _ = { s with formats := formatsFor (asked ++ [format]) } := setFormats_eq s _

/-- **A change to such settings is described by one more change.** -/
theorem change_described (folder : Path) (changes : List Change) (c : Change) :
    (described folder changes).change c = described folder (changes ++ [c]) := by
  have hkept : c.setsFormats = false → c.asksFor = [] →
      requested (changes ++ [c]) = requested changes := fun hsets hnone => by
    rw [requested_concat hsets, hnone, List.append_nil]
  rw [described_concat]
  cases c with
  | format format =>
    rw [requested_concat rfl]
    exact addFormat_formatsFor rfl format
  | formats formats =>
    rw [requested_concat_formats]
    exact setFormats_eq _ formats
  | outputFolder _ | maxFileSize _ | badges _ =>
    rw [hkept rfl rfl]
    rfl
  | environment sizeValue =>
    rw [hkept rfl rfl]
    exact withSizeOverride_eq _ sizeValue

theorem foldl_change (folder : Path) (later : List Change) : ∀ changes : List Change,
    later.foldl change (described folder changes) = described folder (changes ++ later) := by
  induction later with
  | nil => exact fun changes => by rw [List.foldl_nil, List.append_nil]
  | cons c later ih =>
    intro changes
    rw [List.foldl_cons, change_described, ih, List.append_assoc, List.singleton_append]

/-- **Settings are what their changes say.** -/
theorem changed_eq (folder : Path) (changes : List Change) :
    changed folder changes = described folder changes :=
  foldl_change folder changes []

example : (changed ⟨"results"⟩ [.format .json, .formats [.markdown, .json, .markdown],
    .format .html]).formats = [.html, .markdown, .json] := rfl

end BenchReport.Settings
