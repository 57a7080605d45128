import BenchReport.Proofs.Report.Writing
import BenchReport.Proofs.Settings.Changes
import Mathlib.Data.List.Nodup

/-!
# No path is written twice

Publishing asks for the documents to be written in the order of the formats, one path for each, and
stops asking at the first failure.  Settings keep the browser document in front and hold no format
twice, however they were changed.  So the browser document is written first, and no path is
written twice.

## Main definitions

* `Job.writes` — the paths that a job asks to be written.
* `writtenPaths` — those among the exchanges of a run.

## Main results

* `Report.writes_publish` — which paths publishing asks to be written.
* `Report.changed_written_once` — **settings that were changed keep the browser document in
  front, and no path is written twice.**
-/

namespace BenchReport

/-! ### What a job asks to be written -/

/-- The path that a request asks to be written. -/
def Request.writtenPath? : Request → Option Path
  | .write path _ => some path
  | _ => none

namespace Job

variable {α : Type}

/-- The paths that a job asks to be written when a world answers it, in order. -/
def writes : Job α → World → List Path
  | .done _, _ => []
  | .ask request next, w =>
      request.writtenPath?.toList ++ (next (w.answer request).1).writes (w.answer request).2

end Job

/-- The paths that were asked to be written, in order. -/
def writtenPaths (exchanges : List Exchange) : List Path :=
  exchanges.filterMap fun x => x.1.writtenPath?

theorem Job.writes_eq {α : Type} (job : Job α) (w : World) :
    job.writes w = writtenPaths (job.exchangesWith w) := by
  induction job generalizing w with
  | done value => rfl
  | ask request next ih =>
    rw [writes, ih, exchangesWith, writtenPaths, writtenPaths, List.filterMap_cons]
    cases request.writtenPath? <;> rfl

theorem writtenPaths_append (before after : List Exchange) :
    writtenPaths (before ++ after) = writtenPaths before ++ writtenPaths after :=
  List.filterMap_append

/-- Making folders writes nothing. -/
theorem Path.MakesFolders.writtenPaths_eq {paths : List Path} {exchanges : List Exchange}
    {result : Except AccessError Unit} (h : MakesFolders paths exchanges result) :
    writtenPaths exchanges = [] := by
  refine List.filterMap_eq_nil_iff.2 fun x hx => ?_
  obtain ⟨q, -, hrequest | hrequest⟩ := h.asks x hx <;> rw [hrequest] <;> rfl

namespace Report

variable {r : Report} {settings : Settings} {exchanges : List Exchange}

/-- Making the folder for reports writes nothing. -/
theorem writtenPaths_of_prepareOutput {made : Except Problem Unit}
    (h : (prepareOutput settings).Ends exchanges made) : writtenPaths exchanges = [] := by
  rw [ends_prepareOutput_iff] at h
  split at h
  · obtain ⟨rfl, -⟩ := h
    rfl
  · obtain ⟨answer, hmade, -⟩ := h
    exact (Path.makesFolders_makeFolders hmade).writtenPaths_eq

theorem writtenPaths_written (formats : List Format) :
    writtenPaths (formats.flatMap (r.written settings)) =
      formats.map (r.documentPath settings) := by
  induction formats with
  | nil => rfl
  | cons format rest ih =>
    rw [List.flatMap_cons, writtenPaths_append, ih]
    rfl

/-- Documents are written one after the other: up to the first that fails, and all of them when none
does. -/
theorem Delivers.writtenPaths_in_order {formats : List Format}
    {result : Except Problem WrittenFiles} (h : r.Delivers settings formats exchanges result) :
    writtenPaths exchanges <+: formats.map (r.documentPath settings) ∧
      ∀ files, result = .ok files →
        writtenPaths exchanges = formats.map (r.documentPath settings) := by
  cases h with
  | all =>
    rw [writtenPaths_written]
    exact ⟨List.prefix_rfl, fun _ _ => rfl⟩
  | refused before format rest e hformats =>
    refine ⟨?_, fun _ h => nomatch h⟩
    rw [writtenPaths_append, writtenPaths_written, hformats, List.map_append]
    exact (List.prefix_append_right_inj _).2 ⟨rest.map (r.documentPath settings), rfl⟩

theorem Concludes.writtenPaths_in_order {result : Except Problem WrittenFiles}
    (h : r.Concludes settings exchanges result) :
    writtenPaths exchanges <+: settings.formats.map (r.documentPath settings) ∧
      ∀ files, result = .ok files →
        writtenPaths exchanges = settings.formats.map (r.documentPath settings) := by
  cases h with
  | unprepared folder e hfolder hmade =>
    rw [(Path.makesFolders_makeFolders hmade).writtenPaths_eq]
    exact ⟨List.nil_prefix, fun _ h => nomatch h⟩
  | prepared hmade hwrites =>
    rw [writtenPaths_append, writtenPaths_of_prepareOutput hmade, List.nil_append]
    exact hwrites.writtenPaths_in_order

/-- **Publishing writes the documents in the order of the formats**: all of them when it succeeds,
and else those up to the first that fails. -/
theorem writes_publish (r : Report) (settings : Settings) (w : World) :
    (r.publish settings).writes w <+: settings.formats.map (r.documentPath settings) ∧
      ∀ files, ((r.publish settings).run w).1 = .ok files →
        (r.publish settings).writes w = settings.formats.map (r.documentPath settings) := by
  rw [Job.writes_eq]
  exact (ends_publish_iff.1 ((r.publish settings).ends_exchangesWith w)).writtenPaths_in_order

/-- Documents in different formats have different paths. -/
theorem documentPath_injective (r : Report) (settings : Settings) :
    Function.Injective (r.documentPath settings) := by
  intro f g h
  have hsteps := congrArg Path.fullSteps h
  rw [documentPath, documentPath, Path.fullSteps_join (slash_notMem_fileName _ _)
    (stepOf?_fileName _ _), Path.fullSteps_join (slash_notMem_fileName _ _)
    (stepOf?_fileName _ _)] at hsteps
  have hname := List.append_cancel_left hsteps
  simp only [List.cons.injEq, Path.Step.into.injEq, and_true] at hname
  exact fileName_injective _ hname

/-- **Settings that were changed keep the browser document in front, and no path is written twice.**

However settings were changed, and in whatever environment: their formats are the browser document
and the others that were asked for since formats were last set, once each and in the order in which
they were first asked for.  Results are looked for in the folder that was named at the beginning,
and reports go to the folder that was set last, or else there.  The settings can be used when the
size limit is not zero.  Publishing any report with them writes the documents in that order, and
the paths are different. -/
theorem changed_written_once (folder : Path) (changes : List Settings.Change) :
    let s := Settings.changed folder changes
    let asked := Settings.requested changes
    s.formats = .html :: (asked.filter (· ≠ .html)).eraseDups ∧ s.formats.Nodup ∧
    (∀ format, s.hasFormat format = true ↔ format = .html ∨ format ∈ asked) ∧
    s.resultsFolder = folder ∧
    s.output = (Settings.lastSet Settings.Change.outputFolder? changes).getD folder ∧
    (s.validate = .ok () ↔ s.maxFileSize ≠ 0) ∧
    ∀ (r : Report) (w : World),
      ((r.publish s).writes w).Nodup ∧
      (∀ first ∈ ((r.publish s).writes w).head?, first = r.documentPath s .html) ∧
      ∀ files, ((r.publish s).run w).1 = .ok files →
        (r.publish s).writes w = s.formats.map (r.documentPath s) := by
  intro s asked
  have hs : s = Settings.described folder changes := Settings.changed_eq folder changes
  have hformats : s.formats = Settings.formatsFor asked := congrArg Settings.formats hs
  have hnodup : s.formats.Nodup := hformats ▸ Settings.nodup_formatsFor asked
  have hhtml : .html ∈ s.formats := hformats ▸ List.mem_cons_self
  refine ⟨hformats, hnodup, fun format => ?_, congrArg Settings.resultsFolder hs, ?_, ?_,
    fun r w => ?_⟩
  · rw [Settings.hasFormat, decide_eq_true_eq, hformats, Settings.mem_formatsFor]
  · rw [hs]
    rfl
  · rw [Settings.validate_eq_ok_iff, Nat.pos_iff_ne_zero, and_iff_right hhtml]
  · obtain ⟨hbegins, hall⟩ := writes_publish r s w
    have hpaths : (s.formats.map (r.documentPath s)).Nodup :=
      List.Nodup.map (documentPath_injective r s) hnodup
    refine ⟨hbegins.sublist.nodup hpaths, ?_, hall⟩
    -- what is written first is the first of all documents
    intro first hfirst
    obtain ⟨later, hlater⟩ := List.head?_eq_some_iff.1 hfirst
    rw [hlater, hformats, Settings.formatsFor, List.map_cons] at hbegins
    exact (List.cons_prefix_cons.1 hbegins).1

end Report

end BenchReport
