import BenchReport.CommandLine.Run
import BenchReport.Proofs.Report.Writing

/-!
# Every command line gives settings that can be used

Whatever a command line asks for and whatever the environment holds, the settings that follow
can be used.  So a run fails only where the folder for reports cannot be made or a document cannot
be written.

## Main results

* `Invocation.settings_eq`, `Invocation.validate_settings`, `Invocation.output_settings` — the
  settings of a command line can be used.
* `Plan.exists_run_job` — a run ends as publishing its report does.
* `Invocation.usable` — **a run fails at the folder for reports or at a document only.**
-/

namespace BenchReport

namespace Invocation

variable (inv : Invocation) (programFolder : Option Path) (sizeValue : Option String)

/-! ### The settings of a command line -/

/-- The settings, field by field where they are not the usual ones. -/
theorem settings_eq :
    inv.settings programFolder sizeValue =
      { Settings.new (inv.resultsFolder.getD (Settings.defaultResultsFolder programFolder)) with
        outputFolder := inv.outputFolder
        formats := .html :: (inv.formats.filter (· ≠ .html)).eraseDups
        maxFileSize := (Settings.sizeOverride? sizeValue).getD Settings.defaultMaxFileSize } := by
  simp only [settings, Settings.setFormats_eq, Settings.withSizeOverride_eq]
  cases inv.outputFolder <;> rfl

/-- **The settings of a command line can be used.** -/
theorem validate_settings : (inv.settings programFolder sizeValue).validate = .ok () := by
  rw [Settings.validate_eq_ok_iff, settings_eq]
  exact ⟨List.mem_cons_self, Settings.sizeOverride?_getD_pos (by decide) sizeValue⟩

theorem nodup_formats_settings : (inv.settings programFolder sizeValue).formats.Nodup := by
  let folder := inv.resultsFolder.getD (Settings.defaultResultsFolder programFolder)
  have hformats : (inv.settings programFolder sizeValue).formats =
      ((Settings.new folder).setFormats inv.formats).formats := by
    rw [settings_eq, Settings.setFormats_eq]
  rw [hformats]
  exact Settings.nodup_setFormats _ _

theorem output_settings :
    (inv.settings programFolder sizeValue).output = inv.outputFolder.getD
      (inv.resultsFolder.getD (Settings.defaultResultsFolder programFolder)) := by
  rw [settings_eq]
  rfl

end Invocation

/-! ### Runs -/

/-- What follows a job does not change its result when it hands on what it is given. -/
theorem Job.fst_run_bind {α : Type} {job : Job α} {next : α → Job α}
    (h : ∀ (value : α) (w : World), ((next value).run w).1 = value) (w : World) :
    ((job >>= next).run w).1 = (job.run w).1 := by
  rw [Job.run_bind]
  exact h _ _

/-- A run with settings that can be used ends as publishing its report does. -/
theorem Plan.exists_run_job {plan : Plan} (h : plan.settings.validate = .ok ()) (w : World) :
    ∃ (r : Report) (u : World), r.generatedAt = w.now ∧
      (plan.job.run w).1 = ((r.publish plan.settings).run u).1 := by
  have hnow : ((Report.build plan.settings).run
      ((Job.note (.resolved plan.settings)).run w).2).1.generatedAt = w.now := by
    rw [Report.run_build]
    rfl
  rw [job, Job.run_bind, h]
  dsimp only
  rw [Job.run_bind]
  split
  case' isTrue => rw [Job.run_bind]
  all_goals
    refine ⟨_, _, hnow, Job.fst_run_bind (fun result u => ?_) _⟩
    -- saying where the documents are hands on the result
    cases result with
    | error problem => rfl
    | ok files =>
      rw [Job.run_bind]
      rfl

/-- **A run fails at the folder for reports or at a document only.**  The settings of every command
line can be used, in every environment: the browser document comes first and the other formats
once each, where they were asked for first, and reports go where the command line says or else to
the results. -/
theorem Invocation.usable (inv : Invocation) (programFolder : Option Path)
    (sizeValue : Option String) :
    (inv.settings programFolder sizeValue).validate = .ok () ∧
    (inv.settings programFolder sizeValue).formats =
      .html :: (inv.formats.filter (· ≠ .html)).eraseDups ∧
    (inv.settings programFolder sizeValue).formats.Nodup ∧
    (inv.settings programFolder sizeValue).output = inv.outputFolder.getD
      (inv.resultsFolder.getD (Settings.defaultResultsFolder programFolder)) ∧
    ∀ (filter : LogFilter) (w : World) (problem : Problem),
      ((Plan.job ⟨inv, inv.settings programFolder sizeValue, filter⟩).run w).1 =
        .error problem →
      ∃ path e, problem = .access path e ∧ (inv.outputFolder = some path ∨
        ∃ format ∈ (inv.settings programFolder sizeValue).formats,
          path = (inv.settings programFolder sizeValue).output.join
            ⟨Report.fileName w.now format⟩) := by
  refine ⟨inv.validate_settings .., ?_, inv.nodup_formats_settings .., inv.output_settings ..,
    fun filter w problem h => ?_⟩
  · rw [settings_eq]
  · let plan : Plan := ⟨inv, inv.settings programFolder sizeValue, filter⟩
    have hvalid : plan.settings.validate = .ok () := inv.validate_settings ..
    obtain ⟨r, u, hnow, hrun⟩ := Plan.exists_run_job hvalid w
    rw [hrun] at h
    obtain ⟨path, e, hproblem, hpath⟩ := Report.exists_access_of_publish h
    refine ⟨path, e, hproblem, hpath.imp (fun hfolder => ?_) fun ⟨format, hformat, hpath⟩ => ?_⟩
    · have houtput : plan.settings.outputFolder = inv.outputFolder := by
        simp only [plan, settings_eq]
      exact houtput.symm.trans hfolder
    · exact ⟨format, hformat, by rw [hpath, Report.documentPath, hnow]⟩

/-- A command line with the name of a folder that is not there. -/
def Invocation.mistyped : Invocation := ⟨some ⟨"typo"⟩, none, [.json, .html, .json], true, 1⟩

/-- The run fails at the first document, and a size limit of zero does not matter. -/
theorem Invocation.usable_mistyped :
    ∃ path e, Problem.access ⟨"typo/report_19700101_000000.html"⟩ (.system .notFound) =
        .access path e ∧ (mistyped.outputFolder = some path ∨
      ∃ format ∈ (mistyped.settings none (some "0")).formats,
        path = (mistyped.settings none (some "0")).output.join
          ⟨Report.fileName ⟨0, 0, secondNanos_pos⟩ format⟩) :=
  (usable mistyped none (some "0")).2.2.2.2 (.choose none 1)
    (.quiet .empty ⟨0, 0, secondNanos_pos⟩) _ (by decide +kernel)

end BenchReport
