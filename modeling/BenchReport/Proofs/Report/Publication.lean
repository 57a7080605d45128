import BenchReport.Proofs.Report.Isolation
import BenchReport.Proofs.Results.Given
import BenchReport.Proofs.Results.Growth
import BenchReport.Proofs.Text.Digits

/-!
# Reports are no results

Reports may be written into the folder with the result files, or into folders inside it.  Their
names begin with another letter than those of result files, and besides them nothing but
folders comes up.  So whatever is written, and whether all of it could be written or not,
the next report is made of the same results.

One thing can go wrong, and only when there is a folder for reports: making it may turn the path
of the results, which led nowhere, into one that leads up again and to a folder that was there
all the time.

## Main definitions

* `Report.OwnFile` — a location whose last name is that of a report.
* `Report.UnlinkedOutput` — no link has such a name in the folder for reports.
* `Report.OutputInside` — the folder for reports is that with the results, or inside it.

## Main results

* `Report.hasPattern_fileName` — the name of a report is none of a result file.
* `Report.keeps_publish` — what making folders and writing reports keeps, publishing keeps.
* `Report.grows_publish` — publishing grows a store by folders and reports.
* `Report.collect_publish` — **the results stay when a report is published.**
* `Report.collect_publish_differs` — a path that leads up from a missing folder is an exception.
-/

namespace BenchReport

/-! ### Names of reports -/

theorem Text.slash_notMem_zeroPadded (width n : Nat) : '/' ∉ zeroPadded width n :=
  fun h => absurd (isDigit_of_mem_zeroPadded h) (by decide)

theorem CivilDate.slash_notMem_yearText (year : Int) : '/' ∉ yearText year := by
  have hdigits := Text.slash_notMem_zeroPadded 4 year.natAbs
  rw [yearText, List.mem_append, not_or]
  refine ⟨?_, hdigits⟩
  split
  · decide
  · split <;> decide

theorem Instant.slash_notMem_fileStem (t : Instant) : '/' ∉ t.fileStem.toList := by
  have hyear := CivilDate.slash_notMem_yearText t.date.year
  have hpair : ∀ n, '/' ∉ pair n := Text.slash_notMem_zeroPadded 2
  have hbar : '/' ≠ '_' := by decide
  simp [fileStem, hyear, hpair, hbar]

namespace Report

variable {r : Report} {settings : Settings}

/-- The name of a report begins as no name of a result file does. -/
theorem head?_fileName (t : Instant) (format : Format) :
    (fileName t format).toList.head? = some 'r' := by
  simp only [fileName, String.toList_append, List.append_assoc]
  rfl

theorem slash_notMem_fileName (t : Instant) (format : Format) :
    '/' ∉ (fileName t format).toList := by
  have hstem := t.slash_notMem_fileStem
  have hextension : '/' ∉ format.extension.toList := by
    cases format <;> decide
  have hfront : '/' ∉ "report_".toList := by decide
  have hdot : '/' ∉ ".".toList := by decide
  simp only [fileName, String.toList_append, List.mem_append, not_or]
  exact ⟨⟨⟨hfront, hstem⟩, hdot⟩, hextension⟩

theorem stepOf?_fileName (t : Instant) (format : Format) :
    Path.stepOf? (fileName t format).toList = some (.into (fileName t format)) := by
  have hhead := head?_fileName t format
  apply Path.stepOf?_eq_into <;> intro h <;> rw [h] at hhead <;> revert hhead <;> decide

/-- **The name of a report is none of a result file**, whatever the year and the format. -/
theorem hasPattern_fileName (t : Instant) (format : Format) (suite : Suite) :
    ResultFile.hasPattern suite.key.toList (fileName t format).toList = false := by
  rw [Bool.eq_false_iff]
  intro h
  have hhead := ResultFile.head?_of_hasPattern h
  rw [head?_fileName] at hhead
  revert hhead
  cases suite <;> decide

end Report

/-! ### What publishing keeps -/

section Keeps

variable {inv : Store → Prop}

theorem Path.keeps_isFolder (p : Path) : p.isFolder.Keeps inv := by
  refine (Job.keeps_status p).bind fun status => ?_
  split <;> exact Job.keeps_pure _

variable (hmake : ∀ (s t : Store) (p : Path), inv s → s.makeFolder p = .ok t → inv t)

include hmake

theorem Path.keeps_ensureFolder (p : Path) : p.ensureFolder.Keeps inv := by
  refine (Job.keeps_makeFolder (hmake · · p)).bind fun result => ?_
  cases result with
  | ok => exact Job.keeps_pure _
  | error e =>
    refine (keeps_isFolder p).bind fun there => ?_
    cases there <;> exact Job.keeps_pure _

theorem Path.keeps_makeFoldersFrom (around : List Path) :
    ∀ p : Path, (p.makeFoldersFrom around).Keeps inv := by
  induction around with
  | nil => exact keeps_ensureFolder hmake
  | cons parent around ih =>
    intro p
    refine (Job.keeps_makeFolder (hmake · · p)).bind fun result => ?_
    split
    · exact Job.keeps_pure _
    · -- the folder around is missing, and made before the folder is tried again
      split
      · exact keeps_ensureFolder hmake p
      · refine (ih parent).bind fun made => ?_
        cases made with
        | ok => exact keeps_ensureFolder hmake p
        | error e => exact Job.keeps_pure _
    · refine (keeps_isFolder p).bind fun there => ?_
      cases there <;> exact Job.keeps_pure _

theorem Path.keeps_makeFolders (p : Path) : p.makeFolders.Keeps inv := by
  rw [makeFolders]
  split
  · exact Job.keeps_pure _
  · exact keeps_makeFoldersFrom hmake p.ancestors p

end Keeps

namespace Report

variable {r : Report} {settings : Settings}

section Keeps

variable {inv : Store → Prop}

/-- Folders are made only when the settings name a folder for reports. -/
theorem keeps_prepareOutput (hmake : settings.outputFolder ≠ none →
      ∀ (s t : Store) (p : Path), inv s → s.makeFolder p = .ok t → inv t) :
    (prepareOutput settings).Keeps inv := by
  rw [prepareOutput]
  cases hfolder : settings.outputFolder with
  | none => exact Job.keeps_pure _
  | some folder =>
    exact (Path.keeps_makeFolders (hmake (by simp [hfolder])) folder).bind fun _ =>
      Job.keeps_pure _

variable (hwrite : ∀ (s t : Store) (now : Instant) (format : Format) (content : ByteArray), inv s →
    s.write (r.documentPath settings format) content now = .ok t → inv t)

include hwrite

theorem keeps_writeAll (formats : List Format) : (r.writeAll settings formats).Keeps inv := by
  induction formats with
  | nil => exact Job.keeps_pure _
  | cons format rest ih =>
    refine (Job.keeps_note _).bind fun _ => ?_
    have hone : (r.writeTo format (r.documentPath settings format)).Keeps inv :=
      (Job.keeps_write (hwrite · · · format _)).bind fun _ => Job.keeps_pure _
    refine hone.bind fun result => ?_
    cases result with
    | error problem => exact Job.keeps_pure _
    | ok =>
      refine (Job.keeps_note _).bind fun _ => ih.bind fun written => ?_
      cases written <;> exact Job.keeps_pure _

/-- **What making folders and writing reports keeps, publishing keeps.**  Folders are made only
when the settings name a folder for reports. -/
theorem keeps_publish (hmake : settings.outputFolder ≠ none →
      ∀ (s t : Store) (p : Path), inv s → s.makeFolder p = .ok t → inv t) :
    (r.publish settings).Keeps inv := by
  refine (keeps_prepareOutput hmake).bind fun result => ?_
  cases result with
  | error problem => exact Job.keeps_pure _
  | ok => exact keeps_writeAll hwrite settings.formats

end Keeps

/-! ### Publishing grows a store -/

/-- The location has the name of a report that was made at the time. -/
def OwnFile (generatedAt : Instant) (location : Location) : Prop :=
  ∃ format, location.head? = some (.text (fileName generatedAt format))

theorem not_ownFile {suite : Suite} {text : String} {t : Instant} (location : Location)
    (h : ResultFile.hasPattern suite.key.toList text.toList = true) :
    ¬ OwnFile t (.text text :: location) := by
  rintro ⟨format, hname⟩
  obtain rfl := FileName.text.inj (Option.some.inj hname)
  rw [hasPattern_fileName] at h
  cases h

variable {s t u : Store}

/-- No link has the name of a report in the folder for reports. -/
def UnlinkedOutput (s : Store) (settings : Settings) (generatedAt : Instant) : Prop :=
  ∀ location format target, s.Means settings.output location →
    s.node? (.text (fileName generatedAt format) :: location) ≠ some (.link target)

/-- Where a report is written when no link has its name. -/
theorem exists_put_of_write_document (hlinks : UnlinkedOutput s settings r.generatedAt)
    (grown : s.Grows (OwnFile r.generatedAt) t) {format : Format} {content : ByteArray}
    {now : Instant} (hwrite : t.write (r.documentPath settings format) content now = .ok u) :
    ∃ name location, OwnFile r.generatedAt (name :: location) ∧
      u = t.put (name :: location) (.file content now) ∧
      (t.node? (name :: location) = none ∨
        ∃ old before, t.node? (name :: location) = some (.file old before)) := by
  obtain ⟨location, -, hput, hnode⟩ := Store.exists_put_of_write
    (slash_notMem_fileName r.generatedAt format) (stepOf?_fileName r.generatedAt format)
    (fun location target hfolder =>
      grown.node?_ne_link (hlinks location format · (grown.means hfolder)) target) hwrite
  exact ⟨_, location, ⟨format, rfl⟩, hput, hnode⟩

theorem grows_write (hlinks : UnlinkedOutput s settings r.generatedAt)
    (grown : s.Grows (OwnFile r.generatedAt) t) {format : Format} {content : ByteArray}
    {now : Instant} (hwrite : t.write (r.documentPath settings format) content now = .ok u) :
    s.Grows (OwnFile r.generatedAt) u := by
  obtain ⟨name, location, hown, rfl, hnode⟩ := exists_put_of_write_document hlinks grown hwrite
  apply grown.trans
  apply Store.grows_put
  rcases hnode with hnode | ⟨old, before, hnode⟩
  · rw [hnode]
    exact .written content now hown
  · rw [hnode]
    exact .rewritten old content before now hown

/-- **Publishing grows a store by folders and reports**, whether all can be written or not. -/
theorem grows_publish {w : World} (hlinks : UnlinkedOutput w.files settings r.generatedAt) :
    w.files.Grows (OwnFile r.generatedAt) ((r.publish settings).run w).2.files :=
  keeps_publish (fun _ _ _ _ _ grown => grows_write hlinks grown)
    (fun _ _ _ _ grown hmake => grown.trans (Store.grows_makeFolder hmake)) w (.refl w.files)

/-- Without a folder for reports no folder comes up. -/
theorem keepsWays_publish {w : World} (hlinks : UnlinkedOutput w.files settings r.generatedAt)
    (hfolder : settings.outputFolder = none) :
    ((r.publish settings).run w).2.files.KeepsWays w.files := by
  have hkeeps : (r.publish settings).Keeps fun t =>
      w.files.Grows (OwnFile r.generatedAt) t ∧ t.KeepsWays w.files := by
    refine keeps_publish (fun t u now format content ⟨grown, hways⟩ hwrite => ?_)
      fun hsome => absurd hfolder hsome
    refine ⟨grows_write hlinks grown hwrite, ?_⟩
    obtain ⟨name, location, -, rfl, -⟩ := exists_put_of_write_document hlinks grown hwrite
    -- what is put is a file
    constructor
    · intro here hnode
      rw [Store.node?_put] at hnode
      split at hnode
      · cases hnode
      · exact hways.folder here hnode
    · intro here target hnode
      rw [Store.node?_put] at hnode
      split at hnode
      · cases hnode
      · exact hways.link here target hnode
  exact (hkeeps w ⟨.refl w.files, .refl w.files⟩).2

/-! ### The results stay -/

/-- A folder for reports is where the results are, or in a folder there. -/
def OutputInside (s : Store) (settings : Settings) : Prop :=
  ∀ p, settings.outputFolder = some p → ∀ inner, s.Means p inner →
    ∃ location, s.Means settings.resultsFolder location ∧ location <:+ inner

theorem unlinkedOutput_of_inside (hlinks : s.LinkFree settings.resultsFolder)
    (hinside : OutputInside s settings) (generatedAt : Instant) :
    UnlinkedOutput s settings generatedAt := by
  intro inner format target hmeans
  have hlocation : ∃ location, s.Means settings.resultsFolder location ∧ location <:+ inner := by
    cases hfolder : settings.outputFolder with
    | none =>
      rw [Settings.output, hfolder, Option.getD_none] at hmeans
      exact ⟨inner, hmeans, List.suffix_refl _⟩
    | some p =>
      rw [Settings.output, hfolder, Option.getD_some] at hmeans
      exact hinside p hfolder inner hmeans
  obtain ⟨location, hresults, hsuffix⟩ := hlocation
  exact hlinks location _ target hresults (hsuffix.trans (List.suffix_cons _ _))

/-- A folder in the folder with the results is inside. -/
theorem outputInside_of_join (hlinks : s.LinkFree settings.resultsFolder) (name : String)
    (hname : '/' ∉ name.toList) (hstep : Path.stepOf? name.toList = some (.into name))
    (hfolder : settings.outputFolder = some (settings.resultsFolder.join ⟨name⟩)) :
    OutputInside s settings := by
  intro p hp inner hmeans
  obtain rfl := Option.some.inj (hfolder.symm.trans hp)
  obtain ⟨location, hresults, rfl⟩ := hmeans.exists_of_join hname hstep
    fun location target h => hlinks location _ target h (List.suffix_cons _ _)
  exact ⟨location, hresults, List.suffix_cons _ _⟩

/-- **The results stay when a report is published**, whether it is written in all formats, in
some or in none, and no name of a report is that of a result file.  There are no links where
the results are, and the reports go there or into a folder inside.  When the settings name a
folder for reports, the path of the results leads to the folder that it means if that is there;
making folders could turn it into such a path otherwise. -/
theorem collect_publish (r : Report) (settings : Settings) (w : World)
    (hnames : w.files.WellNamed) (hrooted : w.files.Rooted)
    (hlinks : w.files.LinkFree settings.resultsFolder) (hinside : OutputInside w.files settings)
    (hreached : settings.outputFolder ≠ none → w.files.Reached settings.resultsFolder) :
    ((Inputs.collect settings).run ((r.publish settings).run w).2).1 =
        ((Inputs.collect settings).run w).1 ∧
      ∀ t format (suite : Suite),
        ResultFile.hasPattern suite.key.toList (fileName t format).toList = false := by
  refine ⟨Inputs.eq_of_results fun suite => ?_, hasPattern_fileName⟩
  rw [Inputs.results_collect, Inputs.results_collect]
  have hunlinked := unlinkedOutput_of_inside hlinks hinside r.generatedAt
  have grown := grows_publish hunlinked
  have hnames' := (r.publish settings).wellNamed_run w hnames
  by_cases hfolder : ∃ location,
      w.files.resolve .look settings.resultsFolder = .ok (.folder location)
  · obtain ⟨location, hfolder⟩ := hfolder
    exact SuiteResults.inStore_of_grows grown hnames hnames' hlinks.linkless hfolder suite
      fun _ => not_ownFile location
  · refine SuiteResults.inStore_of_missing grown hnames' hrooted
      (fun location h => hfolder ⟨location, h⟩) (fun location hcame hwas => ?_) suite
      fun l _ => not_ownFile l
    -- the path leads to an old folder now, so it led there before
    obtain ⟨hcheck, hfollow⟩ := Store.resolve_eq_folder_iff.1 hcame
    by_cases hnone : settings.outputFolder = none
    · exact hfolder ⟨location, (keepsWays_publish hunlinked hnone).resolve_folder hcame⟩
    · have hthere := hreached hnone location (grown.means hfollow) hwas
      exact hfolder ⟨location, Store.resolve_eq_folder_iff.2 ⟨hcheck, hthere⟩⟩

/-- Settings for reports in a folder that is missing yet, inside the folder with the results. -/
def innerReports : Settings := (Settings.new ⟨"results"⟩).setOutputFolder ⟨"results/reports"⟩

/-- The report of nothing. -/
def blank : Report := assemble .empty ⟨0, 0, secondNanos_pos⟩ innerReports

theorem twoFiles_rooted : twoFiles.Rooted := by
  intro name folder h
  rw [Ne, Store.node?_eq_none_iff, Decidable.not_not, twoFiles_entries] at h
  simp only [List.map_cons, List.map_nil, List.mem_cons, List.not_mem_nil, List.cons.injEq,
    or_false] at h
  rcases h with ⟨-, rfl⟩ | ⟨-, rfl⟩ | ⟨-, rfl⟩ <;> rfl

theorem twoFiles_linkFree : twoFiles.LinkFree innerReports.resultsFolder :=
  fun _ inner target _ _ => twoFiles_ne_link inner target

theorem twoFiles_follow : twoFiles.follow .look innerReports.resultsFolder.steps =
    .ok (.folder [.text "results"]) := by
  rfl

/-- The two result files are found again when a report has been written inside their folder. -/
theorem collect_publish_twoFiles :
    ((Inputs.collect innerReports).run ((blank.publish innerReports).run
        (.quiet twoFiles ⟨3, 0, secondNanos_pos⟩)).2).1 =
      ((Inputs.collect innerReports).run (.quiet twoFiles ⟨3, 0, secondNanos_pos⟩)).1 :=
  (collect_publish blank innerReports (.quiet twoFiles ⟨3, 0, secondNanos_pos⟩) twoFiles_wellNamed
    twoFiles_rooted twoFiles_linkFree
    (outputInside_of_join twoFiles_linkFree "reports" (by decide) (by decide) (by decide))
    fun _ => Store.reached_of_follow twoFiles_follow).1

/-! ### A path that leads up from a missing folder -/

/-- A folder with a result file of the server, an empty list. -/
def oneFile : Store :=
  (Store.empty.put [.text "b"] .folder).put [.text "server_1.json", .text "b"]
    (.file "[]".toUTF8 ⟨1, 0, secondNanos_pos⟩)

/-- Settings with results and reports in one folder, whose path leads through another one that
is missing. -/
def detour : Settings := (Settings.new ⟨"a/../b"⟩).setOutputFolder ⟨"a/../b"⟩

/-- Without any links, and with reports in the folder of the results, a result file is found
after publishing that was not found before. -/
theorem collect_publish_differs :
    (∀ e ∈ oneFile.entries, ∀ target, e.2 ≠ .link target) ∧
      detour.outputFolder = some detour.resultsFolder ∧
      (((Inputs.collect detour).run (.quiet oneFile ⟨3, 0, secondNanos_pos⟩)).1.results
        .server).file = none ∧
      (((Inputs.collect detour).run ((blank.publish detour).run
        (.quiet oneFile ⟨3, 0, secondNanos_pos⟩)).2).1.results .server).file =
          some ⟨⟨"a/../b/server_1.json"⟩, ⟨1, 0, secondNanos_pos⟩⟩ := by
  refine ⟨?_, rfl, ?_, ?_⟩
  · have hentries : oneFile.entries = [([.text "b"], .folder),
        ([.text "server_1.json", .text "b"], .file "[]".toUTF8 ⟨1, 0, secondNanos_pos⟩)] := rfl
    simp [hentries]
  · rw [Inputs.results_collect]
    decide +kernel
  · rw [Inputs.results_collect]
    decide +kernel

end Report

end BenchReport
