import BenchReport.Proofs.Report.Exchanges
import BenchReport.Proofs.Report.Publication
import BenchReport.Proofs.Settings.Usable

/-!
# Documents are written in order

The folder for reports is made first, when the settings name one, and then the documents are
written in the order of the formats.  The first of these operations that fails ends the run,
with a problem that names its path.  What was written before is complete then, and what would
have been written after it is not touched.

In a world these operations fail for the shape of a path only, and the file of a write that fails
stays as it was.  For failures of any other kind `Report.ends_publish_iff` says which operations are
asked for, and in what order; what a failed write leaves on a disk is not said.

## Main definitions

* `Report.Writes`, `Report.WritesInOrder` — how writing documents in some formats ends, and what
  it leaves behind.
* `Report.Publishes` — how publishing ends.
* `Report.Published` — what publishing leaves behind.
* `Report.HoldsDocument` — a location with a document that has been written.

## Main results

* `Report.fileName_injective` — documents in different formats have different names.
* `Report.writesInOrder_writeAll` — **documents are written in order, up to the first that fails.**
* `Report.exists_access_of_publish` — which paths the problems of publishing name.
* `Report.published_in_order` — **publishing ends at its first failure, and leaves every other file
  as it was.**
-/

namespace BenchReport

/-- The clock of a world stands. -/
theorem Job.now_run {α : Type} (job : Job α) : ∀ w : World, (job.run w).2.now = w.now := by
  have hchange : ∀ (w : World) (result : Except AccessError Store),
      (w.change result).2.now = w.now := fun w result => by
    cases result <;> rfl
  induction job with
  | done value => exact fun _ => rfl
  | ask request next ih =>
    intro w
    rw [run, ih]
    cases request with
    | write path content => exact hchange _ _
    | makeFolder path => exact hchange _ _
    | _ => rfl

namespace Report

variable {r : Report} {settings : Settings} {w : World}

/-! ### Documents in different formats -/

/-- **Documents in different formats have different names.** -/
theorem fileName_injective (t : Instant) : Function.Injective (fileName t) := by
  intro f g h
  simp only [fileName] at h
  have hextension : f.extension = g.extension := String.append_right_inj _ |>.1 h
  revert hextension
  cases f <;> cases g <;> decide

/-- The location holds the document in one of the formats, and the path of the document leads
there. -/
def HoldsDocument (r : Report) (settings : Settings) (now : Instant) (formats : List Format)
    (s : Store) (location : Location) : Prop :=
  ∃ format ∈ formats, s.resolve .look (r.documentPath settings format) =
    .ok (.file location (r.document format).toUTF8 now)

/-- The name at a location with a document. -/
theorem HoldsDocument.exists_name {now : Instant} {formats : List Format} {s : Store}
    {location : Location} (h : r.HoldsDocument settings now formats s location)
    (hlinks : s.Unlinked) :
    ∃ format ∈ formats, ∃ folder, location = .text (fileName r.generatedAt format) :: folder := by
  obtain ⟨format, hformat, hresolve⟩ := h
  exact ⟨format, hformat, Store.exists_name_of_resolve (slash_notMem_fileName _ _)
    (stepOf?_fileName _ _) hlinks hresolve⟩

theorem HoldsDocument.mono {now : Instant} {formats formats' : List Format} {s : Store}
    {location : Location} (h : r.HoldsDocument settings now formats s location)
    (hformats : formats ⊆ formats') : r.HoldsDocument settings now formats' s location := by
  obtain ⟨format, hformat, hresolve⟩ := h
  exact ⟨format, hformats hformat, hresolve⟩

/-! ### One document after the other -/

/-- How writing documents in some formats ends in a store, with the formats that were written
and with the result: all documents are written, or the write after those that were fails. -/
inductive Writes (r : Report) (settings : Settings) (now : Instant) (formats : List Format)
    (s : Store) : List Format → Except Problem WrittenFiles → Prop where
  | all : Writes r settings now formats s formats
      (.ok (formats.map fun format => (format, r.documentPath settings format)))
  | failed (written : List Format) (format : Format) (rest : List Format) (e : AccessError) :
      formats = written ++ format :: rest →
      s.write (r.documentPath settings format) (r.document format).toUTF8 now = .error e →
      Writes r settings now formats s written
        (.error (.access (r.documentPath settings format) e))

theorem Writes.subset {now : Instant} {formats written : List Format} {s : Store}
    {result : Except Problem WrittenFiles}
    (h : r.Writes settings now formats s written result) : written ⊆ formats := by
  cases h with
  | all => exact List.Subset.refl _
  | failed before other others e hformats => exact hformats ▸ List.subset_append_left _ _

/-- A document that is written in front of the others. -/
theorem Writes.cons {now : Instant} {formats written : List Format} {s : Store}
    {result : Except Problem WrittenFiles}
    (h : r.Writes settings now formats s written result) (format : Format) :
    r.Writes settings now (format :: formats) s (format :: written)
      (result.map ((format, r.documentPath settings format) :: ·)) := by
  cases h with
  | all => exact .all
  | failed before other others e hformats hwrite =>
    exact .failed _ other others e (congrArg (format :: ·) hformats) hwrite

variable {format : Format} {rest : List Format} {e : AccessError} {t : Store}

theorem run_writeTo (format : Format) (path : Path) (w : World) :
    (r.writeTo format path).run w =
      let answer := w.change (w.files.write path (r.document format).toUTF8 w.now)
      (Problem.ofAccess path answer.1, answer.2) := rfl

theorem run_writeAll_of_error
    (h : w.files.write (r.documentPath settings format) (r.document format).toUTF8 w.now =
      .error e) :
    (r.writeAll settings (format :: rest)).run w =
      (.error (.access (r.documentPath settings format) e),
        { w with events := w.events ++ [.writing (r.documentPath settings format) format] }) := by
  have hone : (r.writeTo format (r.documentPath settings format)).run
      { w with events := w.events ++ [.writing (r.documentPath settings format) format] } =
      (.error (.access (r.documentPath settings format) e),
        { w with events := w.events ++ [.writing (r.documentPath settings format) format] }) := by
    simp only [run_writeTo, h]
    rfl
  rw [writeAll, Job.run_bind]
  show Job.run (_ >>= _) { w with events := _ } = _
  rw [Job.run_bind, hone]
  rfl

/-- The world after a document has been written. -/
def afterWrite (r : Report) (settings : Settings) (format : Format) (w : World) (t : Store) :
    World :=
  { w with
    files := t
    events := w.events ++ [.writing (r.documentPath settings format) format] ++
      [.written (r.documentPath settings format)] }

theorem run_writeAll_of_ok
    (h : w.files.write (r.documentPath settings format) (r.document format).toUTF8 w.now =
      .ok t) :
    (r.writeAll settings (format :: rest)).run w =
      ((((r.writeAll settings rest).run (r.afterWrite settings format w t)).1).map
          ((format, r.documentPath settings format) :: ·),
        ((r.writeAll settings rest).run (r.afterWrite settings format w t)).2) := by
  have hone : (r.writeTo format (r.documentPath settings format)).run
      { w with events := w.events ++ [.writing (r.documentPath settings format) format] } =
      (.ok (), { w with
        files := t
        events := w.events ++ [.writing (r.documentPath settings format) format] }) := by
    simp only [run_writeTo, h]
    rfl
  rw [writeAll, Job.run_bind]
  show Job.run (_ >>= _) { w with events := _ } = _
  rw [Job.run_bind, hone]
  show Job.run ((r.writeAll settings rest) >>= _) (r.afterWrite settings format w t) = _
  rw [Job.run_bind]
  cases ((r.writeAll settings rest).run (r.afterWrite settings format w t)).1 <;> rfl

/-- Documents were written in order, from one store to another: those that were written are found
by their paths, and besides them no file has changed. -/
structure WritesInOrder (r : Report) (settings : Settings) (now : Instant)
    (formats written : List Format) (s t : Store) (result : Except Problem WrittenFiles) :
    Prop where
  ends : r.Writes settings now formats t written result
  found : ∀ format ∈ written, ∃ location, t.resolve .look (r.documentPath settings format) =
    .ok (.file location (r.document format).toUTF8 now)
  grows : s.Grows (r.HoldsDocument settings now written t) t

/-- What was written before stays when documents in other formats are written. -/
theorem WritesInOrder.cons {now : Instant} {formats written : List Format} {s t u : Store}
    {result : Except Problem WrittenFiles} (hlinks : s.Unlinked) (hformat : format ∉ formats)
    (hwrite : s.write (r.documentPath settings format) (r.document format).toUTF8 now = .ok t)
    (h : r.WritesInOrder settings now formats written t u result) :
    r.WritesInOrder settings now (format :: formats) (format :: written) s u
      (result.map ((format, r.documentPath settings format) :: ·)) := by
  obtain ⟨location, hfolder, rfl, hold⟩ := Store.exists_put_of_write
    (slash_notMem_fileName r.generatedAt format) (stepOf?_fileName r.generatedAt format)
    (fun _ target _ => hlinks _ target) hwrite
  have hput : s.Grows (· = .text (fileName r.generatedAt format) :: location)
      (s.put (.text (fileName r.generatedAt format) :: location)
        (.file (r.document format).toUTF8 now)) := by
    apply Store.grows_put
    rcases hold with hnode | ⟨old, before, hnode⟩ <;> rw [hnode]
    · exact .written _ _ rfl
    · exact .rewritten _ _ _ _ rfl
  have grown : s.Grows (fun _ => True) u :=
    (hput.mono fun _ _ => trivial).trans (h.grows.mono fun _ _ => trivial)
  -- the other documents have other names, so the file stays where it was put
  have hother : ¬ r.HoldsDocument settings now written u
      (.text (fileName r.generatedAt format) :: location) := by
    intro hholds
    obtain ⟨other, hmem, folder, hname⟩ :=
      hholds.exists_name (grown.unlinked hlinks)
    obtain rfl := fileName_injective _ (FileName.text.inj (List.cons.inj hname).1)
    exact hformat (h.ends.subset hmem)
  have hnode : u.node? (.text (fileName r.generatedAt format) :: location) =
      some (.file (r.document format).toUTF8 now) := by
    have hnow := s.node?_put_self (.text (fileName r.generatedAt format)) location
      (.file (r.document format).toUTF8 now)
    rw [(h.grows.node _).eq_of_not_own hother (by rw [hnow]; exact Option.some_ne_none _), hnow]
  have hfound := Store.resolve_of_write (slash_notMem_fileName _ _) (stepOf?_fileName _ _) hlinks
    hwrite grown.keepsWays hfolder hnode
  refine ⟨h.ends.cons format, ?_, ?_⟩
  · rintro other hmem
    rcases List.mem_cons.1 hmem with rfl | hmem
    · exact ⟨_, hfound⟩
    · exact h.found other hmem
  · refine Store.Grows.trans (hput.mono ?_)
      (h.grows.mono fun _ hholds => hholds.mono (List.subset_cons_self _ _))
    rintro _ rfl
    exact ⟨format, List.mem_cons_self, hfound⟩

/-- **Documents are written in order, up to the first that fails.** -/
theorem writesInOrder_writeAll (formats : List Format) (hformats : formats.Nodup) :
    ∀ w : World, w.files.Unlinked → ∃ written,
      r.WritesInOrder settings w.now formats written w.files
        ((r.writeAll settings formats).run w).2.files ((r.writeAll settings formats).run w).1 := by
  induction formats with
  | nil => exact fun w _ => ⟨[], .all, by simp, .refl _⟩
  | cons format rest ih =>
    intro w hlinks
    obtain ⟨hformat, hrest⟩ := List.nodup_cons.1 hformats
    cases hwrite : w.files.write (r.documentPath settings format)
        (r.document format).toUTF8 w.now with
    | error e =>
      rw [run_writeAll_of_error hwrite]
      exact ⟨[], .failed [] format rest e rfl hwrite, by simp, .refl _⟩
    | ok t =>
      rw [run_writeAll_of_ok hwrite]
      have grown : w.files.Grows (OwnFile r.generatedAt) t :=
        grows_write (fun _ _ target _ => hlinks _ target) (.refl _) hwrite
      obtain ⟨written, h⟩ := ih hrest (r.afterWrite settings format w t) (grown.unlinked hlinks)
      exact ⟨format :: written, h.cons hlinks hformat hwrite⟩

/-! ### The folder for reports, and the documents -/

/-- How publishing ends in a world, with the formats that were written and with the result: the
folder for reports cannot be made, or it is there and the documents are written in order. -/
inductive Publishes (r : Report) (settings : Settings) (w w' : World) :
    List Format → Except Problem WrittenFiles → Prop where
  | unprepared (folder : Path) (e : AccessError) : settings.outputFolder = some folder →
      folder.makeFolders.run w = (.error e, w') →
      Publishes r settings w w' [] (.error (.access folder e))
  | prepared {written : List Format} {result : Except Problem WrittenFiles} :
      ((prepareOutput settings).run w).1 = .ok () →
      r.Writes settings w.now settings.formats w'.files written result →
      Publishes r settings w w' written result

/-- What publishing leaves behind: it ends in order, the documents in the formats that were
written are complete, no file with the name of another document is touched, and every file that
has changed is one of the written documents. -/
structure Published (r : Report) (settings : Settings) (w w' : World) (written : List Format)
    (result : Except Problem WrittenFiles) : Prop where
  ends : r.Publishes settings w w' written result
  complete : ∀ format ∈ written,
    w'.files.read (r.documentPath settings format) = .ok (r.document format).toUTF8
  untouched : ∀ format ∉ written, ∀ folder,
    w'.files.file? (.text (fileName r.generatedAt format) :: folder) =
      w.files.file? (.text (fileName r.generatedAt format) :: folder)
  changed : ∀ location, w'.files.file? location ≠ w.files.file? location →
    r.HoldsDocument settings w.now written w'.files location

/-- Making the folder for reports fails with its path, or it succeeds. -/
theorem prepareOutput_cases (settings : Settings) (w : World) :
    ((prepareOutput settings).run w).1 = .ok () ∨
      ∃ folder e, settings.outputFolder = some folder ∧
        folder.makeFolders.run w = (.error e, ((prepareOutput settings).run w).2) ∧
        ((prepareOutput settings).run w).1 = .error (.access folder e) := by
  cases hfolder : settings.outputFolder with
  | none =>
    refine .inl ?_
    rw [prepareOutput, hfolder]
    rfl
  | some folder =>
    have hrun : (prepareOutput settings).run w =
        (Problem.ofAccess folder (folder.makeFolders.run w).1, (folder.makeFolders.run w).2) := by
      rw [prepareOutput, hfolder]
      exact Job.run_bind ..
    rw [hrun]
    cases hmade : (folder.makeFolders.run w).1 with
    | ok => exact .inl rfl
    | error e => exact .inr ⟨folder, e, rfl, Prod.ext hmade rfl, rfl⟩

/-- Making the folder for reports changes no file. -/
theorem grows_prepareOutput (settings : Settings) (w : World) :
    w.files.Grows (fun _ => False) ((prepareOutput settings).run w).2.files :=
  have hkeeps : (prepareOutput settings).Keeps (w.files.Grows fun _ => False) :=
    keeps_prepareOutput fun _ _ _ _ grown hmake => grown.trans (Store.grows_makeFolder hmake)
  hkeeps w (.refl _)

/-- A store that has grown by documents only is what publishing leaves behind. -/
theorem Published.of_grows {w' : World} {written : List Format}
    {result : Except Problem WrittenFiles} (hlinks : w.files.Unlinked)
    (ends : r.Publishes settings w w' written result)
    (found : ∀ format ∈ written, ∃ location,
      w'.files.resolve .look (r.documentPath settings format) =
        .ok (.file location (r.document format).toUTF8 w.now))
    (grown : w.files.Grows (r.HoldsDocument settings w.now written w'.files) w'.files) :
    r.Published settings w w' written result where
  ends := ends
  complete format hformat := by
    obtain ⟨location, hresolve⟩ := found format hformat
    rw [Store.read, hresolve]
    rfl
  untouched format hformat folder := by
    refine grown.file?_eq fun hholds => ?_
    obtain ⟨other, hother, _, hname⟩ := hholds.exists_name (grown.unlinked hlinks)
    obtain rfl := fileName_injective _ (FileName.text.inj (List.cons.inj hname).1)
    exact hformat hother
  changed location hchanged := Classical.byContradiction fun hown =>
    hchanged (grown.file?_eq hown)

/-- When publishing fails, the problem names the folder for reports or the path of a document. -/
theorem exists_access_of_publish {problem : Problem}
    (h : ((r.publish settings).run w).1 = .error problem) :
    ∃ path e, problem = .access path e ∧ (settings.outputFolder = some path ∨
      ∃ format ∈ settings.formats, path = r.documentPath settings format) := by
  have hends := (r.publish settings).ends_exchangesWith w
  rw [h] at hends
  exact (ends_publish_iff.1 hends).exists_access

theorem exists_published (hlinks : w.files.Unlinked) (hformats : settings.formats.Nodup) :
    ∃ written, r.Published settings w ((r.publish settings).run w).2 written
      ((r.publish settings).run w).1 := by
  have grown := grows_prepareOutput settings w
  rw [publish, Job.run_bind]
  rcases prepareOutput_cases settings w with hprepared | ⟨folder, e, hfolder, hmade, hfailed⟩
  · rw [hprepared]
    let prepared := ((prepareOutput settings).run w).2
    have hwrites : ∃ written, r.WritesInOrder settings prepared.now settings.formats written
        prepared.files ((r.writeAll settings settings.formats).run prepared).2.files
        ((r.writeAll settings settings.formats).run prepared).1 :=
      writesInOrder_writeAll settings.formats hformats prepared (grown.unlinked hlinks)
    obtain ⟨written, hends, hfound, hgrows⟩ := hwrites
    rw [Job.now_run] at hends hfound hgrows
    exact ⟨written, .of_grows hlinks (.prepared hprepared hends) hfound
      ((grown.mono fun _ h => h.elim).trans hgrows)⟩
  · rw [hfailed]
    exact ⟨[], .of_grows hlinks (.unprepared folder e hfolder hmade) (by simp)
      (grown.mono fun _ h => h.elim)⟩

/-- **Publishing ends at its first failure, and leaves every other file as it was.**  The store has
no links, and no format is asked for twice.  A folder or a document fails for where its path leads,
and the file of a document that fails is untouched like the others.  Without a folder for reports
in the settings no folder comes up.  Settings that cannot be used end the making of a report before
anything is done. -/
theorem published_in_order (r : Report) (settings : Settings) (w : World)
    (hlinks : w.files.Unlinked) (hformats : settings.formats.Nodup) :
    (∃ written, r.Published settings w ((r.publish settings).run w).2 written
      ((r.publish settings).run w).1) ∧
    (settings.outputFolder = none → ∀ location,
      ((r.publish settings).run w).2.files.node? location = some .folder →
        w.files.node? location = some .folder) ∧
    ∀ (invalid : Settings) (problem : Problem) (u : World), invalid.validate = .error problem →
      (∃ parameter reason, problem = .invalidSetting parameter reason) ∧
        (generate invalid).run u = (.error problem, u) := by
  refine ⟨exists_published hlinks hformats, fun hnone => ?_, fun invalid problem u hinvalid => ?_⟩
  · have hunlinked : UnlinkedOutput w.files settings r.generatedAt :=
      fun _ _ target _ => hlinks _ target
    exact (keepsWays_publish hunlinked hnone).folder
  · refine ⟨Settings.exists_invalidSetting hinvalid, ?_⟩
    rw [generate, hinvalid]
    rfl

/-- A folder in which the name of the report as data is taken by a folder. -/
def takenName : Store :=
  twoFiles.put [.text "report_19700101_000000.json", .text "results"] .folder

/-- Settings for reports in all formats. -/
def allFormats : Settings := (Settings.new ⟨"results"⟩).setFormats [.json, .markdown]

theorem takenName_unlinked : takenName.Unlinked := by
  have grown : twoFiles.Grows (fun _ => False) takenName := by
    apply Store.grows_put
    exact .folder
  exact grown.unlinked twoFiles_ne_link

/-- The data cannot be written where a folder has its name. -/
theorem published_takenName :
    takenName.Unlinked ∧ allFormats.formats.Nodup ∧
      ∃ written, blank.Published allFormats (.quiet takenName ⟨3, 0, secondNanos_pos⟩)
        ((blank.publish allFormats).run (.quiet takenName ⟨3, 0, secondNanos_pos⟩)).2 written
        ((blank.publish allFormats).run (.quiet takenName ⟨3, 0, secondNanos_pos⟩)).1 :=
  ⟨takenName_unlinked, by decide, (published_in_order blank allFormats
    (.quiet takenName ⟨3, 0, secondNanos_pos⟩) takenName_unlinked (by decide)).1⟩

end Report

end BenchReport
