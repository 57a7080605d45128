import BenchReport.Publication

/-!
# Publishing, whatever is answered

A world refuses a write, or the making of a folder, only for the shape of the path.  A disk can
also be full, a folder can be closed to writing, and the same request can be answered in another
way when it is made again.  So here a run of a job is given by its exchanges, and any answer may
follow any request.

## Main definitions

* `Exchange` — a request and its answer.
* `Job.Ends` — a job ends with a value after some exchanges.
* `Job.exchangesWith` — the exchanges with a world.
* `Path.MakesFolders` — what comes up while folders are made, and why it fails.
* `Report.Delivers` — how writing documents in some formats goes.
* `Report.Concludes` — how publishing goes.

## Main results

* `Job.ends_exchangesWith` — a world is one way to answer.
* `Path.makesFolders_makeFolders` — **making folders fails with what the making of one of them
  was answered with.**
* `Report.ends_writeAll_iff` — **documents are asked for in order, up to the first that is
  refused.**
* `Report.ends_publish_iff` — **publishing ends with the first refusal, whatever is answered.**
-/

namespace BenchReport

/-- A request and its answer. -/
abbrev Exchange := (request : Request) × request.Answer

namespace Job

variable {α β : Type}

/-- The job ends with a value after some exchanges. -/
def Ends : Job α → List Exchange → α → Prop
  | .done value, exchanges, last => exchanges = [] ∧ last = value
  | .ask request next, exchanges, last =>
      ∃ answer rest, exchanges = ⟨request, answer⟩ :: rest ∧ (next answer).Ends rest last

/-- The exchanges of a job with a world. -/
def exchangesWith : Job α → World → List Exchange
  | .done _, _ => []
  | .ask request next, w =>
      ⟨request, (w.answer request).1⟩ ::
        (next (w.answer request).1).exchangesWith (w.answer request).2

/-- A world is one way to answer. -/
theorem ends_exchangesWith (job : Job α) (w : World) :
    job.Ends (job.exchangesWith w) (job.run w).1 := by
  induction job generalizing w with
  | done value => exact ⟨rfl, rfl⟩
  | ask request next ih => exact ⟨_, _, rfl, ih _ _⟩

variable {exchanges : List Exchange}

/-- One job after the other: the exchanges of the first come first. -/
theorem ends_bind_iff {job : Job α} {f : α → Job β} {last : β} :
    (job >>= f).Ends exchanges last ↔ ∃ before value after,
      exchanges = before ++ after ∧ job.Ends before value ∧ (f value).Ends after last := by
  induction job generalizing exchanges with
  | done value =>
    constructor
    · exact fun h => ⟨[], value, exchanges, rfl, ⟨rfl, rfl⟩, h⟩
    · rintro ⟨_, _, _, rfl, ⟨rfl, rfl⟩, h⟩
      exact h
  | ask request next ih =>
    constructor
    · rintro ⟨answer, rest, rfl, h⟩
      obtain ⟨before, value, after, rfl, hnext, hlast⟩ := (ih answer).1 h
      exact ⟨⟨request, answer⟩ :: before, value, after, rfl, ⟨answer, before, rfl, hnext⟩, hlast⟩
    · rintro ⟨_, value, after, rfl, ⟨answer, before, rfl, hnext⟩, hlast⟩
      exact ⟨answer, before ++ after, rfl, (ih answer).2 ⟨before, value, after, rfl, hnext, hlast⟩⟩

/-- A job whose value is changed at its end. -/
theorem ends_bind_pure_iff {job : Job α} {f : α → β} {last : β} :
    (do return f (← job) : Job β).Ends exchanges last ↔
      ∃ value, job.Ends exchanges value ∧ last = f value := by
  rw [ends_bind_iff]
  constructor
  · rintro ⟨before, value, _, rfl, hjob, rfl, rfl⟩
    exact ⟨value, by rwa [List.append_nil], rfl⟩
  · rintro ⟨value, hjob, rfl⟩
    exact ⟨exchanges, value, [], (List.append_nil _).symm, hjob, rfl, rfl⟩

/-- What follows the making of a folder depends on the answer. -/
theorem ends_makeFolder_bind_iff {p : Path} {f : Except AccessError Unit → Job α} {last : α} :
    (makeFolder p >>= f).Ends exchanges last ↔
      ∃ (answer : Except AccessError Unit) (rest : List Exchange),
        exchanges = ⟨.makeFolder p, answer⟩ :: rest ∧ (f answer).Ends rest last := Iff.rfl

end Job

/-! ### Making folders -/

namespace Path

variable {p : Path} {paths paths' : List Path} {exchanges : List Exchange}
  {result : Except AccessError Unit}

/-- What comes up while folders are made: paths among the given ones are made or looked at, and
a failure is what the making of one of them was answered with. -/
structure MakesFolders (paths : List Path) (exchanges : List Exchange)
    (result : Except AccessError Unit) : Prop where
  asks : ∀ x ∈ exchanges, ∃ q ∈ paths, x.1 = .makeFolder q ∨ x.1 = .status q
  refused : ∀ e, result = .error e →
    ∃ q ∈ paths, (⟨.makeFolder q, .error e⟩ : Exchange) ∈ exchanges

theorem MakesFolders.mono (h : MakesFolders paths exchanges result) (hpaths : paths ⊆ paths') :
    MakesFolders paths' exchanges result where
  asks x hx := by
    obtain ⟨q, hq, hrequest⟩ := h.asks x hx
    exact ⟨q, hpaths hq, hrequest⟩
  refused e he := by
    obtain ⟨q, hq, hmem⟩ := h.refused e he
    exact ⟨q, hpaths hq, hmem⟩

/-- What was asked for before does not matter, as long as it was about these paths. -/
theorem MakesFolders.after {before : List Exchange} {earlier : Except AccessError Unit}
    (h : MakesFolders paths exchanges result) (hbefore : MakesFolders paths before earlier) :
    MakesFolders paths (before ++ exchanges) result where
  asks := List.forall_mem_append.2 ⟨hbefore.asks, h.asks⟩
  refused e he := by
    obtain ⟨q, hq, hmem⟩ := h.refused e he
    exact ⟨q, hq, List.mem_append_right _ hmem⟩

theorem makesFolders_singleton (p : Path) (result : Except AccessError Unit) :
    MakesFolders [p] [⟨.makeFolder p, result⟩] result where
  asks x hx := by
    obtain rfl := List.mem_singleton.1 hx
    exact ⟨p, List.mem_singleton_self p, .inl rfl⟩
  refused e he := ⟨p, List.mem_singleton_self p, by rw [he]; exact List.mem_singleton_self _⟩

theorem exists_of_isFolder {found : Bool} (h : p.isFolder.Ends exchanges found) :
    ∃ answer, exchanges = [⟨.status p, answer⟩] := by
  obtain ⟨answer, rest, rfl, hend⟩ := h
  have hrest : rest = [] := by
    rcases answer with e | ⟨size, modified⟩ | _ <;> exact hend.1
  exact ⟨answer, by rw [hrest]⟩

/-- A refusal is forgiven when there is a folder already. -/
theorem makesFolders_unlessFolder {e : AccessError}
    (h : (do if ← p.isFolder then return .ok () else return .error e : Job _).Ends exchanges
      result) :
    MakesFolders [p] (⟨.makeFolder p, .error e⟩ :: exchanges) result := by
  obtain ⟨before, found, after, rfl, hlook, hend⟩ := Job.ends_bind_iff.1 h
  obtain ⟨answer, rfl⟩ := exists_of_isFolder hlook
  obtain ⟨rfl, hresult⟩ : after = [] ∧ ∀ e', result = .error e' → e' = e := by
    cases found with
    | true =>
      obtain ⟨rfl, rfl⟩ := hend
      exact ⟨rfl, fun _ he => nomatch he⟩
    | false =>
      obtain ⟨rfl, rfl⟩ := hend
      exact ⟨rfl, fun _ he => (Except.error.inj he).symm⟩
  refine ⟨?_, fun e' he => ⟨p, List.mem_singleton_self p, ?_⟩⟩
  · rintro x (_ | ⟨_, _ | ⟨_, ⟨⟩⟩⟩)
    · exact ⟨p, List.mem_singleton_self p, .inl rfl⟩
    · exact ⟨p, List.mem_singleton_self p, .inr rfl⟩
  · rw [hresult e' he]
    exact List.mem_cons_self

theorem makesFolders_ensureFolder (h : p.ensureFolder.Ends exchanges result) :
    MakesFolders [p] exchanges result := by
  obtain ⟨answer, rest, rfl, hend⟩ := h
  cases answer with
  | ok =>
    obtain ⟨rfl, rfl⟩ := hend
    exact makesFolders_singleton p _
  | error e => exact makesFolders_unlessFolder hend

/-- Where a folder around is missing, that one is made first, and then the folder again. -/
theorem makesFolders_makeFoldersFrom (around : List Path) : ∀ {p : Path}
    {exchanges : List Exchange} {result : Except AccessError Unit},
    (p.makeFoldersFrom around).Ends exchanges result →
      MakesFolders (p :: around) exchanges result := by
  induction around with
  | nil => exact makesFolders_ensureFolder
  | cons parent around ih =>
    intro p exchanges result h
    have hp : [p] ⊆ p :: parent :: around := List.cons_subset_cons _ (List.nil_subset _)
    have haround : parent :: around ⊆ p :: parent :: around := List.subset_cons_self _ _
    rw [makeFoldersFrom, Job.ends_makeFolder_bind_iff] at h
    obtain ⟨answer, rest, rfl, hend⟩ := h
    have hfirst := (makesFolders_singleton p answer).mono hp
    -- the folder is made, or one around it is missing, or it is refused for another reason
    split at hend
    · obtain ⟨rfl, rfl⟩ := hend
      exact hfirst
    · split at hend
      · exact ((makesFolders_ensureFolder hend).mono hp).after hfirst
      · obtain ⟨before, made, after, rfl, hparent, hend⟩ := Job.ends_bind_iff.1 hend
        have hbefore := ((ih hparent).mono haround).after hfirst
        cases made with
        | ok => exact ((makesFolders_ensureFolder hend).mono hp).after hbefore
        | error e =>
          obtain ⟨rfl, rfl⟩ := hend
          rwa [List.append_nil]
    · exact (makesFolders_unlessFolder hend).mono hp

/-- **Making folders fails with what the making of one of them was answered with.** -/
theorem makesFolders_makeFolders (h : p.makeFolders.Ends exchanges result) :
    MakesFolders (p :: p.ancestors) exchanges result := by
  rw [makeFolders] at h
  split at h
  · obtain ⟨rfl, rfl⟩ := h
    exact ⟨fun _ hx => absurd hx List.not_mem_nil, fun _ he => nomatch he⟩
  · exact makesFolders_makeFoldersFrom _ h

end Path

namespace Report

variable {r : Report} {settings : Settings} {exchanges : List Exchange}
  {result : Except Problem WrittenFiles}

/-! ### One document after the other -/

/-- The exchanges in which a document is written. -/
def written (r : Report) (settings : Settings) (format : Format) : List Exchange :=
  [⟨.note (.writing (r.documentPath settings format) format), ()⟩,
   ⟨.write (r.documentPath settings format) (r.document format).toUTF8, Except.ok ()⟩,
   ⟨.note (.written (r.documentPath settings format)), ()⟩]

/-- The exchanges in which a document is refused. -/
def refused (r : Report) (settings : Settings) (format : Format) (e : AccessError) :
    List Exchange :=
  [⟨.note (.writing (r.documentPath settings format) format), ()⟩,
   ⟨.write (r.documentPath settings format) (r.document format).toUTF8, Except.error e⟩]

/-- How writing documents in some formats goes: all of them are written, or those before the
first that is refused. -/
inductive Delivers (r : Report) (settings : Settings) (formats : List Format) :
    List Exchange → Except Problem WrittenFiles → Prop where
  | all : Delivers r settings formats (formats.flatMap (r.written settings))
      (.ok (formats.map fun format => (format, r.documentPath settings format)))
  | refused (before : List Format) (format : Format) (rest : List Format) (e : AccessError) :
      formats = before ++ format :: rest →
      Delivers r settings formats
        (before.flatMap (r.written settings) ++ r.refused settings format e)
        (.error (.access (r.documentPath settings format) e))

/-- A document that is written in front of the others. -/
theorem Delivers.cons {formats : List Format} (h : r.Delivers settings formats exchanges result)
    (format : Format) :
    r.Delivers settings (format :: formats) (r.written settings format ++ exchanges)
      (result.map ((format, r.documentPath settings format) :: ·)) := by
  cases h with
  | all => exact .all
  | refused before other rest e hformats =>
    rw [← List.append_assoc]
    exact .refused (format :: before) other rest e (congrArg (format :: ·) hformats)

/-- The first document is refused, or it is written and the others follow. -/
theorem ends_writeAll_cons_iff {format : Format} {rest : List Format} :
    (r.writeAll settings (format :: rest)).Ends exchanges result ↔
      (∃ e, exchanges = r.refused settings format e ∧
        result = .error (.access (r.documentPath settings format) e)) ∨
      ∃ after others, exchanges = r.written settings format ++ after ∧
        (r.writeAll settings rest).Ends after others ∧
        result = others.map ((format, r.documentPath settings format) :: ·) := by
  constructor
  · rintro ⟨⟨⟩, _, rfl, answer, _, rfl, h⟩
    cases answer with
    | error e =>
      obtain ⟨rfl, rfl⟩ := h
      exact .inl ⟨e, rfl, rfl⟩
    | ok =>
      obtain ⟨⟨⟩, _, rfl, h⟩ := h
      -- the files that were written are handed on, and nothing more is asked for
      have hrest : Job.Ends (r.writeAll settings rest >>= _) _ result := h
      obtain ⟨before, others, after, rfl, hothers, hend⟩ := Job.ends_bind_iff.1 hrest
      obtain ⟨rfl, rfl⟩ : after = [] ∧
          result = others.map ((format, r.documentPath settings format) :: ·) := by
        cases others <;> exact hend
      exact .inr ⟨before, others, by rw [List.append_nil]; rfl, hothers, rfl⟩
  · rintro (⟨e, rfl, rfl⟩ | ⟨after, others, rfl, hothers, rfl⟩)
    · exact ⟨(), _, rfl, Except.error e, _, rfl, rfl, rfl⟩
    · refine ⟨(), _, rfl, Except.ok (), _, rfl, (), _, rfl, ?_⟩
      show Job.Ends (r.writeAll settings rest >>= _) after _
      refine Job.ends_bind_iff.2 ⟨after, others, [], (List.append_nil after).symm, hothers, ?_⟩
      cases others <;> exact ⟨rfl, rfl⟩

/-- **Documents are asked for in order, up to the first that is refused.** -/
theorem ends_writeAll_iff {formats : List Format} :
    (r.writeAll settings formats).Ends exchanges result ↔
      r.Delivers settings formats exchanges result := by
  constructor
  · intro h
    induction formats generalizing exchanges result with
    | nil =>
      obtain ⟨rfl, rfl⟩ := h
      exact .all
    | cons format rest ih =>
      rcases ends_writeAll_cons_iff.1 h with ⟨e, rfl, rfl⟩ | ⟨after, others, rfl, hothers, rfl⟩
      · exact .refused [] format rest e rfl
      · exact (ih hothers).cons format
  · intro h
    cases h with
    | all =>
      induction formats with
      | nil => exact ⟨rfl, rfl⟩
      | cons format rest ih => exact ends_writeAll_cons_iff.2 (.inr ⟨_, _, rfl, ih, rfl⟩)
    | refused before format rest e hformats =>
      rw [hformats]
      clear hformats
      induction before with
      | nil => exact ends_writeAll_cons_iff.2 (.inl ⟨e, rfl, rfl⟩)
      | cons other before ih =>
        exact ends_writeAll_cons_iff.2 (.inr ⟨_, _, List.append_assoc .., ih, rfl⟩)

/-! ### The folder for reports, and the documents -/

/-- Making the folder for reports ends as making the folder does. -/
theorem ends_prepareOutput_iff {made : Except Problem Unit} :
    (prepareOutput settings).Ends exchanges made ↔
      match settings.outputFolder with
      | none => exchanges = [] ∧ made = .ok ()
      | some folder => ∃ answer, folder.makeFolders.Ends exchanges answer ∧
          made = Problem.ofAccess folder answer := by
  rw [prepareOutput]
  cases settings.outputFolder with
  | none => exact Iff.rfl
  | some folder => exact Job.ends_bind_pure_iff

/-- The folder for reports is refused when making it fails. -/
theorem ends_prepareOutput_error_iff {problem : Problem} :
    (prepareOutput settings).Ends exchanges (.error problem) ↔
      ∃ folder e, settings.outputFolder = some folder ∧
        folder.makeFolders.Ends exchanges (.error e) ∧ problem = .access folder e := by
  rw [ends_prepareOutput_iff]
  cases settings.outputFolder with
  | none => simp
  | some folder =>
    constructor
    · rintro ⟨answer, hmade, hanswer⟩
      cases answer with
      | ok => cases hanswer
      | error e => exact ⟨folder, e, rfl, hmade, Except.error.inj hanswer⟩
    · rintro ⟨_, e, ⟨⟩, hmade, rfl⟩
      exact ⟨.error e, hmade, rfl⟩

/-- How publishing goes: the folder for reports is refused, or it is there and the documents are
asked for. -/
inductive Concludes (r : Report) (settings : Settings) :
    List Exchange → Except Problem WrittenFiles → Prop where
  | unprepared {exchanges : List Exchange} (folder : Path) (e : AccessError) :
      settings.outputFolder = some folder → folder.makeFolders.Ends exchanges (.error e) →
      Concludes r settings exchanges (.error (.access folder e))
  | prepared {before after : List Exchange} {result : Except Problem WrittenFiles} :
      (prepareOutput settings).Ends before (.ok ()) →
      r.Delivers settings settings.formats after result →
      Concludes r settings (before ++ after) result

/-- **Publishing ends with the first refusal, whatever is answered.** -/
theorem ends_publish_iff :
    (r.publish settings).Ends exchanges result ↔ r.Concludes settings exchanges result := by
  rw [publish, Job.ends_bind_iff]
  constructor
  · rintro ⟨before, made, after, rfl, hmade, hend⟩
    cases made with
    | ok => exact .prepared hmade (ends_writeAll_iff.1 hend)
    | error problem =>
      obtain ⟨rfl, rfl⟩ := hend
      obtain ⟨folder, e, hfolder, hfolders, rfl⟩ := ends_prepareOutput_error_iff.1 hmade
      rw [List.append_nil]
      exact .unprepared folder e hfolder hfolders
  · intro h
    cases h with
    | unprepared folder e hfolder hfolders =>
      have hmade := ends_prepareOutput_error_iff.2 ⟨folder, e, hfolder, hfolders, rfl⟩
      exact ⟨exchanges, _, [], (List.append_nil _).symm, hmade, rfl, rfl⟩
    | prepared hmade hwrites => exact ⟨_, _, _, rfl, hmade, ends_writeAll_iff.2 hwrites⟩

/-- When publishing fails, the problem names the folder for reports or the path of a document. -/
theorem Concludes.exists_access {problem : Problem}
    (h : r.Concludes settings exchanges (.error problem)) :
    ∃ path e, problem = .access path e ∧ (settings.outputFolder = some path ∨
      ∃ format ∈ settings.formats, path = r.documentPath settings format) := by
  cases h with
  | unprepared folder e hfolder => exact ⟨folder, e, rfl, .inl hfolder⟩
  | prepared hmade hwrites =>
    cases hwrites with
    | refused before format rest e hformats =>
      have hformat : format ∈ settings.formats := by
        rw [hformats]
        exact List.mem_append_right _ List.mem_cons_self
      exact ⟨_, e, rfl, .inr ⟨format, hformat, rfl⟩⟩

end Report

end BenchReport
