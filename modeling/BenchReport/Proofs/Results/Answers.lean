import BenchReport.Job

/-!
# Results as a function of the answers

A job that only looks can be followed for any answers, whether or not there is a store that gives
them: a listing may have entries that cannot be read, and a status may be any.  The answers stay the
same while the job runs.

## Main definitions

* `Answers`, `Answers.listing` — an answer to every request, and another listing of one folder.
* `Job.result` — what a job ends with for given answers.
* `World.answers` — what a world answers now.
* `Job.KeepsAnswers` — nothing that the job asks for changes what a world answers.

## Main results

* `Job.result_bind`, `Job.result_findAll` — jobs that are put together.
* `Job.fst_run` — **a job that keeps the answers ends with what they give.**
-/

namespace BenchReport

/-- An answer to every request. -/
abbrev Answers := (request : Request) → request.Answer

/-- The answers with another listing of a folder. -/
def Answers.listing (answers : Answers) (folder : Path)
    (entries : List (Except AccessError FileName)) : Answers
  | .list path => if path = folder then Except.ok entries else answers (.list path)
  | request => answers request

/-- What a world answers now. -/
def World.answers (w : World) : Answers := fun request => (w.answer request).1

/-- No answer depends on what has been reported. -/
theorem World.answers_events (w : World) (events : List Event) :
    ({ w with events := events } : World).answers = w.answers := by
  funext request
  cases request with
  | write path content =>
    simp only [answers, answer]
    cases w.files.write path content w.now <;> rfl
  | makeFolder path =>
    simp only [answers, answer]
    cases w.files.makeFolder path <;> rfl
  | _ => rfl

namespace Answers

variable (answers : Answers) (folder : Path) (entries : List (Except AccessError FileName))

@[simp] theorem listing_list : answers.listing folder entries (.list folder) = .ok entries :=
  if_pos rfl

end Answers

namespace Job

variable {α β : Type}

/-- The value a job ends with when every request has a fixed answer. -/
def result (answers : Answers) : Job α → α
  | .done value => value
  | .ask request next => (next (answers request)).result answers

variable (answers : Answers)

@[simp] theorem result_pure (value : α) : (pure value : Job α).result answers = value := rfl

@[simp] theorem result_bind (job : Job α) (f : α → Job β) :
    (job >>= f).result answers = (f (job.result answers)).result answers := by
  induction job with
  | done value => rfl
  | ask request next ih => exact ih _

@[simp] theorem result_list (folder : Path) :
    (list folder).result answers = answers (.list folder) := rfl

@[simp] theorem result_status (path : Path) :
    (status path).result answers = answers (.status path) := rfl

@[simp] theorem result_read (path : Path) : (read path).result answers = answers (.read path) :=
  rfl

/-- What is found for the members of a list is what is found for each of them. -/
@[simp] theorem result_findAll (f : α → Job (Option β)) (l : List α) :
    (findAll f l).result answers = l.filterMap fun a => (f a).result answers := by
  induction l with
  | nil => rfl
  | cons a l ih =>
    rw [findAll, result_bind, result_bind, ih, result_pure]
    cases h : (f a).result answers <;> simp [h]

/-! ### Answers of a world -/

/-- Nothing that the job asks for changes what a world answers, whatever has been answered. -/
def KeepsAnswers : Job α → Prop
  | .done _ => True
  | .ask request next =>
      (∀ w : World, (w.answer request).2.answers = w.answers) ∧
        ∀ answer, (next answer).KeepsAnswers

theorem keepsAnswers_pure (value : α) : (pure value : Job α).KeepsAnswers := trivial

theorem keepsAnswers_list (folder : Path) : (list folder).KeepsAnswers :=
  ⟨fun _ => rfl, fun _ => trivial⟩

theorem keepsAnswers_status (path : Path) : (status path).KeepsAnswers :=
  ⟨fun _ => rfl, fun _ => trivial⟩

theorem keepsAnswers_read (path : Path) : (read path).KeepsAnswers :=
  ⟨fun _ => rfl, fun _ => trivial⟩

theorem keepsAnswers_note (event : Event) : (note event).KeepsAnswers :=
  ⟨fun w => w.answers_events (w.events ++ [event]), fun _ => trivial⟩

theorem KeepsAnswers.bind {job : Job α} {f : α → Job β} (hjob : job.KeepsAnswers)
    (hf : ∀ a, (f a).KeepsAnswers) : (job >>= f).KeepsAnswers := by
  induction job with
  | done value => exact hf value
  | ask request next ih => exact ⟨hjob.1, fun answer => ih answer (hjob.2 answer)⟩

theorem keepsAnswers_findAll {f : α → Job (Option β)} (hf : ∀ a, (f a).KeepsAnswers)
    (l : List α) : (findAll f l).KeepsAnswers := by
  induction l with
  | nil => exact keepsAnswers_pure []
  | cons a l ih => exact (hf a).bind fun _ => ih.bind fun _ => keepsAnswers_pure _

theorem keepsAnswers_forEach {f : α → Job Unit} (hf : ∀ a, (f a).KeepsAnswers) (l : List α) :
    (forEach f l).KeepsAnswers := by
  induction l with
  | nil => exact keepsAnswers_pure ()
  | cons a l ih => exact (hf a).bind fun _ => ih

/-- **A job that keeps the answers of a world ends with what they give.** -/
theorem fst_run {job : Job α} (h : job.KeepsAnswers) (w : World) :
    (job.run w).1 = job.result w.answers := by
  induction job generalizing w with
  | done value => rfl
  | ask request next ih =>
    have hrest := ih (w.answer request).1 (h.2 _) (w.answer request).2
    rwa [h.1 w] at hrest

end Job

end BenchReport
