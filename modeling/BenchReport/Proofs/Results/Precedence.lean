import BenchReport.Proofs.Results.Given
import BenchReport.Report.Assembly

/-!
# Which of the given results count

Of the results given for a suite the last ones count, so results of different suites may be
exchanged freely.  Of the files of all suites the first one in report order tells when the results
were produced, however new the others are and in whatever order they were given.

## Main definitions

* `SuiteResults.Rearranged` — the same results, those of one suite in the same order.
* `Inputs.IsFirstFile` — a file is that of the first suite in report order that has one.

## Main results

* `SuiteResults.last?_eq_some_iff` — the last results of a suite, as a place in the list.
* `Inputs.given_of_rearranged` — results of different suites may be exchanged.
* `Inputs.source_eq_some_iff` — the first file in report order tells the time.
* `Report.lastGiven_and_precedence` — **the last results of a suite count, and the first suite
  that has a file tells the time.**
-/

namespace BenchReport

namespace SuiteResults

/-- The results of one suite among those given, in the order in which they were given. -/
def ofSuite (suite : Suite) (given : List SuiteResults) : List SuiteResults :=
  given.filter fun r => r.suite = suite

/-- The same results were given in another order, but those of one suite in the same order. -/
structure Rearranged (given given' : List SuiteResults) : Prop where
  perm : given'.Perm given
  order : ∀ suite, ofSuite suite given' = ofSuite suite given

variable {suite : Suite} {given given' : List SuiteResults} {r : SuiteResults}

theorem last?_eq_some_iff : last? suite given = some r ↔
    r.suite = suite ∧
      ∃ before after, given = before ++ r :: after ∧ ∀ q ∈ after, q.suite ≠ suite := by
  -- the last is the first from behind
  rw [last?, List.getLast?_filter, List.find?_eq_some_iff_append, decide_eq_true_iff]
  refine and_congr_right fun _ => ⟨?_, ?_⟩
  · rintro ⟨after, before, hgiven, hafter⟩
    refine ⟨before.reverse, after.reverse, ?_, fun q hq => ?_⟩
    · rw [← List.reverse_reverse given, hgiven]
      simp
    · simpa using hafter q (List.mem_reverse.1 hq)
  · rintro ⟨before, after, rfl, hafter⟩
    refine ⟨after.reverse, before.reverse, by simp, fun q hq => ?_⟩
    simpa using hafter q (List.mem_reverse.1 hq)

theorem last?_eq_none_iff : last? suite given = none ↔ ∀ q ∈ given, q.suite ≠ suite := by
  simp [last?]

theorem Rearranged.last?_eq (h : Rearranged given given') (suite : Suite) :
    last? suite given' = last? suite given :=
  congrArg List.getLast? (h.order suite)

end SuiteResults

namespace Inputs

open SuiteResults

/-- **Results of different suites may be exchanged.** -/
theorem given_of_rearranged {results results' : List SuiteResults}
    (h : Rearranged results results') : given results' = given results :=
  eq_of_results fun suite => by rw [results_given, results_given, h.last?_eq]

/-- The file is that of the first suite in report order that has one. -/
def IsFirstFile (inputs : Inputs) (file : ResultFile) : Prop :=
  ∃ earlier suite later, Suite.all = earlier ++ suite :: later ∧
    (inputs.results suite).file = some file ∧ ∀ s ∈ earlier, (inputs.results s).isLocated = false

variable (inputs : Inputs)

/-- **The first file in report order tells when the results were produced.** -/
theorem source_eq_some_iff (t : Instant) :
    inputs.source = some t ↔ ∃ file, inputs.IsFirstFile file ∧ file.modified = t := by
  rw [source, Option.map_eq_some_iff]
  refine exists_congr fun file => and_congr_left fun _ => ?_
  rw [toList, List.findSome?_map, List.findSome?_eq_some_iff]
  simp only [IsFirstFile, Function.comp_apply, SuiteResults.isLocated, Option.isSome_eq_false_iff,
    Option.isNone_iff_eq_none]

theorem source_eq_none_iff :
    inputs.source = none ↔ ∀ suite, (inputs.results suite).isLocated = false := by
  have hall : ∀ suite, suite ∈ Suite.all := by
    intro suite
    cases suite <;> decide
  rw [source, Option.map_eq_none_iff, toList, List.findSome?_map, List.findSome?_eq_none_iff]
  simp [hall, SuiteResults.isLocated]

end Inputs

/-- **The last results of a suite count, and the first suite that has a file tells the time.**

Whatever results are given one after the other, each suite has results of its own: the last that
were given for it, or none.  They are listed in report order, and another order in which they are
given makes no difference while those of one suite keep theirs.  A report of them has the time of
the first suite with a file in report order, and no time exactly when there is no file. -/
theorem Report.lastGiven_and_precedence (given : List SuiteResults) (generatedAt : Instant)
    (settings : Settings) :
    let inputs := Inputs.given given
    let source := (assemble inputs generatedAt settings).source
    (∀ suite, (inputs.results suite).suite = suite ∧
      ((∃ before after, given = before ++ inputs.results suite :: after ∧
          ∀ q ∈ after, q.suite ≠ suite) ∨
        (∀ q ∈ given, q.suite ≠ suite) ∧ inputs.results suite = .missing suite)) ∧
    inputs.toList = [Suite.server, .cache, .proxy, .webSocket].map inputs.results ∧
    (∀ given', SuiteResults.Rearranged given given' → Inputs.given given' = inputs) ∧
    (∀ t, source = some t ↔ ∃ file, inputs.IsFirstFile file ∧ file.modified = t) ∧
    (source = none ↔ ∀ suite, (inputs.results suite).isLocated = false) := by
  intro inputs source
  refine ⟨fun suite => ⟨inputs.suite_results suite, ?_⟩, rfl,
    fun given' => Inputs.given_of_rearranged, inputs.source_eq_some_iff, inputs.source_eq_none_iff⟩
  cases hlast : SuiteResults.last? suite given with
  | none =>
    refine .inr ⟨SuiteResults.last?_eq_none_iff.1 hlast, ?_⟩
    rw [Inputs.results_given, hlast, Option.getD_none]
  | some r =>
    have hr : inputs.results suite = r := by rw [Inputs.results_given, hlast, Option.getD_some]
    obtain ⟨-, hplace⟩ := SuiteResults.last?_eq_some_iff.1 hlast
    exact .inl (hr ▸ hplace)

end BenchReport
