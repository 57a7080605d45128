import BenchReport.Document.Summary
import BenchReport.Proofs.Calendar.Written
import BenchReport.Proofs.Document.Faithfulness
import BenchReport.Proofs.Json.Token
import BenchReport.Publication
import BenchReport.Report.Assembly

/-!
# When results were produced

The time of the results is shown to the minute.  It can be read back, it is the same for the same
minute only, and it is never the word that stands for a missing time.  Every document and the
summary show it where it can be told from what stands around it.

## Main results

* `Report.sourceText_ne_unknown` — a time is never shown as a missing one.
* `Report.timestamp_of_document`, `Report.timestamp_of_summary` — **the written forms of a report
  tell the time of its results.**
* `Report.sourceText_tells_minute` — **the shown time tells the minute**, and whether there is one.
-/

namespace BenchReport

/-! ### The shown time -/

namespace Report

theorem sourceText_ne_unknown (t : Instant) : sourceText (some t) ≠ "unknown" := by
  intro h
  have hread := t.minuteOf?_minuteText
  rw [sourceText] at h
  rw [h] at hread
  cases hread

theorem newline_notMem_sourceText (source : Option Instant) :
    '\n' ∉ (sourceText source).toList := by
  cases source with
  | none => decide
  | some t => exact t.notMem_minuteText rfl (by decide)

end Report

/-! ### Data -/

namespace Json

/-- A text in quotes ends with its quote. -/
theorem quote_append_inj {s t : String} {x y : List Char}
    (h : Token.quote s ++ x = Token.quote t ++ y) : s = t ∧ x = y := by
  have hread (s : String) (x : List Char) :
      Token.readQuoted? (Token.quote s ++ x).tail = some (s.toList, x) := by
    simp only [Token.quote, List.cons_append, List.tail_cons, List.append_assoc,
      List.nil_append, Token.readQuoted?_quote]
  have heq := hread s x
  rw [h, hread, Option.some_inj, Prod.mk.injEq] at heq
  exact ⟨(String.toList_inj.1 heq.1).symm, heq.2.symm⟩

/-- A field with a text is told from the fields behind it. -/
theorem prettyFields_ofString_inj {depth : Nat} {key s t : String} {f g : String × Json}
    {rest rest' : List (String × Json)} {x y : List Char}
    (h : prettyFields depth ((key, ofString s) :: f :: rest) ++ x =
      prettyFields depth ((key, ofString t) :: g :: rest') ++ y) :
    s = t ∧ prettyFields depth (f :: rest) ++ x = prettyFields depth (g :: rest') ++ y := by
  simp only [prettyFields, ofString, prettyChars, Token.chars, List.append_assoc,
    List.cons_append, List.append_cancel_left_eq, List.cons.injEq, true_and] at h
  obtain ⟨htext, hrest⟩ := quote_append_inj h
  exact ⟨htext, (List.cons.inj hrest).2⟩

end Json

/-! ### Documents -/

namespace Report

variable {r r' : Report}

theorem timestamp_of_html (hproject : r.project = r'.project) (h : r.html = r'.html) :
    r.timestamp = r'.timestamp := by
  have hchars := String.ofList_inj.1 h
  have hopening : Page.opening r = Page.opening r' := by
    rw [Page.opening, Page.opening, hproject]
  simp only [htmlChars, Page.body, Markup.render_append, List.append_assoc, hopening,
    List.append_cancel_left_eq] at hchars
  exact (Page.header_append_inj r r' hchars).2.2.1

theorem timestamp_of_data (h : r.data = r'.data) : r.timestamp = r'.timestamp := by
  have hchars := String.ofList_inj.1 h
  simp only [toJson, Json.prettyChars, List.cons.injEq, true_and, List.append_assoc] at hchars
  obtain ⟨-, hchars⟩ := Json.prettyFields_ofString_inj hchars
  obtain ⟨-, hchars⟩ := Json.prettyFields_ofString_inj hchars
  obtain ⟨-, hchars⟩ := Json.prettyFields_ofString_inj hchars
  exact (Json.prettyFields_ofString_inj hchars).1

/-- The line with the time ends before the next one begins. -/
theorem timestamp_of_line {x y : List Char}
    (h : r.timestamp.toList ++ '\n' :: x = r'.timestamp.toList ++ '\n' :: y) :
    r.timestamp = r'.timestamp :=
  String.toList_inj.1 (Markup.eq_and_eq_of_append_cons (newline_notMem_sourceText r.source)
    (newline_notMem_sourceText r'.source) h).1

theorem timestamp_of_markdown (hproject : r.project = r'.project)
    (h : r.markdown = r'.markdown) : r.timestamp = r'.timestamp := by
  have hchars := congrArg String.toList h
  simp only [markdown, markdownOpening, hproject, String.toList_append, List.append_assoc,
    List.append_cancel_left_eq] at hchars
  exact timestamp_of_line hchars

theorem timestamp_of_summary (hproject : r.project = r'.project)
    (h : r.summary = r'.summary) : r.timestamp = r'.timestamp := by
  have hchars := congrArg String.toList h
  simp only [summary, summaryOpening, hproject, String.toList_append, List.append_assoc,
    List.append_cancel_left_eq] at hchars
  exact timestamp_of_line hchars

/-- **Every document tells the time of the results.** -/
theorem timestamp_of_document (hproject : r.project = r'.project) (format : Format)
    (h : r.document format = r'.document format) : r.timestamp = r'.timestamp := by
  cases format with
  | html => exact timestamp_of_html hproject h
  | json => exact timestamp_of_data h
  | markdown => exact timestamp_of_markdown hproject h

/-! ### Runs with and without results -/

/-- The results have a time when any suite has a result file. -/
theorem source_eq_none_iff (inputs : Inputs) :
    inputs.source = none ↔ ∀ s, (inputs.results s).isLocated = false := by
  simp only [Inputs.source, Inputs.toList, Option.map_eq_none_iff, List.findSome?_eq_none_iff,
    List.forall_mem_map, SuiteResults.isLocated, Option.isSome_eq_false_iff,
    Option.isNone_iff_eq_none]
  exact ⟨fun h s => h s (by cases s <;> decide), fun h s _ => h s⟩

/-- Runs with and without results show different times. -/
theorem timestamp_assemble_ne {located missing : Inputs} (settings : Settings)
    (now later : Instant) (hlocated : ∃ s, (located.results s).isLocated = true)
    (hmissing : ∀ s, (missing.results s).isLocated = false) :
    (assemble located now settings).timestamp ≠ (assemble missing later settings).timestamp := by
  obtain ⟨s, hs⟩ := hlocated
  obtain ⟨t, ht⟩ := Option.ne_none_iff_exists'.1 fun h =>
    Bool.false_ne_true (((source_eq_none_iff located).1 h s).symm.trans hs)
  have hnone := (source_eq_none_iff missing).2 hmissing
  change sourceText located.source ≠ sourceText missing.source
  rw [ht, hnone]
  exact sourceText_ne_unknown t

/-- **The shown time tells the minute of the results, and whether there are any.**  It is read back
as the minute that begins at or before the instant and ends after it.  It is the same for the same
minute only; texts with years of four digits are ordered as the minutes are; and it is never the
word for a missing time, so that no document of a run with a result file, and no summary of it, is
that of a run without one. -/
theorem sourceText_tells_minute (t u : Instant) :
    (∃ minute, Instant.minuteOf? (sourceText (some t)) = some minute ∧
      minute * Instant.minuteNanos ≤ t.sinceEpoch ∧
        t.sinceEpoch < (minute + 1) * Instant.minuteNanos) ∧
      (sourceText (some t) = sourceText (some u) ↔ t.minute = u.minute) ∧
      (t.HasFourDigitYear → u.HasFourDigitYear →
        (Text.bytes (sourceText (some t)) < Text.bytes (sourceText (some u)) ↔
          t.minute < u.minute)) ∧
      sourceText (some t) ≠ "unknown" ∧
      ∀ (settings : Settings) (located missing : Inputs) (now later : Instant),
        (∃ s, (located.results s).isLocated = true) →
        (∀ s, (missing.results s).isLocated = false) →
        (∀ format, (assemble located now settings).document format ≠
          (assemble missing later settings).document format) ∧
        (assemble located now settings).summary ≠ (assemble missing later settings).summary := by
  refine ⟨⟨t.minute, t.minuteOf?_minuteText, (t.minute_eq_iff t.minute).1 rfl⟩,
    Instant.minuteText_eq_iff, Instant.minuteText_lt_iff, sourceText_ne_unknown t, ?_⟩
  intro settings located missing now later hlocated hmissing
  have hne := timestamp_assemble_ne settings now later hlocated hmissing
  exact ⟨fun format h => hne (timestamp_of_document rfl format h),
    fun h => hne (timestamp_of_summary rfl h)⟩

/-- The last nanosecond before 1970 is in the last minute of 1969. -/
def lastOf1969 : Instant := .ofParts (-1) 999999999

theorem sourceText_tells_lastOf1969 :
    Text.bytes (sourceText (some lastOf1969)) < Text.bytes (sourceText (some ⟨0, 0, by decide⟩)) ∧
      ∀ format,
        (assemble (Inputs.empty.put ⟨.cache, some ⟨⟨"cache.json"⟩, lastOf1969⟩, []⟩) lastOf1969
          (.new ⟨"results"⟩)).document format ≠
        (assemble .empty lastOf1969 (.new ⟨"results"⟩)).document format := by
  obtain ⟨-, -, horder, -, hruns⟩ := sourceText_tells_minute lastOf1969 ⟨0, 0, by decide⟩
  exact ⟨(horder ⟨by decide, by decide⟩ ⟨by decide, by decide⟩).2 (by decide),
    (hruns _ _ _ _ _ ⟨.cache, rfl⟩ fun _ => rfl).1⟩

end Report

end BenchReport
