import BenchReport.Document.Page
import BenchReport.Proofs.Document.Protection
import BenchReport.Proofs.Json.RoundTrip

/-!
# The charts of a document can be read from its script

The charts stand in the script as protected data.  Their numbers are finite or `null` and
they are not deeply nested, so the data can be read; and protecting data that can be read
does not change what is read.

## Main results

* `Chart.legible_toJson`, `Chart.depth_toJson_le` — a chart can be read.
* `ChartScript.parseChars?_chartData` — so can the data of a list of charts.
* `Report.chartData_embedded` — **the script holds the charts, and no end tag.**
-/

namespace BenchReport

open ChartScript

/-! ### Charts as data -/

theorem Bar.legible_toJson (b : Bar) : b.toJson.Legible := by
  refine Json.legible_object fun f hf => ?_
  simp only [List.mem_cons, List.not_mem_nil, or_false] at hf
  rcases hf with rfl | rfl | rfl
  · exact Json.legible_ofString b.label
  · exact Json.legible_ofBinary64 b.value
  · exact Json.legible_ofString b.color

theorem Chart.legible_toJson (c : Chart) : c.toJson.Legible := by
  refine Json.legible_object fun f hf => ?_
  simp only [List.mem_cons, List.not_mem_nil, or_false] at hf
  rcases hf with rfl | rfl | rfl | rfl | rfl
  · exact Json.legible_ofString c.slot
  · exact Json.legible_ofString c.title
  · exact Json.legible_ofString c.orientation.key
  · exact Json.legible_ofString c.unit
  · exact Json.legible_array (List.forall_mem_map.2 fun b _ => b.legible_toJson)

theorem depth_ofBinary64 (x : Binary64) : (Json.ofBinary64 x).depth = 0 := by
  rw [Json.ofBinary64]
  split <;> rfl

theorem Bar.depth_toJson (b : Bar) : b.toJson.depth = 1 := by
  simp [toJson, Json.depth, Json.fieldsDepth, Json.ofString, depth_ofBinary64]

theorem Chart.depth_toJson_le (c : Chart) : c.toJson.depth ≤ 3 := by
  have hbars : (Json.array (c.bars.map Bar.toJson)).depth ≤ 2 :=
    Json.depth_array_le (List.forall_mem_map.2 fun b _ => b.depth_toJson.le)
  simp only [toJson, Json.ofString]
  refine Json.depth_object_le ?_
  simpa [Json.depth] using hbars

namespace ChartScript

/-- The data of charts can be read. -/
theorem parseChars?_chartData (charts : List Chart) :
    Json.parseChars? (chartData charts) =
      some (Json.array (charts.map Chart.toJson)).settled := by
  refine Json.parseChars?_compactChars ?_ ?_
  · exact Json.legible_array (List.forall_mem_map.2 fun c _ => c.legible_toJson)
  · have hdepth : (Json.array (charts.map Chart.toJson)).depth ≤ 4 :=
      Json.depth_array_le (List.forall_mem_map.2 fun c _ => c.depth_toJson_le)
    exact hdepth.trans (by decide)

end ChartScript

/-! ### Charts in the document -/

/-- **The script holds the charts, and no end tag.**  What stands there is the data of the
charts with a backslash in every pair of a less-than sign and a slash; it has no such pair,
and it is read as the data is. -/
theorem Report.chartData_embedded (r : Report) :
    ("const CHARTS = ".toList ++ protect (chartData r.charts) ++ ";\n".toList) <:+: r.htmlChars ∧
    (∃ parts, chartData r.charts = ['<', '/'].intercalate parts ∧
      protect (chartData r.charts) = ['<', '\\', '/'].intercalate parts ∧
      ∀ part ∈ parts, ¬ ['<', '/'] <:+: part) ∧
    ¬ ['<', '/'] <:+: protect (chartData r.charts) ∧
    Json.parseChars? (chartData r.charts) =
      some (Json.array (r.charts.map Chart.toJson)).settled ∧
    Json.parseChars? (protect (chartData r.charts)) =
      some (Json.array (r.charts.map Chart.toJson)).settled := by
  have hdata := parseChars?_chartData r.charts
  refine ⟨?_, ?_, not_infix_protect _, hdata, Json.parseChars?_protect hdata⟩
  · -- stated of all texts, so that none of those of the page is evaluated
    have hplace : ∀ head tag start data semicolon code tail : List Char,
        start ++ data ++ semicolon <:+:
          head ++ (tag ++ (start ++ data ++ semicolon ++ code) ++ tail) :=
      fun head tag _ _ _ code tail => ⟨head ++ tag, code ++ tail, by simp⟩
    exact hplace _ _ _ _ _ _ _
  · obtain ⟨parts, htext, hprotect, -, hparts⟩ := protect_eq_intercalate (chartData r.charts)
    exact ⟨parts, htext, hprotect, hparts⟩

end BenchReport
