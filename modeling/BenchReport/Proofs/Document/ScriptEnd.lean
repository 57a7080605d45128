import BenchReport.Document.Page
import BenchReport.Proofs.Document.Protection
import BenchReport.Proofs.Document.ScriptData
import BenchReport.Proofs.Text.Split

/-!
# Where the script of the page ends

Protected data has no end tag, and neither has the code around it, so nothing ends the script of the
page early.  But protecting leaves a comment in the data as it is, and when the data begins a script
in a comment that it does not close, the end tag of the page belongs to that one.  The code opens no
comment and closes none, so the data alone decides.

## Main definitions

* `Report.embeddedData` — the data of the charts as it stands in the script.
* `Report.script` — what stands between the tags of the script.

## Main results

* `Report.not_infix_script` — the script has no end tag.
* `Report.escapes_script_iff` — the script leaves a comment open when the data does.
* `Report.script_ends` — **the script ends at the end tag of the page unless the data leaves open a
  comment with a script tag, and then it does not end.**
-/

namespace BenchReport

open ScriptData

namespace ChartScript

/-! ### The code -/

/-- The lines of the code. -/
def codeLines : List String :=
  [settings, compactFunction, drawFunction, drawing].flatMap ("" :: ·)

theorem toList_drawingCode :
    drawingCode.toList = (codeLines.map String.toList).flatMap (· ++ ['\n']) := by
  have hgroup : ∀ group : List String,
      ("\n" ++ String.join (group.map (· ++ "\n"))).toList =
        ("" :: group).flatMap fun line => line.toList ++ ['\n'] := by
    intro group
    simp only [String.toList_append, String.toList_join, List.flatMap_map, List.flatMap_cons]
    rfl
  rw [drawingCode, codeLines, String.toList_join, List.flatMap_map, List.flatMap_map,
    List.flatMap_assoc]
  exact List.flatMap_congr fun group _ => hgroup group

/-- What is not in the characters of a literal is not in its text, which is not computed. -/
theorem not_infix_ofList {piece line : List Char} (h : ¬ piece <:+: line) :
    ¬ piece <:+: (String.ofList line).toList := by
  rwa [String.toList_ofList]

/-- The code compares with greater-than signs only, and no line closes a comment. -/
theorem not_infix_codeLines : ∀ line ∈ codeLines,
    ¬ ['<'] <:+: line.toList ∧ ¬ "-->".toList <:+: line.toList := by
  simp only [codeLines, settings, compactFunction, drawFunction, drawing, List.flatMap_cons,
    List.flatMap_nil, List.cons_append, List.nil_append, List.forall_mem_cons, List.not_mem_nil,
    false_implies, implies_true, and_true]
  repeat' apply And.intro
  all_goals exact not_infix_ofList (by decide +kernel)

theorem less_notMem_drawingCode : '<' ∉ drawingCode.toList := by
  intro hmem
  rw [← List.singleton_infix_iff, toList_drawingCode] at hmem
  obtain ⟨line, hline, hpiece⟩ := Text.infix_lines (by simp) (by decide) hmem
  obtain ⟨text, htext, rfl⟩ := List.mem_map.1 hline
  exact (not_infix_codeLines text htext).1 hpiece

theorem not_infix_drawingCode : ¬ "-->".toList <:+: drawingCode.toList := by
  intro hpiece
  rw [toList_drawingCode] at hpiece
  obtain ⟨line, hline, hpiece⟩ := Text.infix_lines (by decide) (by decide) hpiece
  obtain ⟨text, htext, rfl⟩ := List.mem_map.1 hline
  exact (not_infix_codeLines text htext).2 hpiece

/-- The last line ends. -/
theorem exists_drawingCode : ∃ code, drawingCode.toList = code ++ ['\n'] := by
  have hlast : codeLines = codeLines.dropLast ++ ["CHARTS.forEach(drawChart);"] := rfl
  rw [toList_drawingCode, hlast, List.map_append, List.flatMap_append, List.map_singleton,
    List.flatMap_singleton, ← List.append_assoc]
  exact ⟨_, rfl⟩

/-! ### The data -/

theorem head?_chartData (charts : List Chart) : (chartData charts).head? = some '[' := by
  rw [chartData, Json.compactChars, Json.tokens, List.flatMap_cons]
  rfl

/-- A pair does not come about where something else than a slash follows. -/
theorem not_infix_append {a b : List Char} (ha : ¬ ['<', '/'] <:+: a)
    (hb : ¬ ['<', '/'] <:+: b) (hhead : b.head? ≠ some '/') : ¬ ['<', '/'] <:+: a ++ b := by
  induction a with
  | nil => exact hb
  | cons c a ih =>
    have ih := ih fun hpiece => ha (List.infix_cons_iff.2 (.inr hpiece))
    rw [List.cons_append, List.infix_cons_iff, not_or]
    refine ⟨fun hbegins => ?_, ih⟩
    obtain ⟨rfl, rest, hrest⟩ := List.cons_prefix_cons.1 hbegins
    cases a with
    | nil => exact hhead (List.head?_eq_some_iff.2 ⟨rest, hrest.symm⟩)
    | cons d a =>
      obtain ⟨rfl, -⟩ := List.cons.inj hrest
      exact ha (List.prefix_append ['<', '/'] a).isInfix

end ChartScript

namespace Report

/-! ### The script -/

/-- The data of the charts as it stands in the script. -/
def embeddedData (r : Report) : List Char := ChartScript.protect (ChartScript.chartData r.charts)

/-- What stands between the tags of the script. -/
def script (r : Report) : List Char := '\n' :: ChartScript.text r.charts

/-- Data stands in the script between texts without less-than signs. -/
theorem exists_script (r : Report) : ∃ front back,
    r.script = front ++ (r.embeddedData ++ ';' :: (back ++ ['\n'])) ∧ '<' ∉ front ∧
      '<' ∉ back ++ ['\n'] ∧ ¬ "-->".toList <:+: back ++ ['\n'] := by
  obtain ⟨code, hcode⟩ := ChartScript.exists_drawingCode
  refine ⟨'\n' :: "const CHARTS = ".toList, '\n' :: code, ?_, by decide, ?_, ?_⟩
  · have hsplit : ∀ front data : List Char,
        '\n' :: (front ++ data ++ [';', '\n'] ++ (code ++ ['\n'])) =
          '\n' :: front ++ (data ++ ';' :: ('\n' :: code ++ ['\n'])) := by simp
    unfold script ChartScript.text
    rw [hcode]
    exact hsplit _ _
  · rw [List.cons_append, ← hcode, List.mem_cons, not_or]
    exact ⟨by decide, ChartScript.less_notMem_drawingCode⟩
  · rw [List.cons_append, ← hcode, List.infix_cons_iff, not_or]
    exact ⟨fun h => absurd (List.cons_prefix_cons.1 h).1 (by decide),
      ChartScript.not_infix_drawingCode⟩

/-- **The script has no end tag.** -/
theorem not_infix_script (r : Report) : ¬ ['<', '/'] <:+: r.script := by
  obtain ⟨front, back, hscript, hfront, hback, -⟩ := r.exists_script
  have hdata : ¬ ['<', '/'] <:+: r.embeddedData := ChartScript.not_infix_protect _
  have hhead : r.embeddedData.head? = some '[' := by
    rw [embeddedData, ChartScript.head?_protect, ChartScript.head?_chartData]
  have hcode : ¬ ['<', '/'] <:+: ';' :: (back ++ ['\n']) :=
    not_infix_of_less_notMem (List.not_mem_cons_of_ne_of_not_mem (by decide) hback)
  rw [hscript]
  refine ChartScript.not_infix_append (not_infix_of_less_notMem hfront)
    (ChartScript.not_infix_append hdata hcode (by simp)) ?_
  rw [List.head?_append, hhead]
  simp

/-- **The script leaves a comment open exactly when the data does.** -/
theorem escapes_script_iff (r : Report) (depth : Depth) :
    Escapes depth r.script ↔ Escapes depth r.embeddedData := by
  obtain ⟨front, back, hscript, hfront, hback, hclose⟩ := r.exists_script
  have htags := r.not_infix_script
  rw [hscript] at htags ⊢
  exact escapes_between_iff htags hfront hback hclose

/-! ### The page -/

/-- What stands behind the end tag of the script. -/
def pageEnd : List Char := "\n</body>\n</html>\n".toList

/-- The script stands in the page between its tags, and the end of the page behind it. -/
theorem exists_htmlChars (r : Report) : ∃ front, r.htmlChars =
    front ++ "<script>".toList ++ (r.script ++ "</script>".toList ++ pageEnd) := by
  have hplace : ∀ front tag code endTag rest : List Char,
      front ++ (tag ++ ['\n'] ++ code ++ (endTag ++ rest)) =
        front ++ tag ++ ('\n' :: code ++ endTag ++ rest) := by simp
  exact ⟨_, hplace _ "<script>".toList _ "</script>".toList pageEnd⟩

/-- In a comment the end of the page ends no script. -/
theorem after?_pageEnd : after? (.escaped .once) pageEnd = none := by decide

/-- **The script ends at the end tag of the page unless the data leaves open a comment with a script
tag, and then it does not end.**  The data never ends the script, and leads into escaped text
exactly when it leaves a comment open. -/
theorem script_ends (r : Report) :
    (∃ front, r.htmlChars =
      front ++ "<script>".toList ++ (r.script ++ "</script>".toList ++ pageEnd)) ∧
    (run .data r.embeddedData).place ≠ .endTag ∧
    (∀ depth, (run .data r.embeddedData).Within depth ↔ Escapes depth r.embeddedData) ∧
    (¬ Escapes .twice r.embeddedData →
      after? .data (r.script ++ "</script>".toList ++ pageEnd) = some pageEnd) ∧
    (Escapes .twice r.embeddedData →
      after? .data (r.script ++ "</script>".toList ++ pageEnd) = none) := by
  have hdata : ¬ ['<', '/'] <:+: r.embeddedData := ChartScript.not_infix_protect _
  obtain ⟨front, back, hscript, -⟩ := r.exists_script
  have hlines : r.script = front ++ (r.embeddedData ++ ';' :: back) ++ ['\n'] := by
    simp only [hscript, List.append_assoc, List.cons_append]
  have hends := after?_endTag (hlines ▸ r.not_infix_script) pageEnd
  rw [← hlines, after?_pageEnd, escapes_script_iff] at hends
  exact ⟨r.exists_htmlChars, place_run_ne_endTag hdata, fun _ => within_run_iff hdata, hends⟩

/-- A report with a chart whose title begins a script in a comment. -/
def commentReport : Report where
  project := "P"
  subtitle := ""
  generatedAt := ⟨0, 0, by decide⟩
  source := none
  badges := []
  cards := []
  sections := [{
    suite := .cache
    title := "Cache"
    description := ""
    icon := ""
    located := false
    charts := [⟨"chart", "<!--<script>", .vertical, "", []⟩]
    table := ⟨"", []⟩ }]

/-- Its script does not end. -/
theorem script_ends_commentReport : Escapes .twice commentReport.embeddedData ∧
    after? .data (commentReport.script ++ "</script>".toList ++ pageEnd) = none := by
  have hplace : (run .data commentReport.embeddedData).place = .inside .twice := by decide +kernel
  have hends := script_ends commentReport
  have hescapes := (hends.2.2.1 .twice).1 (within_twice_iff.2 hplace)
  exact ⟨hescapes, hends.2.2.2.2 hescapes⟩

end Report

end BenchReport
