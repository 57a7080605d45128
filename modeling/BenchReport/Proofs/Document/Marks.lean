import BenchReport.Document.Page
import BenchReport.Proofs.Label.Alphabet

/-!
# Texts cannot become markup

The characters that open and close tags and attribute values are the same on every page
whose report has the same shape, whatever texts and numbers the report holds.

## Main definitions

* `Markup.marks` — the angle brackets and quotation marks of a text, in order.
* `Report.Shape`, `Report.shape` — how many parts of which kind a report has.
* `Report.beforeScript` — the document up to the script that draws the charts.

## Main results

* `Markup.marks_escape` — an escaped text has no marks.
* `Label.marks_grouped` — neither has a number with commas, finite or not.
* `Report.marks_beforeScript_of_shape` — **the marks depend on the shape only.**
-/

namespace BenchReport

namespace Markup

/-- The character opens or closes a tag or the value of an attribute. -/
def isMark (c : Char) : Bool := c == '<' || c == '>' || c == '"' || c == '\''

/-- The angle brackets and quotation marks of a text, in order. -/
def marks (text : List Char) : List Char := text.filter isMark

@[simp] theorem marks_append (s t : List Char) : marks (s ++ t) = marks s ++ marks t :=
  List.filter_append ..

theorem marks_eq_nil {text : List Char} (h : ∀ c ∈ text, isMark c = false) : marks text = [] :=
  List.filter_eq_nil_iff.2 fun c hc => by simp [h c hc]

theorem marks_escapeChar (c : Char) : marks (escapeChar c) = [] := by
  unfold escapeChar
  split
  · rfl
  · rfl
  · rfl
  · rfl
  · rfl
  · -- no other character is a mark
    apply marks_eq_nil
    intro d hd
    obtain rfl := List.mem_singleton.1 hd
    simp_all [isMark]

/-- **An escaped text has no marks.** -/
theorem marks_escape (text : List Char) : marks (escape text) = [] := by
  induction text with
  | nil => rfl
  | cons c text ih =>
    rw [escape, List.flatMap_cons, marks_append, marks_escapeChar, List.nil_append]
    exact ih

/-! ### Marks of a page -/

@[simp] theorem render_cons (piece : Piece) (pieces : List Piece) :
    render (piece :: pieces) = piece.chars ++ render pieces :=
  List.flatMap_cons

@[simp] theorem marks_text (content : String) : marks (Piece.text content).chars = [] :=
  marks_escape _

/-- Lists of the same kinds of parts have the same marks. -/
theorem marks_flatMap_congr {α κ : Type} {pieces : α → List Piece} {kind : α → κ}
    (h : ∀ a b, kind a = kind b → marks (render (pieces a)) = marks (render (pieces b)))
    {l l' : List α} (hl : l.map kind = l'.map kind) :
    marks (render (l.flatMap pieces)) = marks (render (l'.flatMap pieces)) := by
  induction l generalizing l' with
  | nil =>
    rw [List.map_nil, eq_comm, List.map_eq_nil_iff] at hl
    rw [hl]
  | cons a l ih =>
    cases l' with
    | nil => cases hl
    | cons b l' =>
      obtain ⟨hhead, htail⟩ := List.cons.inj hl
      rw [List.flatMap_cons, List.flatMap_cons, render_append, render_append, marks_append,
        marks_append, h a b hhead, ih htail]

/-- Lists of the same length, of parts that all have the same marks, have the same marks. -/
theorem marks_flatMap_of_length {α : Type} {pieces : α → List Piece}
    (h : ∀ a b, marks (render (pieces a)) = marks (render (pieces b))) {l l' : List α}
    (hl : l.length = l'.length) :
    marks (render (l.flatMap pieces)) = marks (render (l'.flatMap pieces)) := by
  have hkind : l.map (fun _ => ()) = l'.map fun _ => () := by
    rw [List.map_const', List.map_const', hl]
  exact marks_flatMap_congr (fun a b _ => h a b) hkind

end Markup

/-! ### Numbers with commas -/

open Markup

/-- No character of a number label is a mark. -/
theorem Markup.isMark_eq_false_of_isPlainChar {c : Char} (h : Label.isPlainChar c) :
    isMark c = false := by
  rw [isMark, Bool.or_eq_false_iff, Bool.or_eq_false_iff, Bool.or_eq_false_iff]
  refine ⟨⟨⟨?_, ?_⟩, ?_⟩, ?_⟩ <;> rw [beq_eq_false_iff_ne] <;> rintro rfl <;> cases h

/-- **A number with commas has no marks**, finite or not. -/
theorem Label.marks_grouped (x : Binary64) (places : Nat) :
    marks (grouped x places).toList = [] :=
  marks_eq_nil fun c hc => isMark_eq_false_of_isPlainChar ((isPlain_grouped x places).chars c hc)

/-! ### The shape of a report -/

/-- The suite of a section, how many charts it has, and which rows are emphasised. -/
structure Section.Shape where
  suite : Suite
  charts : Nat
  highlights : List Bool

/-- How many badges a report has, the tones of its cards, and the shapes of its sections. -/
structure Report.Shape where
  badges : Nat
  tones : List Tone
  sections : List Section.Shape

/-- The shape of a section. -/
def Section.shape (s : Section) : Section.Shape :=
  ⟨s.suite, s.charts.length, s.table.rows.map (·.highlight)⟩

/-- The shape of a report. -/
def Report.shape (r : Report) : Report.Shape :=
  ⟨r.badges.length, r.cards.map (·.tone), r.sections.map Section.shape⟩

namespace Page

/-! ### Parts of the page -/

theorem marks_opening (r r' : Report) :
    marks (render (opening r)) = marks (render (opening r')) := by
  simp only [opening, render_cons, render_nil, marks_append, marks_text]

theorem marks_badge (b b' : String) : marks (render (badge b)) = marks (render (badge b')) := by
  simp only [badge, render_cons, render_nil, marks_append, marks_text]

theorem marks_header {r r' : Report} (h : r.badges.length = r'.badges.length) :
    marks (render (header r)) = marks (render (header r')) := by
  simp only [header, render_cons, render_nil, render_append, marks_append, marks_text,
    marks_flatMap_of_length marks_badge h]

theorem marks_card {c c' : Card} (h : c.tone = c'.tone) :
    marks (render (card c)) = marks (render (card c')) := by
  simp only [card, render_cons, render_nil, marks_append, marks_text, h]

theorem marks_cards {r r' : Report} (h : r.cards.map (·.tone) = r'.cards.map (·.tone)) :
    marks (render (cards r)) = marks (render (cards r')) := by
  simp only [cards, render_cons, render_nil, render_append, marks_append,
    marks_flatMap_congr (fun _ _ => marks_card) h]

theorem marks_chart (c c' : Chart) : marks (render (chart c)) = marks (render (chart c')) := by
  simp only [chart, render_cons, render_nil, marks_append, marks_text]

theorem marks_row {r r' : Row} (h : r.highlight = r'.highlight) :
    marks (render (row r)) = marks (render (row r')) := by
  have hdisplay : ∀ r : Row, marks (Piece.word r.display).chars = [] := fun r =>
    Label.marks_grouped r.value r.places
  simp only [row, render_cons, render_nil, marks_append, marks_text, hdisplay, h]

theorem marks_table {t t' : Table}
    (h : t.rows.map (·.highlight) = t'.rows.map (·.highlight)) :
    marks (render (table t)) = marks (render (table t')) := by
  simp only [table, render_cons, render_nil, render_append, marks_append, marks_text,
    marks_flatMap_congr (fun _ _ => marks_row) h]

theorem marks_suiteSection {s s' : Section} (h : s.shape = s'.shape) :
    marks (render (suiteSection s)) = marks (render (suiteSection s')) := by
  obtain ⟨hsuite, hcharts, hrows⟩ := Section.Shape.mk.inj h
  have hcolumns : columns s = columns s' := by rw [columns, columns, hcharts]
  simp only [suiteSection, render_cons, render_nil, render_append, marks_append, marks_text,
    hsuite, hcolumns, marks_flatMap_of_length marks_chart hcharts, marks_table hrows]

theorem marks_footer {r r' : Report} (h : r.badges.length = r'.badges.length) :
    marks (render (footer r)) = marks (render (footer r')) := by
  have hbadge : ∀ b b' : String, marks (render [.markup " · ", .text b]) =
      marks (render [.markup " · ", .text b']) := fun b b' => by
    simp only [render_cons, render_nil, marks_append, marks_text]
  simp only [footer, render_cons, render_nil, render_append, marks_append, marks_text,
    marks_flatMap_of_length hbadge h]

theorem marks_body {r r' : Report} (h : r.shape = r'.shape) :
    marks (render (body r)) = marks (render (body r')) := by
  obtain ⟨hbadges, htones, hsections⟩ := Report.Shape.mk.inj h
  simp only [body, render_cons, render_append, marks_append, marks_header hbadges,
    marks_cards htones, marks_flatMap_congr (fun _ _ => marks_suiteSection) hsections,
    marks_footer hbadges]

end Page

/-! ### The document up to the script -/

namespace Report

/-- The document up to the script that draws the charts. -/
def beforeScript (r : Report) : List Char :=
  render (Page.opening r ++ Page.body r) ++ "<script>\n".toList

/-- The script that draws the charts, and the end of the document. -/
def fromScript (r : Report) : List Char :=
  ChartScript.text r.charts ++ "</script>\n</body>\n</html>\n".toList

/-- **The marks of the document up to the script depend on the shape of the report only.**
The script begins where the data of the charts does. -/
theorem marks_beforeScript_of_shape :
    (∀ r : Report, r.htmlChars = r.beforeScript ++ r.fromScript ∧
      "const CHARTS = ".toList <+: r.fromScript) ∧
    ∀ r r' : Report, r.shape = r'.shape → marks r.beforeScript = marks r'.beforeScript := by
  refine ⟨fun r => ⟨?_, ?_⟩, fun r r' h => ?_⟩
  · have happend : ∀ head tag script tail : List Char,
        head ++ (tag ++ script ++ tail) = head ++ tag ++ (script ++ tail) := by simp
    exact happend _ _ _ _
  · have hprefix : ∀ start data semicolon code tail : List Char,
        start <+: start ++ data ++ semicolon ++ code ++ tail := by simp
    exact hprefix _ _ _ _ _
  · rw [beforeScript, beforeScript, render_append, render_append, marks_append, marks_append,
      marks_append, marks_append, Page.marks_opening r r', Page.marks_body h]

/-- A report with one part of each kind, in which every text and every number is given. -/
def filledWith (text : String) (x : Binary64) : Report where
  project := text
  subtitle := text
  generatedAt := ⟨0, 0, secondNanos_pos⟩
  source := none
  badges := [text]
  cards := [⟨text, x, text, text, .green⟩]
  sections := [{
    suite := .cache
    title := text
    description := text
    icon := text
    located := true
    charts := [⟨text, text, .vertical, text, [⟨text, x, text⟩]⟩]
    table := ⟨text, [⟨text, x, text, 1, true⟩]⟩ }]

/-- A text that would end an attribute value and begin a script. -/
theorem marks_filledWith_script :
    marks (filledWith "'\"><script>alert(1)</script>" .nan).beforeScript =
      marks (filledWith "plain" 0).beforeScript :=
  marks_beforeScript_of_shape.2 _ _ rfl

end Report

end BenchReport
