import BenchReport.Proofs.Document.ChartData
import BenchReport.Proofs.Document.Faithfulness
import BenchReport.Proofs.Json.Lookup

/-!
# Every chart has its place

The script looks for the place of a chart by name.  The places stand in the sections of the page,
the charts in the data of the script, and both are listed in the same order.  Nothing but a place
can be taken for one: a text holds no tag, and no other piece of markup begins or ends one of this
kind.

## Main definitions

* `Page.canvasIds` — the names of the places in a page.
* `Page.Names` — a part of a page holds the places of these names.
* `Json.slot?` — the place that a chart of the data names.

## Main results

* `Page.names_body` — the places in the body have the slots of the charts for names.
* `Chart.slot?_settled_toJson` — the slot of a chart is read from the data.
* `Report.body_faithful` — **the body shows the report, and a place for every chart.**
-/

namespace BenchReport

open Markup ChartScript

namespace Page

/-! ### Places -/

/-- What stands before the name of a place. -/
def canvasStart : List Char := "<canvas id=\"".toList

/-- The names of the places in a page, as they are written: wherever a place begins, what stands
up to the next quotation mark. -/
def canvasIds : List Char → List (List Char)
  | [] => []
  | c :: rest =>
      if canvasStart <+: c :: rest then
        ((c :: rest).drop canvasStart.length).takeWhile (· != '"') :: canvasIds rest
      else canvasIds rest

/-- No place begins in the text, whatever stands behind it: every less-than sign is followed by
another letter than that of the tag. -/
def quiet : List Char → Bool
  | [] => true
  | c :: rest => (c != '<' || rest.head?.any (· != 'c')) && quiet rest

/-- The part of a page holds the places of these names, whatever stands behind it. -/
def Names (part : List Char) (ids : List (List Char)) : Prop :=
  ∀ rest, canvasIds (part ++ rest) = ids ++ canvasIds rest

theorem Names.append {a b : List Char} {i j : List (List Char)} (ha : Names a i) (hb : Names b j) :
    Names (a ++ b) (i ++ j) := by
  intro rest
  rw [List.append_assoc, ha, hb, List.append_assoc]

theorem names_nil : Names [] [] := fun _ => rfl

theorem canvasStart_eq : canvasStart = '<' :: "canvas id=\"".toList := by decide

theorem not_prefix_of_quiet {c : Char} {part : List Char} (h : quiet (c :: part))
    (rest : List Char) : ¬ canvasStart <+: c :: (part ++ rest) := by
  intro hprefix
  rw [canvasStart_eq, List.cons_prefix_cons] at hprefix
  obtain ⟨rfl, htail⟩ := hprefix
  rw [quiet, Bool.and_eq_true] at h
  cases part with
  | nil => cases h.1
  | cons d part =>
    have hd : 'c' = d := (List.cons_prefix_cons.1 htail).1
    rw [← hd] at h
    cases h.1

theorem names_of_quiet {part : List Char} (h : quiet part) : Names part [] := by
  intro rest
  induction part with
  | nil => rfl
  | cons c part ih =>
    rw [List.cons_append, canvasIds, if_neg (not_prefix_of_quiet h rest)]
    rw [quiet, Bool.and_eq_true] at h
    exact ih h.2

theorem quiet_of_notMem {part : List Char} (h : '<' ∉ part) : quiet part := by
  induction part with
  | nil => rfl
  | cons c part ih =>
    rw [List.mem_cons, not_or] at h
    rw [quiet, bne_iff_ne.2 (Ne.symm h.1), Bool.true_or, Bool.true_and]
    exact ih h.2

theorem names_of_marks {part : List Char} (h : marks part = []) : Names part [] :=
  names_of_quiet (quiet_of_notMem (notMem_of_marks h rfl))

/-! ### Pieces -/

variable {source : String} {rest : List Char}

theorem canvasIds_markup (h : quiet source.toList) :
    canvasIds ((Piece.markup source).chars ++ rest) = canvasIds rest :=
  names_of_quiet h rest

theorem canvasIds_text (content : String) :
    canvasIds ((Piece.text content).chars ++ rest) = canvasIds rest :=
  names_of_marks (marks_text content) rest

theorem canvasIds_word {content : String} (h : marks content.toList = []) :
    canvasIds ((Piece.word content).chars ++ rest) = canvasIds rest :=
  names_of_marks h rest

/-- The parts of a list hold their places one after the other. -/
theorem names_flatMap {α : Type} {pieces : α → List Piece} {ids : α → List (List Char)}
    (h : ∀ a, Names (render (pieces a)) (ids a)) (l : List α) :
    Names (render (l.flatMap pieces)) (l.flatMap ids) := by
  induction l with
  | nil => exact names_nil
  | cons a l ih =>
    rw [List.flatMap_cons, List.flatMap_cons, render_append]
    exact (h a).append ih

/-- Parts without places make a list without places. -/
theorem names_flatMap_nil {α : Type} {pieces : α → List Piece}
    (h : ∀ a, Names (render (pieces a)) []) (l : List α) :
    Names (render (l.flatMap pieces)) [] := by
  have hlist := names_flatMap h l
  rwa [List.flatMap_eq_nil_iff.2 fun _ _ => rfl] at hlist

/-! ### Parts of the page -/

theorem names_badge (b : String) : Names (render (badge b)) [] := by
  intro rest
  simp (disch := decide) only [badge, render_cons, render_nil, List.append_assoc, List.nil_append,
    canvasIds_markup, canvasIds_text]

theorem names_header (r : Report) : Names (render (header r)) [] := by
  intro rest
  have hbadges := names_flatMap_nil names_badge r.badges
  simp (disch := decide) only [header, render_cons, render_nil, render_append, List.append_assoc,
    List.nil_append, canvasIds_markup, canvasIds_text, hbadges _]

theorem names_card (c : Card) : Names (render (card c)) [] := by
  intro rest
  have htone : marks c.tone.key.toList = [] := by cases c.tone <;> decide
  simp (disch := first | assumption | decide) only [card, render_cons, render_nil,
    List.append_assoc, List.nil_append, canvasIds_markup, canvasIds_text, canvasIds_word]

theorem names_cards (r : Report) : Names (render (cards r)) [] := by
  intro rest
  have hcards := names_flatMap_nil names_card r.cards
  simp (disch := decide) only [cards, render_cons, render_nil, render_append, List.append_assoc,
    List.nil_append, canvasIds_markup, hcards _]

/-- A place is found, and its name ends where the markup behind it begins. -/
theorem canvasIds_canvas {part : List Char} (hpart : marks part = []) :
    canvasIds (canvasStart ++ (part ++ '"' :: rest)) = part :: canvasIds ('"' :: rest) := by
  have hname : (part ++ '"' :: rest).takeWhile (· != '"') = part := by
    have hquote : ∀ c ∈ part, (c != '"') = true := fun c hc =>
      bne_iff_ne.2 fun heq => notMem_of_marks hpart rfl (heq ▸ hc)
    rw [List.takeWhile_append_of_pos hquote, List.takeWhile_cons_of_neg (by decide),
      List.append_nil]
  have hinside : canvasIds ("canvas id=\"".toList ++ (part ++ '"' :: rest)) =
      canvasIds ('"' :: rest) := by
    rw [names_of_quiet (by decide), names_of_marks hpart]
    rfl
  -- one step of the search finds the place, and the search goes on inside of it
  conv_lhs => rw [canvasStart_eq]
  rw [List.cons_append, canvasIds, ← List.cons_append, ← canvasStart_eq,
    if_pos (List.prefix_append _ _), List.drop_left, hname, hinside]

/-- The place of a chart has its slot for a name. -/
theorem names_chart (c : Chart) : Names (render (chart c)) [escape c.slot.toList] := by
  intro rest
  -- the markup before the slot ends with the start of the place
  have hbefore : (Piece.markup "      <div class=\"chart-wrap\"><canvas id=\"").chars =
      (Piece.markup "      <div class=\"chart-wrap\">").chars ++ canvasStart := by decide
  have hbehind : (Piece.markup "\"></canvas></div>\n").chars =
      '"' :: (Piece.markup "></canvas></div>\n").chars := by decide
  simp (disch := decide) only [chart, render_cons, render_nil, List.append_assoc, List.nil_append,
    canvasIds_markup, canvasIds_text, hbefore]
  rw [hbehind, List.cons_append, canvasIds_canvas (marks_text c.slot), ← List.cons_append,
    ← hbehind, canvasIds_markup (by decide), canvasIds_markup (by decide)]
  rfl

theorem names_row (r : Row) : Names (render (row r)) [] := by
  intro rest
  have hclass : marks (valueClass r.highlight).toList = [] := by cases r.highlight <;> decide
  have hdisplay : marks r.display.toList = [] := Label.marks_grouped r.value r.places
  simp (disch := first | assumption | decide) only [row, render_cons, render_nil,
    List.append_assoc, List.nil_append, canvasIds_markup, canvasIds_text, canvasIds_word]

theorem names_table (t : Table) : Names (render (table t)) [] := by
  intro rest
  have hrows := names_flatMap_nil names_row t.rows
  simp (disch := decide) only [table, render_cons, render_nil, render_append, List.append_assoc,
    List.nil_append, canvasIds_markup, canvasIds_text, hrows _]

/-- The slots of charts as they are written in the page. -/
def slotIds (charts : List Chart) : List (List Char) := charts.map fun c => escape c.slot.toList

theorem names_suiteSection (s : Section) : Names (render (suiteSection s)) (slotIds s.charts) := by
  intro rest
  have hsuite : marks s.suite.key.toList = [] := by cases s.suite <;> decide
  have hcolumns : marks (toString (columns s)).toList = [] := marks_columns s
  have hcharts : Names (render (s.charts.flatMap chart)) (slotIds s.charts) := by
    rw [slotIds, List.map_eq_flatMap]
    exact names_flatMap names_chart s.charts
  simp (disch := first | assumption | decide) only [suiteSection, render_cons, render_nil,
    render_append, List.append_assoc, List.nil_append, canvasIds_markup, canvasIds_text,
    canvasIds_word, hcharts _, names_table s.table _]

theorem names_footer (r : Report) : Names (render (footer r)) [] := by
  intro rest
  have hbadge : ∀ b, Names (render [.markup " · ", .text b]) [] := by
    intro b rest
    simp (disch := decide) only [render_cons, render_nil, List.append_assoc, List.nil_append,
      canvasIds_markup, canvasIds_text]
  have hbadges := names_flatMap_nil hbadge r.badges
  simp (disch := decide) only [footer, render_cons, render_nil, render_append, List.append_assoc,
    List.nil_append, canvasIds_markup, canvasIds_text, hbadges _]

/-- The places in the body have the slots of the charts for names. -/
theorem names_body (r : Report) : Names (render (body r)) (slotIds r.charts) := by
  intro rest
  have hsections : Names (render (r.sections.flatMap suiteSection)) (slotIds r.charts) := by
    rw [slotIds, Report.charts, List.map_flatMap]
    exact names_flatMap names_suiteSection r.sections
  simp (disch := decide) only [body, render_cons, render_append, List.append_assoc,
    List.nil_append, canvasIds_markup, names_header r _, names_cards r _, hsections _,
    names_footer r _]

theorem canvasIds_body (r : Report) : canvasIds (render (body r)) = slotIds r.charts := by
  have hbody := names_body r []
  rwa [List.append_nil, canvasIds, List.append_nil] at hbody

/-- The names are read back as the slots. -/
theorem unescape_slotIds (charts : List Chart) :
    (slotIds charts).map (fun id => String.ofList (unescape id)) = charts.map (·.slot) := by
  rw [slotIds, List.map_map]
  refine List.map_congr_left fun c _ => ?_
  rw [Function.comp_apply, unescape_escape, String.ofList_toList]

end Page

/-! ### The data -/

namespace Json

/-- The place that a chart of the data names. -/
def slot? : Json → Option String
  | .object fields =>
      match fieldOf? "slot" fields with
      | some (.scalar (.string slot)) => some slot
      | _ => none
  | _ => none

end Json

/-- The slot of a chart is read from the data. -/
theorem Chart.slot?_settled_toJson (c : Chart) : c.toJson.settled.slot? = some c.slot := by
  simp [toJson, Json.settled, Json.putFields, Json.slot?, Json.fieldOf?_putField, Json.ofString,
    Json.settledScalar]

theorem ChartScript.exists_slots (charts : List Chart) : ∃ items,
    Json.parseChars? (protect (chartData charts)) = some (.array items) ∧
      items.map Json.slot? = (charts.map (·.slot)).map some := by
  refine ⟨_, Json.parseChars?_protect (parseChars?_chartData charts), ?_⟩
  rw [Json.settledItems_eq_map, List.map_map, List.map_map, List.map_map]
  exact List.map_congr_left fun c _ => c.slot?_settled_toJson

namespace Report

/-- **The body shows the report, and a place for every chart.**  The body is what stands between
the head of the document and the script; reports with the same body show the same texts, values
and charts in the same order; and the names of the places, read back, are the slots of the charts
that stand in the script. -/
theorem body_faithful :
    (∀ r : Report, r.htmlChars =
        render (Page.opening r) ++ render (Page.body r) ++ Page.closing r ∧
      "<header>\n".toList <+: render (Page.body r) ∧
      "<script>\n".toList ++ ("const CHARTS = ".toList ++ protect (chartData r.charts)) <+:
        Page.closing r) ∧
    (∀ r r' : Report, render (Page.body r) = render (Page.body r') → r.shown = r'.shown) ∧
    ∀ r : Report, ∃ items,
      Json.parseChars? (protect (chartData r.charts)) = some (.array items) ∧
      items.map Json.slot? = (r.charts.map (·.slot)).map some ∧
      (Page.canvasIds (render (Page.body r))).map (fun id => String.ofList (unescape id)) =
        r.charts.map (·.slot) := by
  refine ⟨fun r => ⟨?_, ?_, ?_⟩, fun r r' h => Page.shown_of_body h, fun r => ?_⟩
  · rw [htmlChars, render_append]
  · exact List.prefix_append _ _
  · -- stated of all texts, so that none of those of the page is evaluated
    have hstart : ∀ tag start data semicolon code tail : List Char,
        tag ++ (start ++ data) <+: tag ++ (start ++ data ++ semicolon ++ code) ++ tail :=
      fun tag _ _ semicolon code tail => ⟨semicolon ++ code ++ tail, by simp⟩
    exact hstart _ _ _ _ _ _
  · obtain ⟨items, hparse, hslots⟩ := exists_slots r.charts
    refine ⟨items, hparse, hslots, ?_⟩
    rw [Page.canvasIds_body, Page.unescape_slotIds]

/-- Only the time at which the report was made is different, and no page shows it. -/
theorem body_faithful_laterReport :
    (filledWith "</p>\n  <p>&lt;" 0).shown =
      { filledWith "</p>\n  <p>&lt;" 0 with generatedAt := ⟨1, 0, secondNanos_pos⟩ }.shown :=
  body_faithful.2.1 _ _ rfl

end Report

end BenchReport
