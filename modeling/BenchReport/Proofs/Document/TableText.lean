import BenchReport.Document.Markdown
import BenchReport.Proofs.Document.Tables
import BenchReport.Proofs.Report.Structure

/-!
# Figures can be read from the plain tables

The document in plain text consists of blocks, one for the headline figures and one for every
section.  Labels and units are fixed and numbers are plain, so every table can be read back.

## Main definitions

* `Markdown.tableBlock` — a block that consists of a heading, some lines and a table.
* `Report.markdownBlocks` — the blocks of the document.
* `Report.Tabular` — a report that can be read from its tables.

## Main results

* `Report.toList_markdownTables` — the document is the text of its blocks.
* `Report.Tabular.lines_markdownTables` — the lines of the document are those of its blocks.
* `Report.tabular_ofFigures` — every report of figures is tabular.
* `Report.markdown_assemble` — **the document has the figures of the report.**
-/

namespace BenchReport

namespace Markdown

/-! ### Writing blocks -/

/-- The line of a text that is not in a table. -/
structure IsProse (line : List Char) : Prop where
  noBreak : '\n' ∉ line
  noTable : isTableLine line = false
  noHeading : isHeading line = false
  noNote : line ≠ notLocatedNote.toList

instance (line : List Char) : Decidable (IsProse line) :=
  decidable_of_iff ('\n' ∉ line ∧ isTableLine line = false ∧ isHeading line = false ∧
      line ≠ notLocatedNote.toList)
    ⟨fun ⟨h₁, h₂, h₃, h₄⟩ => ⟨h₁, h₂, h₃, h₄⟩, fun ⟨h₁, h₂, h₃, h₄⟩ => ⟨h₁, h₂, h₃, h₄⟩⟩

/-- Lines, each with its line break. -/
def unlines (lines : List (List Char)) : List Char := lines.flatMap (· ++ ['\n'])

/-- The rule under the head of a table. -/
def ruleLine (rule : String) : List Char := ('|' :: rule.toList) ++ "|------:|------|".toList

/-- The head of a table and the rule under it. -/
def headLines (first rule : String) : List (List Char) :=
  [rowLine first.toList "Value".toList "Unit".toList, ruleLine rule]

theorem unlines_append (front back : List (List Char)) :
    unlines (front ++ back) = unlines front ++ unlines back := List.flatMap_append

theorem toList_markdownRow (first second third : String) :
    (markdownRow first second third).toList =
      rowLine first.toList second.toList third.toList ++ ['\n'] := by
  simp [markdownRow, rowLine]

theorem toList_markdownHead (first rule : String) :
    (markdownHead first rule).toList = unlines (headLines first rule) := by
  simp [markdownHead, toList_markdownRow, unlines, headLines, ruleLine]

/-- A block that consists of a heading, some lines and a table. -/
def tableBlock (title : String) (front : List (List Char)) (first rule : String)
    (rows : List (List Char)) : Block :=
  ⟨"## ".toList ++ title.toList, front ++ headLines first rule ++ rows ++ [[]]⟩

section TableBlock

variable {title : String} {front : List (List Char)} {first rule : String}
  {rows : List (List Char)}

/-- The lines of such a block. -/
theorem forall_mem_tableBlock {p : List Char → Prop} (hfront : ∀ line ∈ front, p line)
    (hhead : ∀ line ∈ headLines first rule, p line) (hrows : ∀ line ∈ rows, p line) (hnil : p []) :
    ∀ line ∈ (tableBlock title front first rule rows).lines, p line := by
  rw [tableBlock]
  simp only [List.forall_mem_append]
  exact ⟨⟨⟨hfront, hhead⟩, hrows⟩, List.forall_mem_singleton.2 hnil⟩

theorem headed_tableBlock (hfront : ∀ line ∈ front, isHeading line = false)
    (hrows : ∀ line ∈ rows, isTableLine line) :
    (tableBlock title front first rule rows).Headed where
  heading := rfl
  lines := by
    refine forall_mem_tableBlock hfront ?_ (fun line hline => ?_) rfl
    · rw [headLines, List.forall_mem_cons, List.forall_mem_singleton]
      exact ⟨rfl, rfl⟩
    · exact (of_isTableLine (hrows line hline)).1

/-- The table of such a block is what it was made of. -/
theorem bodyLines_tableBlock (hfront : ∀ line ∈ front, isTableLine line = false)
    (hrule : isRule (ruleLine rule)) (hrows : ∀ line ∈ rows, isTableLine line) :
    bodyLines (tableBlock title front first rule rows).lines = rows := by
  have hhead : bodyLines (headLines first rule ++ (rows ++ [[]])) = bodyLines (rows ++ [[]]) := by
    rw [headLines, List.cons_append, List.singleton_append, bodyLines, if_pos isTableLine_rowLine,
      if_pos hrule]
  have hbehind : bodyLines (rows ++ [[]]) = rows := by
    rw [bodyLines_append rows (by simp [isRule]), bodyLines_eq_self hrows]
    simp [bodyLines, isTableLine]
  rw [tableBlock, List.append_assoc, List.append_assoc, bodyLines_append front,
    bodyLines_eq_nil hfront, hhead, hbehind, List.nil_append]
  rintro _ ⟨⟩
  exact (of_isTableLine isTableLine_rowLine).2

/-- A line that is neither blank nor of a table stands before the table. -/
theorem mem_tableBlock {line : List Char} (hne : line ≠ []) (htable : isTableLine line = false)
    (hrule : line ≠ ruleLine rule) (hrows : ∀ row ∈ rows, isTableLine row) :
    line ∈ (tableBlock title front first rule rows).lines ↔ line ∈ front := by
  have hrow : line ∉ rows := fun h => Bool.false_ne_true (htable.symm.trans (hrows line h))
  have hhead : line ∉ headLines first rule := by
    rw [headLines, List.mem_pair]
    rintro (rfl | rfl)
    · exact Bool.false_ne_true (htable.symm.trans isTableLine_rowLine)
    · exact hrule rfl
  simp [tableBlock, hrow, hhead, hne]

/-- Such a block as text. -/
theorem unlines_tableBlock {α : Type} (items : List α) {text : α → String}
    {line : α → List Char} (h : ∀ a, (text a).toList = line a ++ ['\n']) :
    unlines (tableBlock title front first rule (items.map line)).all =
      "## ".toList ++ title.toList ++ '\n' :: unlines front ++
        (markdownHead first rule ++ String.join (items.map text)).toList ++ ['\n'] := by
  have hitems : (String.join (items.map text)).toList = unlines (items.map line) := by
    rw [String.toList_join, List.flatMap_map, unlines, List.flatMap_map]
    exact List.flatMap_congr fun a _ => h a
  rw [String.toList_append, hitems, toList_markdownHead, Block.all, tableBlock]
  simp [unlines]

end TableBlock

end Markdown

open Markdown

/-- The line of a card. -/
def Card.line (c : Card) : List Char := rowLine c.label.toList c.display.toList c.unit.toList

/-- The line of a row. -/
def Row.line (r : Row) : List Char := rowLine r.label.toList r.display.toList r.unit.toList

theorem Card.toList_markdown (c : Card) : c.markdown.toList = c.line ++ ['\n'] :=
  toList_markdownRow ..

theorem Row.toList_markdown (r : Row) : r.markdown.toList = r.line ++ ['\n'] :=
  toList_markdownRow ..

/-- What a card shows in a table. -/
def Card.texts (c : Card) : List String := [c.label, c.display, c.unit]

/-- What a row shows in a table. -/
def Row.texts (r : Row) : List String := [r.label, r.display, r.unit]

/-- What stands before the table of a section. -/
def Section.frontLines (s : Section) : List (List Char) :=
  [[], s.description.toList, []] ++ if s.located then [] else [notLocatedNote.toList, []]

/-- The block of a section. -/
def Section.block (s : Section) : Block :=
  tableBlock s.title s.frontLines "Test" "------" (s.table.rows.map Row.line)

/-- A section begins with a line break, and ends without one. -/
theorem Section.toList_markdown (s : Section) :
    s.markdown.toList ++ ['\n'] = '\n' :: unlines s.block.all := by
  have hfront : unlines s.frontLines = "\n".toList ++ s.description.toList ++ "\n\n".toList ++
      (if s.located then "" else notLocatedNote ++ "\n\n").toList := by
    rw [frontLines]
    cases s.located <;> simp [unlines]
  rw [markdown, block, unlines_tableBlock _ Row.toList_markdown, hfront]
  simp

namespace Report

/-- The block of the headline figures. -/
def summaryBlock (r : Report) : Block :=
  tableBlock "Summary" [[]] "Metric" "--------" (r.cards.map Card.line)

/-- The document without what stands before the summary. -/
def markdownTables (r : Report) : String :=
  r.markdownSummary ++ String.join (r.sections.map Section.markdown)

/-- The blocks of the document. -/
def markdownBlocks (r : Report) : List Block := r.summaryBlock :: r.sections.map Section.block

theorem markdown_eq (r : Report) : r.markdown = r.markdownOpening ++ r.markdownTables := by
  rw [markdown, markdownTables, String.append_assoc]

/-- What stands before the summary ends with a line break, so the summary begins a line. -/
theorem lines_markdown (r : Report) :
    lines r.markdown = (lines r.markdownOpening).dropLast ++ lines r.markdownTables := by
  obtain ⟨front, hfront⟩ : ∃ front, r.markdownOpening.toList = front ++ ['\n'] := by
    rw [markdownOpening]
    split
    · exact ⟨("# " ++ r.project ++ " Benchmark Results\n\n" ++ "**Timestamp:** " ++ r.timestamp ++
        "\n").toList, by simp⟩
    · exact ⟨("# " ++ r.project ++ " Benchmark Results\n\n" ++ "**Timestamp:** " ++ r.timestamp ++
        "\n\n" ++ " · ".intercalate r.badges ++ "\n").toList, by simp⟩
  have hopening : lines r.markdownOpening = Text.split '\n' front ++ [[]] := by
    rw [lines, hfront, Text.split_append_cons]
    rfl
  rw [hopening, List.dropLast_concat, markdown_eq, lines, lines, String.toList_append, hfront,
    List.append_assoc, List.singleton_append, Text.split_append_cons]

theorem toList_markdownSummary (r : Report) :
    r.markdownSummary.toList ++ ['\n'] = unlines r.summaryBlock.all := by
  rw [markdownSummary, summaryBlock, unlines_tableBlock _ Card.toList_markdown]
  simp [unlines]

/-- The document is the text of its blocks, but for the last line break. -/
theorem toList_markdownTables (r : Report) :
    r.markdownTables.toList ++ ['\n'] = unlines (r.markdownBlocks.flatMap Block.all) := by
  -- the line break that a section begins with is the last one of the text before
  have hsections : ∀ sections : List Section,
      '\n' :: unlines ((sections.map Section.block).flatMap Block.all) =
        (String.join (sections.map Section.markdown)).toList ++ ['\n'] := by
    intro sections
    induction sections with
    | nil => rfl
    | cons s sections ih =>
      rw [List.map_cons, List.flatMap_cons, unlines_append, List.map_cons, String.join_cons,
        String.toList_append, List.append_assoc, ← ih, ← List.cons_append, ← s.toList_markdown,
        List.append_assoc, List.singleton_append]
  rw [markdownTables, String.toList_append, List.append_assoc, ← hsections, markdownBlocks,
    List.flatMap_cons, unlines_append, ← toList_markdownSummary, List.append_assoc,
    List.singleton_append]

/-! ### Documents that can be read -/

/-- The report can be read from its tables. -/
structure Tabular (r : Report) : Prop where
  cards : ∀ c ∈ r.cards, IsCell c.label.toList ∧ IsCell c.display.toList ∧ IsCell c.unit.toList
  rows : ∀ s ∈ r.sections, ∀ row ∈ s.table.rows,
    IsCell row.label.toList ∧ IsCell row.display.toList ∧ IsCell row.unit.toList
  titles : ∀ s ∈ r.sections, '\n' ∉ s.title.toList
  descriptions : ∀ s ∈ r.sections, IsProse s.description.toList

end Report

theorem Suite.noBreak_title (suite : Suite) : '\n' ∉ suite.title.toList := by
  cases suite <;> decide

theorem Suite.isProse_description (suite : Suite) : IsProse suite.description.toList := by
  cases suite <;> decide

theorem Card.isTableLine_line (c : Card) : isTableLine c.line := isTableLine_rowLine

theorem Row.isTableLine_line (r : Row) : isTableLine r.line := isTableLine_rowLine

namespace Section

variable {s : Section}

theorem forall_mem_frontLines {p : List Char → Prop} (hdescription : p s.description.toList)
    (hnil : p []) (hnote : p notLocatedNote.toList) : ∀ line ∈ s.frontLines, p line := by
  rw [frontLines]
  cases s.located <;> simp [hdescription, hnil, hnote]

theorem headed_block (h : IsProse s.description.toList) : s.block.Headed :=
  headed_tableBlock (forall_mem_frontLines h.noHeading rfl (by decide))
    (List.forall_mem_map.2 fun row _ => row.isTableLine_line)

theorem bodyLines_block (h : IsProse s.description.toList) :
    bodyLines s.block.lines = s.table.rows.map Row.line :=
  bodyLines_tableBlock (forall_mem_frontLines h.noTable rfl (by decide)) (by decide)
    (List.forall_mem_map.2 fun row _ => row.isTableLine_line)

/-- The note stands in the block of a section that is not located. -/
theorem note_mem_block_iff (h : IsProse s.description.toList) :
    notLocatedNote.toList ∈ s.block.lines ↔ s.located = false := by
  have hne : notLocatedNote.toList ≠ [] := by decide
  rw [block, mem_tableBlock hne (by decide) (by decide)
    (List.forall_mem_map.2 fun row _ => row.isTableLine_line), frontLines]
  cases s.located <;> simp [hne, h.noNote.symm]

end Section

namespace Report

variable {r : Report}

theorem headed_summaryBlock : r.summaryBlock.Headed :=
  headed_tableBlock (List.forall_mem_singleton.2 rfl)
    (List.forall_mem_map.2 fun c _ => c.isTableLine_line)

theorem bodyLines_summaryBlock : bodyLines r.summaryBlock.lines = r.cards.map Card.line :=
  bodyLines_tableBlock (List.forall_mem_singleton.2 rfl) (by decide)
    (List.forall_mem_map.2 fun c _ => c.isTableLine_line)

theorem note_notMem_summaryBlock : notLocatedNote.toList ∉ r.summaryBlock.lines := by
  rw [summaryBlock, mem_tableBlock (by decide) (by decide) (by decide)
    (List.forall_mem_map.2 fun c _ => c.isTableLine_line)]
  decide

namespace Tabular

theorem headed (h : r.Tabular) : ∀ b ∈ r.markdownBlocks, b.Headed := by
  rw [markdownBlocks, List.forall_mem_cons]
  exact ⟨headed_summaryBlock, List.forall_mem_map.2 fun s hs =>
    Section.headed_block (h.descriptions s hs)⟩

/-- No line of the blocks has a line break in it. -/
theorem noBreak (h : r.Tabular) : ∀ line ∈ r.markdownBlocks.flatMap Block.all, '\n' ∉ line := by
  have hsummary : ∀ line ∈ r.summaryBlock.all, '\n' ∉ line := by
    have hheading : '\n' ∉ "## ".toList ++ "Summary".toList := by decide
    refine List.forall_mem_cons.2 ⟨hheading, forall_mem_tableBlock (by decide) (by decide)
      (List.forall_mem_map.2 fun c hc => ?_) List.not_mem_nil⟩
    obtain ⟨hlabel, hdisplay, hunit⟩ := h.cards c hc
    exact noBreak_rowLine hlabel hdisplay hunit
  have hsection : ∀ s ∈ r.sections, ∀ line ∈ s.block.all, '\n' ∉ line := by
    intro s hs
    have hheading : '\n' ∉ "## ".toList ++ s.title.toList := by
      rw [List.mem_append, not_or]
      exact ⟨by decide, h.titles s hs⟩
    refine List.forall_mem_cons.2 ⟨hheading, forall_mem_tableBlock
      (Section.forall_mem_frontLines (h.descriptions s hs).noBreak List.not_mem_nil (by decide))
      (by decide) (List.forall_mem_map.2 fun row hrow => ?_) List.not_mem_nil⟩
    obtain ⟨hlabel, hdisplay, hunit⟩ := h.rows s hs row hrow
    exact noBreak_rowLine hlabel hdisplay hunit
  rw [markdownBlocks, List.flatMap_cons, List.flatMap_map, List.forall_mem_append]
  refine ⟨hsummary, fun line hline => ?_⟩
  obtain ⟨s, hs, hline⟩ := List.mem_flatMap.1 hline
  exact hsection s hs line hline

/-- The lines of the document are those of its blocks. -/
theorem lines_markdownTables (h : r.Tabular) :
    lines r.markdownTables = r.markdownBlocks.flatMap Block.all := by
  have hsplit := Text.split_append_cons '\n' r.markdownTables.toList []
  rw [toList_markdownTables, unlines, Text.split_lines h.noBreak] at hsplit
  exact List.append_cancel_right hsplit.symm

theorem cells_summaryBlock (h : r.Tabular) :
    (bodyLines r.summaryBlock.lines).map cells = r.cards.map Card.texts := by
  rw [bodyLines_summaryBlock, List.map_map]
  refine List.map_congr_left fun c hc => ?_
  obtain ⟨hlabel, hdisplay, hunit⟩ := h.cards c hc
  simpa [Card.line, Card.texts] using cells_rowLine hlabel hdisplay hunit

theorem cells_block (h : r.Tabular) {s : Section} (hs : s ∈ r.sections) :
    (bodyLines s.block.lines).map cells = s.table.rows.map Row.texts := by
  rw [Section.bodyLines_block (h.descriptions s hs), List.map_map]
  refine List.map_congr_left fun row hrow => ?_
  obtain ⟨hlabel, hdisplay, hunit⟩ := h.rows s hs row hrow
  simpa [Row.line, Row.texts] using cells_rowLine hlabel hdisplay hunit

/-- The tables of the document hold the figures in order. -/
theorem cells_bodyLines (h : r.Tabular) :
    (bodyLines (lines r.markdownTables)).map cells =
      r.cards.map Card.texts ++ r.sections.flatMap (·.table.rows.map Row.texts) := by
  rw [h.lines_markdownTables, bodyLines_flatMap h.headed, List.map_flatMap, markdownBlocks,
    List.flatMap_cons, List.flatMap_map, h.cells_summaryBlock]
  exact congrArg _ (List.flatMap_congr fun s hs => h.cells_block hs)

/-- Each block of the document is headed by its title and holds its own figures, and the note when
its suite is not located. -/
theorem blocks_lines (h : r.Tabular) :
    (blocks (lines r.markdownTables)).map (fun b => (String.ofList b.heading,
        (bodyLines b.lines).map cells, decide (notLocatedNote.toList ∈ b.lines))) =
      ("## Summary", r.cards.map Card.texts, false) ::
        r.sections.map fun s => ("## " ++ s.title, s.table.rows.map Row.texts, !s.located) := by
  rw [h.lines_markdownTables, blocks_flatMap h.headed, markdownBlocks, List.map_cons, List.map_map,
    h.cells_summaryBlock, decide_eq_false note_notMem_summaryBlock]
  have hsummary : String.ofList r.summaryBlock.heading = "## Summary" := by
    show String.ofList ("## ".toList ++ "Summary".toList) = "## Summary"
    decide
  rw [hsummary]
  refine congrArg _ (List.map_congr_left fun s hs => ?_)
  have hheading : String.ofList s.block.heading = "## " ++ s.title := by
    rw [Section.block, tableBlock, ← String.toList_append, String.ofList_toList]
  have hnote : decide (notLocatedNote.toList ∈ s.block.lines) = !s.located := by
    simp [Section.note_mem_block_iff (h.descriptions s hs)]
  rw [Function.comp_apply, hheading, h.cells_block hs, hnote]

end Tabular

/-! ### Reports of figures can be read -/

variable (figures : Figures) (located : Suite → Bool) (source : Option Instant)
  (generatedAt : Instant) (settings : Settings)

theorem isCell_of_mem_cards (suite : Suite) : ∀ c ∈ (Outline.of suite).cards,
    IsCell c.label.toList ∧ IsCell c.unit.toList := by
  cases suite <;> decide

theorem isCell_of_mem_rows (suite : Suite) : ∀ row ∈ (Outline.of suite).rows,
    IsCell row.label.toList ∧ IsCell row.unit.toList := by
  cases suite <;> decide

theorem isCell_text (c : CardOutline) (x : Option Binary64) : IsCell (c.text x).toList := by
  rw [CardOutline.text]
  split
  · exact isCell_of_isPlain (Label.isPlain_percentFigure x _)
  · exact isCell_of_isPlain (Label.isPlain_figure x _)

/-- Every report of figures can be read from its tables. -/
theorem tabular_ofFigures : (ofFigures figures located source generatedAt settings).Tabular where
  cards := by
    intro c hc
    obtain ⟨suite, -, hc⟩ := List.mem_flatMap.1 hc
    obtain ⟨outline, hmem, rfl⟩ := List.mem_map.1 hc
    obtain ⟨hlabel, hunit⟩ := isCell_of_mem_cards suite outline hmem
    exact ⟨hlabel, isCell_text outline _, hunit⟩
  rows := by
    intro s hs row hrow
    obtain ⟨suite, -, rfl⟩ := List.mem_map.1 hs
    obtain ⟨outline, hmem, hfill⟩ := List.mem_filterMap.1 hrow
    have hframe := RowOutline.frame_of_fill? hfill
    rw [Row.frame, RowOutline.frame, Prod.mk.injEq, Prod.mk.injEq] at hframe
    obtain ⟨hlabel, hunit⟩ := isCell_of_mem_rows suite outline hmem
    rw [hframe.1, hframe.2.1]
    exact ⟨hlabel, isCell_of_isPlain (Label.isPlain_grouped row.value row.places), hunit⟩
  titles := by
    intro s hs
    obtain ⟨suite, -, rfl⟩ := List.mem_map.1 hs
    exact suite.noBreak_title
  descriptions := by
    intro s hs
    obtain ⟨suite, -, rfl⟩ := List.mem_map.1 hs
    exact suite.isProse_description

/-- **The document has the figures of the report.**  From the heading of the summary on, the lines
of its tables are those of the cards and then those of the rows of every section, each with what the
card or the row shows; they stand under the headings of their sections, and the note that there is
no result file stands in the sections of the suites that have none. -/
theorem markdown_assemble (inputs : Inputs) (generatedAt : Instant) (settings : Settings) :
    let r := assemble inputs generatedAt settings
    r.markdown = r.markdownOpening ++ r.markdownTables ∧
    lines r.markdown = (lines r.markdownOpening).dropLast ++ lines r.markdownTables ∧
    (lines r.markdownTables).head? = some "## Summary".toList ∧
    (bodyLines (lines r.markdownTables)).map cells =
      r.cards.map (fun c => [c.label, c.display, c.unit]) ++
        r.sections.flatMap (·.table.rows.map fun row => [row.label, row.display, row.unit]) ∧
    (blocks (lines r.markdownTables)).map (fun b => (String.ofList b.heading,
        (bodyLines b.lines).map cells, decide (notLocatedNote.toList ∈ b.lines))) =
      ("## Summary", r.cards.map (fun c => [c.label, c.display, c.unit]), false) ::
        r.sections.map fun s => ("## " ++ s.title,
          s.table.rows.map (fun row => [row.label, row.display, row.unit]),
          !(inputs.results s.suite).isLocated) := by
  intro r
  have h : r.Tabular := tabular_ofFigures ..
  refine ⟨r.markdown_eq, r.lines_markdown, ?_, h.cells_bodyLines, h.blocks_lines.trans ?_⟩
  · have hheading : some r.summaryBlock.heading = some "## Summary".toList :=
      congrArg some (by decide : "## ".toList ++ "Summary".toList = "## Summary".toList)
    rw [h.lines_markdownTables, ← hheading]
    rfl
  · refine congrArg _ (List.map_congr_left fun s hs => ?_)
    rw [located_of_mem_ofFigures _ _ _ _ _ hs]
    rfl

end Report

end BenchReport
