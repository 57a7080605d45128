import BenchReport.Proofs.Document.TableText
import BenchReport.Proofs.Report.Timestamp
import BenchReport.Proofs.Text.Split

/-!
# The summary stands in columns

The summary has one line for every headline figure.  On each of them the label is filled up to the
longest label, so the figures end in one column and the units begin in one, as long as the figures
have room in theirs.  Columns are counted in characters.

## Main definitions

* `Card.Unbroken` — a card whose texts have no line break.
* `Card.Fills` — a line shows a card beside labels of a width.
* `Report.linesBelow` — the lines below the title.

## Main results

* `Report.labelWidth_le_iff` — the width of the labels is that of the longest one.
* `Card.Fills.columns` — where the figure ends and the unit begins.
* `Report.lines_summary` — the lines of the summary.
* `Report.unbroken_assemble` — the cards of assembled reports have no line break.
* `Report.summary_aligned` — **the summary stands in columns.**
-/

namespace BenchReport

/-! ### The line of a card -/

namespace Card

/-- The texts that the summary shows of the card have no line break. -/
structure Unbroken (c : Card) : Prop where
  label : '\n' ∉ c.label.toList
  display : '\n' ∉ c.display.toList
  unit : '\n' ∉ c.unit.toList

/-- The line shows the card beside labels of a width: the label and blanks up to the width, two
blanks, the figure with blanks in front of it up to eight characters, two blanks, and the unit. -/
def Fills (c : Card) (width : Nat) (line : List Char) : Prop :=
  ∃ gap lead, c.label.length + gap = width ∧ lead + c.display.length = max 8 c.display.length ∧
    line = c.label.toList ++ List.replicate gap ' ' ++ [' ', ' '] ++
      (List.replicate lead ' ' ++ c.display.toList) ++ [' ', ' '] ++ c.unit.toList

/-- The line of the card in the summary, without the line break. -/
def columnLine (width : Nat) (c : Card) : List Char :=
  (Text.padRight width c.label).toList ++ [' ', ' '] ++
    (Text.padLeft figureWidth c.display).toList ++ [' ', ' '] ++ c.unit.toList

variable {c : Card} {width : Nat} {line : List Char}

theorem toList_summaryLine (width : Nat) (c : Card) :
    (c.summaryLine width).toList = c.columnLine width ++ ['\n'] := by
  simp [summaryLine, columnLine]

/-- A label that is not too long leaves the line with its columns. -/
theorem fills_columnLine (h : c.label.length ≤ width) : c.Fills width (c.columnLine width) := by
  refine ⟨width - c.label.length, 8 - c.display.length, by omega, by omega, ?_⟩
  simp [columnLine, Text.padRight, Text.padLeft, Text.filling, figureWidth]

/-- **Where the figure ends and the unit begins.** -/
theorem Fills.columns (h : c.Fills width line) :
    c.display.toList <:+ line.take (width + 2 + max 8 c.display.length) ∧
      line.drop (width + 4 + max 8 c.display.length) = c.unit.toList := by
  obtain ⟨gap, lead, hgap, hlead, rfl⟩ := h
  have hfront : (c.label.toList ++ List.replicate gap ' ' ++ [' ', ' '] ++
      (List.replicate lead ' ' ++ c.display.toList)).length =
        width + 2 + max 8 c.display.length := by
    simp only [List.length_append, String.length_toList, List.length_replicate,
      List.length_cons, List.length_nil]
    omega
  constructor
  · rw [List.append_assoc, List.take_left' hfront, ← List.append_assoc]
    exact List.suffix_append _ _
  · apply List.drop_left'
    rw [List.length_append, hfront]
    simp only [List.length_cons, List.length_nil]
    omega

theorem Unbroken.columnLine (h : c.Unbroken) (width : Nat) : '\n' ∉ c.columnLine width := by
  simp [Card.columnLine, Text.padRight, Text.padLeft, Text.filling, h.label, h.display, h.unit]

end Card

/-! ### The lines of a summary -/

namespace Report

/-- **The width of the labels is that of the longest one**, and zero when there is none. -/
theorem labelWidth_le_iff {r : Report} {bound : Nat} :
    r.labelWidth ≤ bound ↔ ∀ c ∈ r.cards, c.label.length ≤ bound := by
  rw [labelWidth, List.foldl_max, Nat.zero_max, ← List.forall_mem_map (P := (· ≤ bound))]
  cases hlongest : (r.cards.map (·.label.length)).max? with
  | none =>
    rw [List.max?_eq_none_iff.1 hlongest, Option.getD_none]
    exact iff_of_true (Nat.zero_le bound) (List.forall_mem_nil _)
  | some width => exact List.max?_le_iff hlongest

/-- The words that say how many of the sections have a result file. -/
def countText (r : Report) : String :=
  "Suites found: " ++ toString (r.sections.countP (·.located)) ++ "/" ++
    toString r.sections.length

theorem countLine_eq (r : Report) : r.countLine = r.countText ++ "\n" := by
  unfold countLine countText locatedCount
  rw [List.countP_eq_length_filter]

theorem newline_notMem_countText (r : Report) : '\n' ∉ r.countText.toList := by
  have hdigits (n : Nat) : '\n' ∉ (toString n).toList := by
    rw [Nat.toString_eq_repr, Nat.toList_repr]
    exact fun h => absurd (Text.isDigit_of_mem_digits h) (by decide)
  unfold countText
  simp only [String.toList_append, List.mem_append, hdigits, or_false]
  decide

/-- What stands in the summary below its title. -/
def linesBelow (r : Report) : List (List Char) :=
  [List.replicate 60 '=', ("Results from: " ++ r.timestamp).toList, r.countText.toList,
    List.replicate 60 '-'] ++ r.cards.map (Card.columnLine r.labelWidth) ++ [List.replicate 60 '=']

theorem newline_notMem_linesBelow {r : Report} (h : ∀ c ∈ r.cards, c.Unbroken) :
    ∀ line ∈ r.linesBelow, '\n' ∉ line := by
  have htime : '\n' ∉ ("Results from: " ++ r.timestamp).toList := by
    rw [String.toList_append, List.mem_append, timestamp]
    exact not_or.2 ⟨by decide, newline_notMem_sourceText r.source⟩
  have hcards : ∀ line ∈ r.cards.map (Card.columnLine r.labelWidth), '\n' ∉ line := by
    rw [List.forall_mem_map]
    exact fun c hc => (h c hc).columnLine r.labelWidth
  intro line hline
  simp only [linesBelow, List.mem_append, List.mem_cons, List.not_mem_nil, or_false] at hline
  rcases hline with ((rfl | rfl | rfl | rfl) | hline) | rfl
  · decide
  · exact htime
  · exact newline_notMem_countText r
  · decide
  · exact hcards line hline
  · decide

theorem toList_summary (r : Report) :
    r.summary.toList = List.replicate 60 '=' ++ '\n' ::
      (("SUMMARY: " ++ r.project ++ " benchmarks").toList ++ '\n' ::
        r.linesBelow.flatMap (· ++ ['\n'])) := by
  have htitle : " benchmarks\n".toList = " benchmarks".toList ++ ['\n'] := by decide
  have hbreak : "\n".toList = ['\n'] := by decide
  simp only [summary, summaryOpening, ruler, countLine_eq, linesBelow, String.toList_append,
    String.toList_join, String.toList_ofList, htitle, hbreak, List.flatMap_append,
    List.flatMap_cons, List.flatMap_nil, List.flatMap_map, Card.toList_summaryLine,
    List.append_assoc, List.cons_append, List.nil_append]

/-- **The lines of the summary.**  The title may have line breaks of its own, from the name of the
project; nothing else has. -/
theorem lines_summary {r : Report} (h : ∀ c ∈ r.cards, c.Unbroken) :
    Text.split '\n' r.summary.toList =
      [List.replicate 60 '='] ++
        Text.split '\n' ("SUMMARY: " ++ r.project ++ " benchmarks").toList ++
        r.linesBelow ++ [[]] := by
  have hrule : '\n' ∉ List.replicate 60 '=' := by decide
  rw [toList_summary, Text.split_append_cons, Text.split_eq_singleton hrule,
    Text.split_append_cons, Text.split_lines (newline_notMem_linesBelow h), List.append_assoc,
    List.append_assoc]

/-- The cards of every assembled report have no line break. -/
theorem unbroken_assemble (inputs : Inputs) (generatedAt : Instant) (settings : Settings) :
    ∀ c ∈ (assemble inputs generatedAt settings).cards, c.Unbroken := by
  have htabular : (assemble inputs generatedAt settings).Tabular := tabular_ofFigures ..
  intro c hc
  obtain ⟨hlabel, hdisplay, hunit⟩ := htabular.cards c hc
  exact ⟨hlabel.noBreak, hdisplay.noBreak, hunit.noBreak⟩

/-- **The summary stands in columns.**  Between rules stand the title, the time of the results and
the count of the sections with a result file, and below them a line for every card in order.  Each
label is filled up to the longest, so every figure of at most eight characters ends in one column
and its unit begins in one. -/
theorem summary_aligned (r : Report) (h : ∀ c ∈ r.cards, c.Unbroken) :
    (∀ bound, r.labelWidth ≤ bound ↔ ∀ c ∈ r.cards, c.label.length ≤ bound) ∧
      ∃ lines, Text.split '\n' r.summary.toList =
          [List.replicate 60 '='] ++
            Text.split '\n' ("SUMMARY: " ++ r.project ++ " benchmarks").toList ++
            [List.replicate 60 '=', ("Results from: " ++ r.timestamp).toList,
              ("Suites found: " ++ toString (r.sections.countP (·.located)) ++ "/" ++
                toString r.sections.length).toList,
              List.replicate 60 '-'] ++ lines ++ [List.replicate 60 '=', []] ∧
        List.Forall₂ (fun c line => c.Fills r.labelWidth line ∧
          (c.display.length ≤ 8 → c.display.toList <:+ line.take (r.labelWidth + 10) ∧
            line.drop (r.labelWidth + 12) = c.unit.toList)) r.cards lines := by
  refine ⟨fun bound => labelWidth_le_iff, r.cards.map (Card.columnLine r.labelWidth), ?_, ?_⟩
  · rw [lines_summary h, linesBelow]
    unfold countText
    simp only [List.append_assoc, List.cons_append, List.nil_append]
  · rw [List.forall₂_map_right_iff, List.forall₂_same]
    intro c hc
    have hfills := Card.fills_columnLine (labelWidth_le_iff.1 (Nat.le_refl _) c hc)
    refine ⟨hfills, fun hshort => ?_⟩
    have hcolumns := hfills.columns
    rw [Nat.max_eq_left hshort] at hcolumns
    exact hcolumns

/-- A report whose first label has fewer characters than bytes, and whose second figure is wider
than its column. -/
def wideFigure : Report where
  project := "two\nlines"
  subtitle := ""
  generatedAt := ⟨0, 0, secondNanos_pos⟩
  source := none
  badges := []
  cards := [⟨"Größe", .nan, "1,024", "KB", .blue⟩, ⟨"Ω", .nan, "1234567890", "", .blue⟩]
  sections := [⟨.cache, "", "", "", true, [], ⟨"", []⟩⟩, ⟨.proxy, "", "", "", false, [], ⟨"", []⟩⟩]

theorem summary_aligned_wideFigure :
    (∀ c ∈ wideFigure.cards, c.Unbroken) ∧ wideFigure.labelWidth = 5 ∧
      ∃ first second, Text.split '\n' wideFigure.summary.toList =
          [List.replicate 60 '=', "SUMMARY: two".toList, "lines benchmarks".toList,
            List.replicate 60 '=', "Results from: unknown".toList, "Suites found: 1/2".toList,
            List.replicate 60 '-', first, second, List.replicate 60 '=', []] ∧
        first.drop 17 = "KB".toList ∧ second = "Ω      1234567890  ".toList := by
  have hcards : ∀ c ∈ wideFigure.cards, c.Unbroken := by
    rw [wideFigure, List.forall_mem_cons, List.forall_mem_singleton]
    exact ⟨⟨by decide, by decide, by decide⟩, ⟨by decide, by decide, by decide⟩⟩
  have hwidth : wideFigure.labelWidth = 5 := by decide
  obtain ⟨-, lines, hsplit, hlines⟩ := summary_aligned wideFigure hcards
  obtain ⟨first, others, ⟨-, hfirst⟩, hothers, rfl⟩ := List.forall₂_cons_left_iff.1 hlines
  obtain ⟨second, tail, ⟨hsecond, -⟩, htail, rfl⟩ := List.forall₂_cons_left_iff.1 hothers
  obtain rfl := List.forall₂_nil_left_iff.1 htail
  refine ⟨hcards, hwidth, first, second, hsplit.trans ?_, ?_, ?_⟩
  · rfl
  · have := (hfirst (by decide)).2
    rw [hwidth] at this
    exact this
  · obtain ⟨gap, lead, hgap, hlead, rfl⟩ := hsecond
    rw [hwidth] at hgap
    obtain rfl : gap = 4 := Nat.add_left_cancel hgap
    obtain rfl : lead = 0 := Nat.add_right_cancel (hlead.trans (Nat.zero_add _).symm)
    decide

end Report

end BenchReport
