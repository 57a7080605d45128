import BenchReport.Proofs.Label.Alphabet
import BenchReport.Proofs.Text.Split
import BenchReport.Proofs.Text.Trim
import Mathlib.Data.List.Basic

/-!
# Reading tables in plain text

A document in plain text is read line by line.  Headings divide it into blocks, lines that begin
with a bar make up tables, and a line with a rule under it is the head of a table.  Cells are not
escaped, so all depends on what stands in them: a text can be read back when it has no bars, no line
breaks and no blanks at its ends.

## Main definitions

* `Markdown.lines`, `Markdown.blocks` — the lines of a text, and its blocks.
* `Markdown.bodyLines`, `Markdown.cells` — the lines of tables but their heads, and their cells.
* `Markdown.IsCell` — what may stand in a cell.

## Main results

* `Markdown.isCell_of_isPlain` — what numbers are shown as may stand in a cell.
* `Markdown.cells_rowLine` — **cells are read back.**
* `Markdown.blocks_flatMap`, `Markdown.bodyLines_flatMap` — **so are blocks and their tables.**
-/

namespace BenchReport

namespace Markdown

/-! ### Reading tables -/

/-- The lines of a text. -/
def lines (text : String) : List (List Char) := Text.split '\n' text.toList

/-- The line is a heading of the second level. -/
def isHeading (line : List Char) : Bool := ['#', '#', ' '].isPrefixOf line

/-- The line belongs to a table. -/
def isTableLine (line : List Char) : Bool := ['|', ' '].isPrefixOf line

/-- The line is the rule under the head of a table. -/
def isRule (line : List Char) : Bool := ['|', '-'].isPrefixOf line

/-- The lines of tables without the heads, which have a rule under them. -/
def bodyLines : List (List Char) → List (List Char)
  | [] => []
  | [line] => if isTableLine line then [line] else []
  | line :: next :: rest =>
      if isTableLine line then
        if isRule next then bodyLines rest else line :: bodyLines (next :: rest)
      else bodyLines (next :: rest)

/-- A text cut at every bar that has blanks around it. -/
def splitAtBars : List Char → List (List Char)
  | [] => [[]]
  | ' ' :: '|' :: ' ' :: rest => [] :: splitAtBars rest
  | c :: rest => (splitAtBars rest).modifyHead (c :: ·)

/-- The character stands around the cells of a line. -/
def isEdge (c : Char) : Bool := c == '|' || c == ' '

/-- The cells of a line of a table: what is left without the bars and blanks at its ends, cut at
the bars. -/
def cells (line : List Char) : List String :=
  (splitAtBars (Text.trimBy isEdge line)).map String.ofList

/-- A heading and the lines under it, up to the next heading. -/
structure Block where
  heading : List Char
  lines : List (List Char)

/-- All lines of a block. -/
def Block.all (b : Block) : List (List Char) := b.heading :: b.lines

/-- The blocks that lines make up. -/
def blocks : List (List Char) → List Block
  | [] => []
  | line :: rest =>
      if isHeading line then ⟨line, rest.takeWhile (!isHeading ·)⟩ :: blocks rest
      else blocks rest

/-! ### Cells -/

/-- The text may stand in a cell. -/
structure IsCell (text : List Char) : Prop where
  ne_nil : text ≠ []
  noBar : '|' ∉ text
  noBreak : '\n' ∉ text
  first : text.head? ≠ some ' '
  last : text.getLast? ≠ some ' '

instance (text : List Char) : Decidable (IsCell text) :=
  decidable_of_iff (text ≠ [] ∧ '|' ∉ text ∧ '\n' ∉ text ∧ text.head? ≠ some ' ' ∧
      text.getLast? ≠ some ' ')
    ⟨fun ⟨h₁, h₂, h₃, h₄, h₅⟩ => ⟨h₁, h₂, h₃, h₄, h₅⟩,
      fun ⟨h₁, h₂, h₃, h₄, h₅⟩ => ⟨h₁, h₂, h₃, h₄, h₅⟩⟩

/-- What numbers are shown as may stand in a cell. -/
theorem isCell_of_isPlain {text : List Char} (h : Label.IsPlain text) : IsCell text where
  ne_nil := h.ne_nil
  noBar hc := absurd (h.chars '|' hc) (by decide)
  noBreak hc := absurd (h.chars '\n' hc) (by decide)
  first hc := absurd (h.chars ' ' (List.mem_of_head? hc)) (by decide)
  last hc := absurd (h.chars ' ' (List.mem_of_getLast? hc)) (by decide)

/-- A line of a table with three cells. -/
def rowLine (first second third : List Char) : List Char :=
  ['|', ' '] ++ (first ++ [' ', '|', ' '] ++ second ++ [' ', '|', ' '] ++ third) ++ [' ', '|']

theorem splitAtBars_of_notMem {text : List Char} (h : '|' ∉ text) : splitAtBars text = [text] := by
  induction text with
  | nil => rfl
  | cons c text ih =>
    rw [List.mem_cons, not_or] at h
    rw [splitAtBars, ih h.2]
    · rfl
    · rintro rest - rfl
      exact h.2 List.mem_cons_self

/-- A bar with blanks around it cuts a text in two. -/
theorem splitAtBars_append {text : List Char} (h : '|' ∉ text) (rest : List Char) :
    splitAtBars (text ++ [' ', '|', ' '] ++ rest) = text :: splitAtBars rest := by
  induction text with
  | nil => rfl
  | cons c text ih =>
    rw [List.mem_cons, not_or] at h
    rw [List.cons_append, List.cons_append, splitAtBars, ih h.2]
    · rfl
    · -- behind `c` stands a character of the text, or a blank
      intro tail _ htail
      cases text with
      | nil => cases htail
      | cons d text => exact h.2 ((List.cons.inj htail).1 ▸ List.mem_cons_self)

variable {first second third : List Char}

/-- **Cells are read back.** -/
theorem cells_rowLine (hfirst : IsCell first) (hsecond : IsCell second) (hthird : IsCell third) :
    cells (rowLine first second third) =
      [String.ofList first, String.ofList second, String.ofList third] := by
  have hedge : ∀ {text : List Char} {c : Char}, IsCell text → c ∈ text → c ≠ ' ' →
      isEdge c = false := by
    intro text c htext hc hblank
    have hbar : c ≠ '|' := fun h => htext.noBar (h ▸ hc)
    simp [isEdge, hbar, hblank]
  have hbare : Text.Bare isEdge
      (first ++ [' ', '|', ' '] ++ second ++ [' ', '|', ' '] ++ third) := by
    constructor
    · intro c hc
      obtain ⟨d, text, rfl⟩ := List.exists_cons_of_ne_nil hfirst.ne_nil
      obtain rfl : d = c := Option.some.inj hc
      exact hedge hfirst List.mem_cons_self fun h => hfirst.first (congrArg some h)
    · intro c hc
      rw [List.getLast?_append_of_ne_nil _ hthird.ne_nil] at hc
      exact hedge hthird (List.mem_of_getLast? hc) fun h => hthird.last (h ▸ hc)
  rw [cells, rowLine, Text.trimBy_append hbare (List.all_eq_true.1 (by decide))
      (List.all_eq_true.1 (by decide)), List.append_assoc, List.append_assoc,
    splitAtBars_append hfirst.noBar,
    ← List.append_assoc, splitAtBars_append hsecond.noBar, splitAtBars_of_notMem hthird.noBar]
  rfl

theorem noBreak_rowLine (hfirst : IsCell first) (hsecond : IsCell second) (hthird : IsCell third) :
    '\n' ∉ rowLine first second third := by
  simp [rowLine, hfirst.noBreak, hsecond.noBreak, hthird.noBreak]

theorem isTableLine_rowLine : isTableLine (rowLine first second third) = true := by
  rw [rowLine, List.append_assoc, isTableLine, List.isPrefixOf_iff_prefix]
  exact List.prefix_append _ _

/-! ### Blocks -/

/-- A line of a table is no heading, and no rule. -/
theorem of_isTableLine {line : List Char} (h : isTableLine line) :
    isHeading line = false ∧ isRule line = false := by
  rw [isTableLine, List.isPrefixOf_iff_prefix] at h
  obtain ⟨rest, rfl⟩ := h
  exact ⟨rfl, rfl⟩

/-- Tables of lines one after the other, when the second do not begin with a rule. -/
theorem bodyLines_append (lines : List (List Char)) {rest : List (List Char)}
    (hrest : ∀ line, rest.head? = some line → isRule line = false) :
    bodyLines (lines ++ rest) = bodyLines lines ++ bodyLines rest := by
  fun_induction bodyLines lines with
  | case1 => rfl
  | case2 line hline =>
    cases rest with
    | nil => simp [bodyLines, hline]
    | cons next rest => simp [bodyLines, hline, hrest next rfl]
  | case3 line hline =>
    cases rest with
    | nil => simp [bodyLines, hline]
    | cons next rest => simp [bodyLines, hline]
  | case4 line next tail hline hnext ih => simp [bodyLines, hline, hnext, ih]
  | case5 line next tail hline hnext ih => simpa [bodyLines, hline, hnext] using ih
  | case6 line next tail hline ih => simpa [bodyLines, hline] using ih

theorem bodyLines_eq_nil {lines : List (List Char)} (h : ∀ line ∈ lines, isTableLine line = false) :
    bodyLines lines = [] := by
  fun_induction bodyLines lines <;> simp_all

theorem bodyLines_eq_self {lines : List (List Char)} (h : ∀ line ∈ lines, isTableLine line) :
    bodyLines lines = lines := by
  fun_induction bodyLines lines <;> simp_all [of_isTableLine]

/-- The blocks of a block and of lines that begin with a heading. -/
theorem blocks_all_append {b : Block} (hheading : isHeading b.heading)
    (hlines : ∀ line ∈ b.lines, isHeading line = false) {rest : List (List Char)}
    (hrest : ∀ line, rest.head? = some line → isHeading line) :
    blocks (b.all ++ rest) = b :: blocks rest := by
  have hskip : ∀ front : List (List Char), (∀ line ∈ front, isHeading line = false) →
      blocks (front ++ rest) = blocks rest := by
    intro front hfront
    induction front with
    | nil => rfl
    | cons line front ih =>
      obtain ⟨hline, hfront⟩ := List.forall_mem_cons.1 hfront
      rw [List.cons_append, blocks, hline, if_neg Bool.false_ne_true, ih hfront]
  have htake : (b.lines ++ rest).takeWhile (!isHeading ·) = b.lines := by
    have hnone : rest.takeWhile (!isHeading ·) = [] := by
      cases rest with
      | nil => rfl
      | cons line rest => exact List.takeWhile_cons_of_neg (by simp [hrest line rfl])
    rw [List.takeWhile_append_of_pos fun line hline => by simp [hlines line hline], hnone,
      List.append_nil]
  rw [Block.all, List.cons_append, blocks, if_pos hheading, htake, hskip _ hlines]

/-- The block has a heading over lines that are no headings. -/
structure Block.Headed (b : Block) : Prop where
  heading : isHeading b.heading
  lines : ∀ line ∈ b.lines, isHeading line = false

theorem head?_flatMap_all {bs : List Block} (h : ∀ b ∈ bs, b.Headed) {line : List Char}
    (hline : (bs.flatMap Block.all).head? = some line) : isHeading line := by
  cases bs with
  | nil => cases hline
  | cons b bs =>
    obtain rfl : b.heading = line := Option.some.inj hline
    exact (h b List.mem_cons_self).heading

/-- **Blocks are found again.** -/
theorem blocks_flatMap {bs : List Block} (h : ∀ b ∈ bs, b.Headed) :
    blocks (bs.flatMap Block.all) = bs := by
  induction bs with
  | nil => rfl
  | cons b bs ih =>
    obtain ⟨hb, hbs⟩ := List.forall_mem_cons.1 h
    rw [List.flatMap_cons, blocks_all_append hb.heading hb.lines fun _ => head?_flatMap_all hbs,
      ih hbs]

/-- A line of no table is passed over. -/
theorem bodyLines_cons {line : List Char} (h : isTableLine line = false) (rest : List (List Char)) :
    bodyLines (line :: rest) = bodyLines rest := by
  cases rest with
  | nil => simp [bodyLines, h]
  | cons next rest => simp [bodyLines, h]

/-- A heading is no line of a table, and no rule. -/
theorem of_isHeading {line : List Char} (h : isHeading line) :
    isTableLine line = false ∧ isRule line = false := by
  rw [isHeading, List.isPrefixOf_iff_prefix] at h
  obtain ⟨rest, rfl⟩ := h
  exact ⟨rfl, rfl⟩

/-- **The tables of blocks are those of one block after the other.** -/
theorem bodyLines_flatMap {bs : List Block} (h : ∀ b ∈ bs, b.Headed) :
    bodyLines (bs.flatMap Block.all) = bs.flatMap fun b => bodyLines b.lines := by
  induction bs with
  | nil => rfl
  | cons b bs ih =>
    obtain ⟨hb, hbs⟩ := List.forall_mem_cons.1 h
    have hrest : ∀ line, (bs.flatMap Block.all).head? = some line → isRule line = false :=
      fun line hline => (of_isHeading (head?_flatMap_all hbs hline)).2
    rw [List.flatMap_cons, bodyLines_append _ hrest, ih hbs, Block.all,
      bodyLines_cons (of_isHeading hb.heading).1, List.flatMap_cons]

end Markdown

end BenchReport
