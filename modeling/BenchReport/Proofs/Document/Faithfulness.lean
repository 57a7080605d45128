import BenchReport.Proofs.Document.Escaping

/-!
# The page shows what is in the report

Between any two texts of a page there is markup, and it begins with a character that no escaped text
holds.  So the texts can be told apart from the markup around them, lists of parts end where the
markup after them begins, and pages with the same body show the same.

## Main definitions

* `Card.Shown`, `Row.Shown`, `Section.Shown`, `Report.Shown` — what the body of a page shows.

## Main results

* `Markup.text_append_inj` — a text ends where the markup behind it begins.
* `Markup.flatMap_append_inj` — a list of parts ends where something else begins.
* `Page.shown_of_body` — **pages with the same body show the same.**
-/

namespace BenchReport

namespace Markup

/-! ### Where texts end -/

/-- What stands before the first of two equal characters is the same when it does not hold the
character. -/
theorem eq_and_eq_of_append_cons {c : Char} {a b x y : List Char} (ha : c ∉ a) (hb : c ∉ b)
    (h : a ++ c :: x = b ++ c :: y) : a = b ∧ x = y := by
  induction a generalizing b with
  | nil =>
    cases b with
    | nil => exact ⟨rfl, (List.cons.inj h).2⟩
    | cons d b => exact absurd ((List.cons.inj h).1 ▸ List.mem_cons_self) hb
  | cons d a ih =>
    rw [List.mem_cons, not_or] at ha
    cases b with
    | nil => exact absurd (List.cons.inj h).1.symm ha.1
    | cons e b =>
      rw [List.mem_cons, not_or] at hb
      obtain ⟨rfl, htail⟩ := List.cons.inj h
      obtain ⟨rfl, hrest⟩ := ih ha.2 hb.2 htail
      exact ⟨rfl, hrest⟩

/-- What has no marks holds no character of a tag. -/
theorem notMem_of_marks {text : List Char} (h : marks text = []) {c : Char} (hc : isMark c) :
    c ∉ text :=
  fun hmem => List.filter_eq_nil_iff.1 h c hmem hc

/-- The markup begins with the character of a tag or of an attribute's end. -/
def beginsWithMark (source : String) : Bool :=
  match source.toList with
  | c :: _ => isMark c
  | [] => false

theorem exists_mark_of_begins {source : String} (h : beginsWithMark source) :
    ∃ c rest, source.toList = c :: rest ∧ isMark c := by
  rw [beginsWithMark] at h
  split at h
  · exact ⟨_, _, by assumption, h⟩
  · cases h

variable {source : String} {x y : List Char}

/-- What has no marks ends where such markup begins. -/
theorem append_markup_inj {a b : List Char} (hsource : beginsWithMark source) (ha : marks a = [])
    (hb : marks b = []) :
    a ++ ((Piece.markup source).chars ++ x) = b ++ ((Piece.markup source).chars ++ y) ↔
      a = b ∧ x = y := by
  constructor
  · intro h
    obtain ⟨c, rest, hrest, hc⟩ := exists_mark_of_begins hsource
    rw [Piece.chars, hrest] at h
    obtain ⟨hab, hrest⟩ :=
      eq_and_eq_of_append_cons (notMem_of_marks ha hc) (notMem_of_marks hb hc) h
    exact ⟨hab, List.append_cancel_left hrest⟩
  · rintro ⟨rfl, rfl⟩
    rfl

/-- **A text ends where the markup behind it begins.** -/
theorem text_append_inj (hsource : beginsWithMark source) (s t : String) :
    (Piece.text s).chars ++ ((Piece.markup source).chars ++ x) =
      (Piece.text t).chars ++ ((Piece.markup source).chars ++ y) ↔ s = t ∧ x = y := by
  have hchars : (Piece.text s).chars = (Piece.text t).chars ↔ s = t :=
    escape_injective.eq_iff.trans String.toList_inj
  rw [append_markup_inj hsource (marks_text s) (marks_text t), hchars]

/-- A word of a kind ends there as well. -/
theorem word_append_inj {α : Type} {word : α → String} (hword : Function.Injective word)
    (hmarks : ∀ a, marks (word a).toList = []) (hsource : beginsWithMark source) (a b : α) :
    (Piece.word (word a)).chars ++ ((Piece.markup source).chars ++ x) =
      (Piece.word (word b)).chars ++ ((Piece.markup source).chars ++ y) ↔ a = b ∧ x = y := by
  have hchars : (Piece.word (word a)).chars = (Piece.word (word b)).chars ↔ a = b :=
    String.toList_inj.trans hword.eq_iff
  have hmarks : ∀ a, marks (Piece.word (word a)).chars = [] := hmarks
  rw [append_markup_inj hsource (hmarks a) (hmarks b), hchars]

/-! ### Where lists end -/

/-- Texts that differ early on go on differently. -/
theorem append_ne_append {a b : List Char} (count : Nat) (ha : count ≤ a.length)
    (hb : count ≤ b.length) (h : a.take count ≠ b.take count) (x y : List Char) :
    a ++ x ≠ b ++ y := by
  intro happend
  have htake := congrArg (List.take count) happend
  rw [List.take_append_of_le_length ha, List.take_append_of_le_length hb] at htake
  exact h htake

/-- **A list of parts ends where something else begins**, when each part tells what it shows and
where it ends. -/
theorem flatMap_append_inj {α κ : Type} {pieces : α → List Piece} {shown : α → κ}
    {stop : List Char}
    (hpart : ∀ a b x y, render (pieces a) ++ x = render (pieces b) ++ y →
      shown a = shown b ∧ x = y)
    (hstop : ∀ a x y, render (pieces a) ++ x ≠ stop ++ y) :
    ∀ {l l' : List α} {x y : List Char},
      render (l.flatMap pieces) ++ (stop ++ x) = render (l'.flatMap pieces) ++ (stop ++ y) →
      l.map shown = l'.map shown ∧ x = y := by
  -- the other list is taken apart alongside, since both texts begin with a part or with `stop`
  intro l
  induction l with
  | nil =>
    intro l' x y h
    cases l' with
    | nil => exact ⟨rfl, List.append_cancel_left h⟩
    | cons b l' =>
      rw [List.flatMap_cons, render_append, List.append_assoc] at h
      exact absurd h.symm (hstop b _ _)
  | cons a l ih =>
    intro l' x y h
    rw [List.flatMap_cons, render_append, List.append_assoc] at h
    cases l' with
    | nil => exact absurd h (hstop a _ _)
    | cons b l' =>
      rw [List.flatMap_cons, render_append, List.append_assoc] at h
      obtain ⟨hab, hrest⟩ := hpart a b _ _ h
      obtain ⟨hl, hxy⟩ := ih hrest
      exact ⟨by rw [List.map_cons, List.map_cons, hab, hl], hxy⟩

end Markup

open Markup

/-! ### What is shown -/

/-- What a card shows. -/
structure Card.Shown where
  tone : Tone
  label : String
  display : String
  unit : String

/-- What a row shows. -/
structure Row.Shown where
  label : String
  display : String
  unit : String
  highlight : Bool

/-- What a section shows. -/
structure Section.Shown where
  suite : Suite
  icon : String
  title : String
  description : String
  /-- The headings of the charts and their places. -/
  charts : List (String × String)
  tableTitle : String
  rows : List Row.Shown

/-- What the body of a page shows. -/
structure Report.Shown where
  project : String
  subtitle : String
  timestamp : String
  badges : List String
  cards : List Card.Shown
  sections : List Section.Shown

def Card.shown (c : Card) : Card.Shown := ⟨c.tone, c.label, c.display, c.unit⟩

def Row.shown (r : Row) : Row.Shown := ⟨r.label, r.display, r.unit, r.highlight⟩

def Chart.shown (c : Chart) : String × String := (c.title, c.slot)

def Section.shown (s : Section) : Section.Shown :=
  ⟨s.suite, s.icon, s.title, s.description, s.charts.map Chart.shown, s.table.title,
    s.table.rows.map Row.shown⟩

def Report.shown (r : Report) : Report.Shown :=
  ⟨r.project, r.subtitle, r.timestamp, r.badges, r.cards.map Card.shown,
    r.sections.map Section.shown⟩

/-! ### Words -/

theorem Tone.key_injective : Function.Injective Tone.key := by
  intro a b
  cases a <;> cases b <;> decide

theorem Suite.key_injective : Function.Injective Suite.key := by
  intro a b
  cases a <;> cases b <;> decide

namespace Page

theorem valueClass_injective : Function.Injective valueClass := by
  intro a b
  cases a <;> cases b <;> decide

variable {source : String} {x y : List Char}

theorem tone_append_inj (hsource : beginsWithMark source) (a b : Tone) :
    (Piece.word a.key).chars ++ ((Piece.markup source).chars ++ x) =
      (Piece.word b.key).chars ++ ((Piece.markup source).chars ++ y) ↔ a = b ∧ x = y :=
  word_append_inj Tone.key_injective (fun a => by cases a <;> decide) hsource a b

theorem suite_append_inj (hsource : beginsWithMark source) (a b : Suite) :
    (Piece.word a.key).chars ++ ((Piece.markup source).chars ++ x) =
      (Piece.word b.key).chars ++ ((Piece.markup source).chars ++ y) ↔ a = b ∧ x = y :=
  word_append_inj Suite.key_injective (fun a => by cases a <;> decide) hsource a b

theorem valueClass_append_inj (hsource : beginsWithMark source) (a b : Bool) :
    (Piece.word (valueClass a)).chars ++ ((Piece.markup source).chars ++ x) =
      (Piece.word (valueClass b)).chars ++ ((Piece.markup source).chars ++ y) ↔ a = b ∧ x = y :=
  word_append_inj valueClass_injective (fun a => by cases a <;> decide) hsource a b

theorem display_append_inj (hsource : beginsWithMark source) (a b : Row) :
    (Piece.word a.display).chars ++ ((Piece.markup source).chars ++ x) =
      (Piece.word b.display).chars ++ ((Piece.markup source).chars ++ y) ↔
      a.display = b.display ∧ x = y := by
  have hmarks : ∀ r : Row, marks (Piece.word r.display).chars = [] := fun r =>
    Label.marks_grouped r.value r.places
  have hchars : (Piece.word a.display).chars = (Piece.word b.display).chars ↔
      a.display = b.display := String.toList_inj
  rw [append_markup_inj hsource (hmarks a) (hmarks b), hchars]

/-- There are three columns at most. -/
theorem marks_columns (s : Section) : marks (Piece.word (toString (columns s))).chars = [] := by
  have hcolumns : columns s = 1 ∨ columns s = 2 ∨ columns s = 3 := by
    rw [columns]
    omega
  rcases hcolumns with h | h | h <;> rw [h] <;> decide

/-! ### Header and cards -/

theorem badge_append_inj (a b : String) (x y : List Char)
    (h : render (badge a) ++ x = render (badge b) ++ y) : a = b ∧ x = y := by
  simpa (disch := decide) only [badge, render_cons, render_nil, List.append_assoc, List.nil_append,
    List.append_cancel_left_eq, text_append_inj] using h

theorem badges_append_inj {l l' : List String}
    (h : render (l.flatMap badge) ++ ((Piece.markup "  </div>\n</header>\n\n").chars ++ x) =
      render (l'.flatMap badge) ++ ((Piece.markup "  </div>\n</header>\n\n").chars ++ y)) :
    l = l' ∧ x = y := by
  have hlists : l.map id = l'.map id ∧ x = y := by
    refine flatMap_append_inj badge_append_inj (fun a u v => ?_) h
    rw [badge, render_cons, List.append_assoc]
    exact append_ne_append 3 (by decide) (by decide) (by decide) _ _
  rwa [List.map_id, List.map_id] at hlists

theorem header_append_inj (r r' : Report) (h : render (header r) ++ x = render (header r') ++ y) :
    r.project = r'.project ∧ r.subtitle = r'.subtitle ∧ r.timestamp = r'.timestamp ∧
      r.badges = r'.badges ∧ x = y := by
  simp (disch := decide) only [header, render_cons, render_nil, render_append, List.append_assoc,
    List.nil_append, List.append_cancel_left_eq, text_append_inj] at h
  obtain ⟨hproject, hsubtitle, htimestamp, hbadges⟩ := h
  exact ⟨hproject, hsubtitle, htimestamp, badges_append_inj hbadges⟩

theorem card_append_inj (c c' : Card) (x y : List Char)
    (h : render (card c) ++ x = render (card c') ++ y) : c.shown = c'.shown ∧ x = y := by
  simp (disch := decide) only [card, render_cons, render_nil, List.append_assoc, List.nil_append,
    List.append_cancel_left_eq, tone_append_inj, text_append_inj] at h
  obtain ⟨htone, hlabel, hdisplay, hunit, hrest⟩ := h
  exact ⟨by rw [Card.shown, Card.shown, htone, hlabel, hdisplay, hunit], hrest⟩

theorem cards_append_inj (r r' : Report) (h : render (cards r) ++ x = render (cards r') ++ y) :
    r.cards.map Card.shown = r'.cards.map Card.shown ∧ x = y := by
  simp only [cards, render_cons, render_nil, render_append, List.append_assoc, List.nil_append,
    List.append_cancel_left_eq] at h
  refine flatMap_append_inj card_append_inj (fun a u v => ?_) h
  rw [card, render_cons, List.append_assoc]
  exact append_ne_append 1 (by decide) (by decide) (by decide) _ _

/-! ### Sections -/

theorem chart_append_inj (c c' : Chart) (x y : List Char)
    (h : render (chart c) ++ x = render (chart c') ++ y) : c.shown = c'.shown ∧ x = y := by
  simp (disch := decide) only [chart, render_cons, render_nil, List.append_assoc, List.nil_append,
    List.append_cancel_left_eq, text_append_inj] at h
  obtain ⟨htitle, hslot, hrest⟩ := h
  exact ⟨by rw [Chart.shown, Chart.shown, htitle, hslot], hrest⟩

theorem row_append_inj (r r' : Row) (x y : List Char)
    (h : render (row r) ++ x = render (row r') ++ y) : r.shown = r'.shown ∧ x = y := by
  simp (disch := decide) only [row, render_cons, render_nil, List.append_assoc, List.nil_append,
    List.append_cancel_left_eq, text_append_inj, valueClass_append_inj, display_append_inj] at h
  obtain ⟨hlabel, hhighlight, hdisplay, hunit, hrest⟩ := h
  exact ⟨by rw [Row.shown, Row.shown, hlabel, hhighlight, hdisplay, hunit], hrest⟩

theorem table_append_inj (t t' : Table) (h : render (table t) ++ x = render (table t') ++ y) :
    t.title = t'.title ∧ t.rows.map Row.shown = t'.rows.map Row.shown ∧ x = y := by
  simp (disch := decide) only [table, render_cons, render_nil, render_append, List.append_assoc,
    List.nil_append, List.append_cancel_left_eq, text_append_inj] at h
  obtain ⟨htitle, hrows⟩ := h
  refine ⟨htitle, flatMap_append_inj row_append_inj (fun a u v => ?_) hrows⟩
  rw [row, render_cons, List.append_assoc]
  exact append_ne_append 9 (by decide) (by decide) (by decide) _ _

/-- The charts end where the table begins. -/
theorem charts_append_inj {l l' : List Chart} (t t' : Table)
    (h : render (l.flatMap chart) ++ (render (table t) ++ x) =
      render (l'.flatMap chart) ++ (render (table t') ++ y)) :
    l.map Chart.shown = l'.map Chart.shown ∧
      render (table t) ++ x = render (table t') ++ y := by
  -- the card of a table has a second class, so it does not begin as the card of a chart does
  have htable : ∀ t : Table, ∃ rest,
      render (table t) = (Piece.markup "    <div class=\"card table-card\">\n").chars ++ rest :=
    fun t => ⟨_, rfl⟩
  obtain ⟨rest, hrest⟩ := htable t
  obtain ⟨rest', hrest'⟩ := htable t'
  rw [hrest, hrest', List.append_assoc, List.append_assoc] at h ⊢
  rw [List.append_cancel_left_eq]
  refine flatMap_append_inj chart_append_inj (fun a u v => ?_) h
  rw [chart, render_cons, List.append_assoc]
  exact append_ne_append 21 (by decide) (by decide) (by decide) _ _

theorem suiteSection_append_inj (s s' : Section) (x y : List Char)
    (h : render (suiteSection s) ++ x = render (suiteSection s') ++ y) :
    s.shown = s'.shown ∧ x = y := by
  simp (disch := decide) only [suiteSection, render_cons, render_nil, render_append,
    List.append_assoc, List.nil_append, List.append_cancel_left_eq, text_append_inj,
    suite_append_inj] at h
  obtain ⟨hsuite, hicon, htitle, hdescription, hcolumns⟩ := h
  -- the number of columns is not needed, since the charts themselves are told apart
  obtain ⟨-, hcharts⟩ :=
    (append_markup_inj (by decide) (marks_columns s) (marks_columns s')).1 hcolumns
  obtain ⟨hcharts, htable⟩ := charts_append_inj s.table s'.table hcharts
  obtain ⟨htableTitle, hrows, hend⟩ := table_append_inj s.table s'.table htable
  refine ⟨?_, List.append_cancel_left hend⟩
  rw [Section.shown, Section.shown, hsuite, hicon, htitle, hdescription, hcharts, htableTitle,
    hrows]

/-- **Pages with the same body show the same.** -/
theorem shown_of_body {r r' : Report} (h : render (body r) = render (body r')) :
    r.shown = r'.shown := by
  rw [body, body, render_append, render_append] at h
  obtain ⟨hproject, hsubtitle, htimestamp, hbadges, hmain⟩ := header_append_inj r r' h
  simp only [render_cons, render_append, List.append_assoc, List.append_cancel_left_eq] at hmain
  obtain ⟨hcards, hsections⟩ := cards_append_inj r r' hmain
  -- the sections end where the footer begins
  have hfooter : ∀ r : Report, ∃ rest,
      render (footer r) = (Piece.markup "</main>\n\n<footer>\n").chars ++ rest := fun r => ⟨_, rfl⟩
  obtain ⟨rest, hrest⟩ := hfooter r
  obtain ⟨rest', hrest'⟩ := hfooter r'
  rw [hrest, hrest'] at hsections
  have hstop : ∀ s u v, render (suiteSection s) ++ u ≠
      (Piece.markup "</main>\n\n<footer>\n").chars ++ v := by
    intro s u v
    simp only [suiteSection, render_cons, render_append, List.append_assoc]
    exact append_ne_append 2 (by decide) (by decide) (by decide) _ _
  obtain ⟨hsections, -⟩ := flatMap_append_inj suiteSection_append_inj hstop hsections
  rw [Report.shown, Report.shown, hproject, hsubtitle, htimestamp, hbadges, hcards, hsections]

end Page

end BenchReport
