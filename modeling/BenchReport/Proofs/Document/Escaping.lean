import BenchReport.Proofs.Document.Marks

/-!
# Texts can be read back from a page

The names that stand for characters in a page are read back one after the other from the left.
What begins with an ampersand in an escaped text is such a name, whatever the text looks like,
so every text is read back as it was, and different texts are written differently.  What escaping
writes can be told without it: there are no marks in it, and every ampersand begins a name.

## Main definitions

* `Markup.unescape` — the text that is meant by text of a page.
* `Markup.Inert` — text of a page that has no marks and no ampersands but those of names.

## Main results

* `Markup.unescape_escape` — **escaped texts are read back.**
* `Markup.escape_injective` — different texts are written differently.
* `Markup.inert_escape`, `Markup.Inert.escape_unescape` — escaped texts are the inert ones.
* `Markup.escapeText_readBack` — **escaping is safe and can be undone.**
-/

namespace BenchReport.Markup

/-- The text that is meant by text of a page: names of characters are read from the left, each
once, and everything else stands for itself. -/
def unescape : List Char → List Char
  | '&' :: 'a' :: 'm' :: 'p' :: ';' :: rest => '&' :: unescape rest
  | '&' :: 'l' :: 't' :: ';' :: rest => '<' :: unescape rest
  | '&' :: 'g' :: 't' :: ';' :: rest => '>' :: unescape rest
  | '&' :: 'q' :: 'u' :: 'o' :: 't' :: ';' :: rest => '"' :: unescape rest
  | '&' :: '#' :: '3' :: '9' :: ';' :: rest => '\'' :: unescape rest
  | c :: rest => c :: unescape rest
  | [] => []

theorem unescape_cons {c : Char} (h : c ≠ '&') (rest : List Char) :
    unescape (c :: rest) = c :: unescape rest := by
  rw [unescape] <;> rintro _ rfl <;> exact absurd rfl h

theorem unescape_escapeChar (c : Char) (rest : List Char) :
    unescape (escapeChar c ++ rest) = c :: unescape rest := by
  unfold escapeChar
  split
  · rfl
  · rfl
  · rfl
  · rfl
  · rfl
  · rename_i h _ _ _ _
    exact unescape_cons h rest

theorem escape_cons (c : Char) (text : List Char) :
    escape (c :: text) = escapeChar c ++ escape text :=
  List.flatMap_cons

/-- **Escaped texts are read back.** -/
theorem unescape_escape (text : List Char) : unescape (escape text) = text := by
  induction text with
  | nil => rfl
  | cons c text ih => rw [escape_cons, unescape_escapeChar, ih]

theorem escape_injective : Function.Injective escape :=
  Function.LeftInverse.injective unescape_escape

/-! ### Which texts are escaped ones -/

/-- The names of the characters that have a meaning in a page. -/
def characterNames : List (List Char) :=
  [['&', 'a', 'm', 'p', ';'], ['&', 'l', 't', ';'], ['&', 'g', 't', ';'],
    ['&', 'q', 'u', 'o', 't', ';'], ['&', '#', '3', '9', ';']]

/-- The text of a page opens and closes no tag and no value of an attribute, and every ampersand in
it begins the name of a character. -/
structure Inert (text : List Char) : Prop where
  unmarked : marks text = []
  named : ∀ rest, '&' :: rest <:+ text → ∃ name ∈ characterNames, name <+: '&' :: rest

theorem Inert.of_suffix {text tail : List Char} (h : Inert text) (htail : tail <:+ text) :
    Inert tail where
  unmarked := by
    obtain ⟨front, rfl⟩ := htail
    exact (List.append_eq_nil_iff.1 ((marks_append front tail).symm.trans h.unmarked)).2
  named rest hrest := h.named rest (hrest.trans htail)

/-- What begins with a character stands behind a text without it. -/
theorem suffix_of_suffix_append {c : Char} {front text rest : List Char} (hfront : c ∉ front)
    (h : c :: rest <:+ front ++ text) : c :: rest <:+ text := by
  induction front with
  | nil => exact h
  | cons d front ih =>
    rw [List.mem_cons, not_or] at hfront
    rcases List.suffix_cons_iff.1 h with hwhole | hrest
    · exact absurd (List.cons.inj hwhole).1 hfront.1
    · exact ih hfront.2 hrest

/-- A character is written as a name, or it is no ampersand and stands for itself. -/
theorem escapeChar_cases (c : Char) :
    (∃ body, escapeChar c = '&' :: body ∧ '&' ∉ body ∧ '&' :: body ∈ characterNames) ∨
      escapeChar c = [c] ∧ c ≠ '&' := by
  unfold escapeChar
  split
  · exact .inl ⟨_, rfl, by decide, by decide⟩
  · exact .inl ⟨_, rfl, by decide, by decide⟩
  · exact .inl ⟨_, rfl, by decide, by decide⟩
  · exact .inl ⟨_, rfl, by decide, by decide⟩
  · exact .inl ⟨_, rfl, by decide, by decide⟩
  · rename_i h _ _ _ _
    exact .inr ⟨rfl, h⟩

theorem Inert.escapeChar_append {text : List Char} (h : Inert text) (c : Char) :
    Inert (escapeChar c ++ text) where
  unmarked := by rw [marks_append, marks_escapeChar, h.unmarked, List.append_nil]
  named rest hrest := by
    rcases escapeChar_cases c with ⟨body, hname, hbody, hmem⟩ | ⟨hself, hc⟩
    · rw [hname] at hrest
      rcases List.suffix_cons_iff.1 hrest with hwhole | htext
      · -- the ampersand of the name itself
        exact ⟨_, hmem, hwhole ▸ List.prefix_append _ _⟩
      · exact h.named rest (suffix_of_suffix_append hbody htext)
    · rw [hself] at hrest
      exact h.named rest (suffix_of_suffix_append (by simpa using hc.symm) hrest)

/-- **An escaped text is inert.** -/
theorem inert_escape (text : List Char) : Inert (escape text) := by
  induction text with
  | nil => exact ⟨rfl, fun rest h => absurd (List.suffix_nil.1 h) (List.cons_ne_nil _ _)⟩
  | cons c text ih => exact ih.escapeChar_append c

/-- A character that is no mark and no ampersand is written as it is. -/
theorem escapeChar_eq_self {c : Char} (hmark : isMark c = false) (hc : c ≠ '&') :
    escapeChar c = [c] := by
  unfold escapeChar
  split
  · exact absurd rfl hc
  · cases hmark
  · cases hmark
  · cases hmark
  · cases hmark
  · rfl

/-- A character in front of an inert text is no mark, and an ampersand only as part of a name. -/
theorem Inert.of_cons {c : Char} {rest : List Char} (h : Inert (c :: rest)) :
    Inert rest ∧ isMark c = false ∧
      (c = '&' → ∃ name ∈ characterNames, name <+: '&' :: rest) := by
  refine ⟨h.of_suffix (List.suffix_cons c rest), ?_, ?_⟩
  · have hnone := List.filter_eq_nil_iff.1 h.unmarked c List.mem_cons_self
    simpa using hnone
  · rintro rfl
    exact h.named rest List.suffix_rfl

/-- A character is written in front of what the rest of an inert text is read back as. -/
theorem Inert.escape_cons_eq {c : Char} {text rest : List Char} (h : Inert (escapeChar c ++ rest))
    (hrest : Inert rest → escape text = rest) : escape (c :: text) = escapeChar c ++ rest := by
  rw [escape_cons, hrest (h.of_suffix (List.suffix_append _ rest))]

/-- **An inert text is an escaped one**: the one that it is read back as. -/
theorem Inert.escape_unescape {text : List Char} (h : Inert text) :
    escape (unescape text) = text := by
  fun_induction unescape text with
  | case1 rest ih => exact escape_cons_eq (c := '&') h ih
  | case2 rest ih => exact escape_cons_eq (c := '<') h ih
  | case3 rest ih => exact escape_cons_eq (c := '>') h ih
  | case4 rest ih => exact escape_cons_eq (c := '"') h ih
  | case5 rest ih => exact escape_cons_eq (c := '\'') h ih
  | case6 c rest hamp hlt hgt hquot hapos ih =>
    obtain ⟨hrest, hmark, hnamed⟩ := h.of_cons
    have hc : c ≠ '&' := by
      rintro rfl
      obtain ⟨name, hname, tail, htail⟩ := hnamed rfl
      simp only [characterNames, List.mem_cons, List.not_mem_nil, or_false] at hname
      rcases hname with rfl | rfl | rfl | rfl | rfl
      · exact hamp tail rfl (List.cons.inj htail).2.symm
      · exact hlt tail rfl (List.cons.inj htail).2.symm
      · exact hgt tail rfl (List.cons.inj htail).2.symm
      · exact hquot tail rfl (List.cons.inj htail).2.symm
      · exact hapos tail rfl (List.cons.inj htail).2.symm
    rw [escape_cons, escapeChar_eq_self hmark hc, ih hrest]
    rfl
  | case7 => rfl

/-! ### Texts in full -/

theorem toList_escapeText (text : String) : (escapeText text).toList = escape text.toList :=
  String.toList_ofList

/-- **Escaping is safe and can be undone.**

Whatever the text looks like, no character of what is written opens or closes a tag or the value of
an attribute, every ampersand in it begins one of the five names, and reading the names once from
the left gives the text again.  Texts are written piece by piece and different texts differently,
and what has no marks and no ampersands but those of names is written for some text. -/
theorem escapeText_readBack :
    (∀ text : String, Inert (escapeText text).toList ∧
      String.ofList (unescape (escapeText text).toList) = text) ∧
    (∀ s t : String, escapeText (s ++ t) = escapeText s ++ escapeText t) ∧
    Function.Injective escapeText ∧
    ∀ written : String, Inert written.toList →
      escapeText (String.ofList (unescape written.toList)) = written := by
  refine ⟨fun text => ?_, fun s t => ?_, fun s t h => ?_, fun written h => ?_⟩
  · rw [toList_escapeText, unescape_escape, String.ofList_toList]
    exact ⟨inert_escape _, rfl⟩
  · rw [escapeText, String.toList_append, escape_append, String.ofList_append]
    rfl
  · exact String.toList_inj.1 (escape_injective (String.ofList_inj.1 h))
  · rw [escapeText, String.toList_ofList, h.escape_unescape, String.ofList_toList]

/-- A text that looks like an escaped one in which an ampersand was escaped. -/
theorem escapeText_readBack_lookAlike :
    escapeText "&amp;lt;<" = "&amp;amp;lt;&lt;" ∧
      String.ofList (unescape "&amp;amp;lt;&lt;".toList) = "&amp;lt;<" ∧
      Inert "&amp;amp;lt;&lt;".toList ∧
      escapeText (String.ofList (unescape "&amp;amp;lt;&lt;".toList)) = "&amp;amp;lt;&lt;" := by
  have hwritten : escapeText "&amp;lt;<" = "&amp;amp;lt;&lt;" := by decide +kernel
  obtain ⟨hread, -, -, hback⟩ := escapeText_readBack
  obtain ⟨hinert, htext⟩ := hread "&amp;lt;<"
  rw [hwritten] at hinert htext
  exact ⟨hwritten, htext, hinert, hback _ hinert⟩

end BenchReport.Markup
