import BenchReport.Text.Basic

/-!
# Trimming texts

Characters of one kind, such as white space, are taken off both ends of a text.

## Main definitions

* `Text.trimBy` — a text without the characters of a kind at its ends.
* `Text.Bare` — a text has none of these characters at its ends.
* `Text.Wraps` — a text has white space around a core.

## Main results

* `Text.trimBy_append` — **what stands around a bare text is taken off**, and nothing of the text.
* `Text.exists_trimBy` — trimming takes off such characters only, and leaves a bare text.
* `Text.Wraps.trim_eq`, `Text.wraps_trim` — white space is taken off a core, and nothing else.
-/

namespace BenchReport.Text

/-- The text without the characters of a kind at its ends. -/
def trimBy (p : Char → Bool) (text : List Char) : List Char :=
  ((text.dropWhile p).reverse.dropWhile p).reverse

theorem trim_eq_trimBy (text : List Char) : trim text = trimBy isBlank text := rfl

/-- The text has no character of a kind at its ends. -/
structure Bare (p : Char → Bool) (text : List Char) : Prop where
  first : ∀ c, text.head? = some c → p c = false
  last : ∀ c, text.getLast? = some c → p c = false

variable {p : Char → Bool} {text front back : List Char}

theorem bare_of_forall (h : ∀ c ∈ text, p c = false) : Bare p text :=
  ⟨fun c hc => h c (List.mem_of_head? hc), fun c hc => h c (List.mem_of_getLast? hc)⟩

theorem dropWhile_eq_self (h : ∀ c, text.head? = some c → p c = false) :
    text.dropWhile p = text := by
  cases text with
  | nil => rfl
  | cons c text => exact List.dropWhile_cons_of_neg (by simp [h c rfl])

theorem head?_dropWhile {c : Char} (h : (text.dropWhile p).head? = some c) : p c = false := by
  have hhead := List.head?_dropWhile_not p text
  rwa [h] at hhead

/-- **What stands around a bare text is taken off.** -/
theorem trimBy_append (htext : Bare p text) (hfront : ∀ c ∈ front, p c) (hback : ∀ c ∈ back, p c) :
    trimBy p (front ++ text ++ back) = text := by
  rw [trimBy, List.append_assoc, List.dropWhile_append_of_pos hfront]
  cases text with
  | nil =>
    rw [List.nil_append, ← List.append_nil back, List.dropWhile_append_of_pos hback]
    rfl
  | cons c text =>
    have hlast : ∀ d, (c :: text).reverse.head? = some d → p d = false := by
      intro d hd
      exact htext.last d (by rwa [List.head?_reverse] at hd)
    rw [@dropWhile_eq_self p (c :: text ++ back) htext.first, List.reverse_append,
      List.dropWhile_append_of_pos fun d hd => hback d (List.mem_reverse.1 hd),
      dropWhile_eq_self hlast, List.reverse_reverse]

/-- Trimming takes off characters of the kind only, and leaves a bare text. -/
theorem exists_trimBy (p : Char → Bool) (text : List Char) : ∃ front back,
    text = front ++ trimBy p text ++ back ∧ (∀ c ∈ front, p c) ∧ (∀ c ∈ back, p c) ∧
      Bare p (trimBy p text) := by
  -- what is left after the front, and its trimmed part with the back
  obtain ⟨rest, hrest⟩ : ∃ rest, rest = text.dropWhile p := ⟨_, rfl⟩
  have hsplit : rest = trimBy p text ++ (rest.reverse.takeWhile p).reverse := by
    rw [trimBy, ← hrest, ← List.reverse_append, List.takeWhile_append_dropWhile,
      List.reverse_reverse]
  refine ⟨text.takeWhile p, (rest.reverse.takeWhile p).reverse, ?_,
    fun c hc => List.all_eq_true.1 List.all_takeWhile c hc,
    fun c hc => List.all_eq_true.1 List.all_takeWhile c (List.mem_reverse.1 hc), ?_, ?_⟩
  · rw [List.append_assoc, ← hsplit, hrest, List.takeWhile_append_dropWhile]
  · intro c hc
    apply @head?_dropWhile p text
    rw [← hrest, hsplit, List.head?_append, hc]
    rfl
  · intro c hc
    apply @head?_dropWhile p rest.reverse
    rwa [trimBy, ← hrest, List.getLast?_reverse] at hc

/-! ### White space -/

/-- The text consists of a core and white space around it. -/
def Wraps (text core : List Char) : Prop :=
  ∃ before after, text = before ++ core ++ after ∧ (∀ c ∈ before, isBlank c) ∧
    ∀ c ∈ after, isBlank c

variable {core : List Char}

theorem Wraps.trim_eq (h : Wraps text core) (hcore : Bare isBlank core) : trim text = core := by
  obtain ⟨before, after, rfl, hbefore, hafter⟩ := h
  rw [trim_eq_trimBy, trimBy_append hcore hbefore hafter]

theorem Wraps.mem (h : Wraps text core) {c : Char} (hc : c ∈ core) : c ∈ text := by
  obtain ⟨before, after, rfl, -, -⟩ := h
  simp [hc]

theorem Wraps.of_mem (h : Wraps text core) {c : Char} (hc : c ∈ text) : isBlank c ∨ c ∈ core := by
  obtain ⟨before, after, rfl, hbefore, hafter⟩ := h
  rcases List.mem_append.1 hc with hc | hc
  · exact (List.mem_append.1 hc).imp_left (hbefore c)
  · exact .inl (hafter c hc)

theorem wraps_trim (text : List Char) : Wraps text (trim text) := by
  obtain ⟨before, after, htext, hbefore, hafter, -⟩ := exists_trimBy isBlank text
  exact ⟨before, after, htext, hbefore, hafter⟩

theorem isBlank_eq_false_of_isDigit {c : Char} (h : c.isDigit) : isBlank c = false := by
  obtain ⟨hlow, hhigh⟩ : 48 ≤ c.toNat ∧ c.toNat ≤ 57 := Char.isDigit_iff_toNat.1 h
  simp [isBlank, inRanges, blankRanges]
  omega

end BenchReport.Text
