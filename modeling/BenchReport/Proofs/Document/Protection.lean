import BenchReport.Document.ChartScript
import BenchReport.Json.Reader
import BenchReport.Proofs.Json.Token

/-!
# Protected data is read alike

Data in a script is protected by a backslash between every less-than sign and a slash that
follows it.  Such a pair stands between quotes in every text that can be read, where the
backslash and the slash together mean the slash.  So protected data has no end tag, and it
is read as the data itself is.

## Main results

* `ChartScript.protect_eq_intercalate` — protecting replaces every pair, and nothing else.
* `ChartScript.not_infix_protect` — **protected data has no pair.**
* `Token.readQuoted?_protect`, `Token.readNumber?_protect` — texts and numbers.
* `Json.parseChars?_protect` — **what can be read is read alike when it is protected.**
-/

namespace BenchReport

namespace ChartScript

/-! ### Which characters are put where -/

@[simp] theorem protect_nil : protect [] = [] := rfl

theorem protect_pair (rest : List Char) :
    protect ('<' :: '/' :: rest) = '<' :: '\\' :: '/' :: protect rest := rfl

theorem protect_cons {c : Char} {rest : List Char} (h : c = '<' → rest.head? ≠ some '/') :
    protect (c :: rest) = c :: protect rest := by
  rw [protect]
  rintro tail rfl rfl
  exact h rfl rfl

theorem protect_cons_of_ne {c : Char} (h : c ≠ '<') (rest : List Char) :
    protect (c :: rest) = c :: protect rest :=
  protect_cons fun hc => absurd hc h

/-- The first character stays. -/
theorem head?_protect (text : List Char) : (protect text).head? = text.head? := by
  fun_cases protect text <;> rfl

theorem exists_protect_cons (c : Char) (rest : List Char) :
    ∃ tail, protect (c :: rest) = c :: tail :=
  List.head?_eq_some_iff.1 (head?_protect (c :: rest))

/-- What is known of a reader at every text that begins with a character is known of it at
such a text when it is protected. -/
theorem read_protect_cons {α : Type} {read : List Char → α} {c : Char} (value : List Char → α)
    (h : ∀ tail, read (c :: tail) = value (c :: tail)) (rest : List Char) :
    read (protect (c :: rest)) = value (protect (c :: rest)) := by
  obtain ⟨tail, htail⟩ := exists_protect_cons c rest
  rw [htail, h]

/-- **Protected data has no pair.** -/
theorem not_infix_protect (text : List Char) : ¬ ['<', '/'] <:+: protect text := by
  fun_induction protect text with
  | case1 rest ih =>
    simp only [List.infix_cons_iff, List.cons_prefix_cons, not_or]
    exact ⟨by simp, by simp, by simp, ih⟩
  | case2 c rest hpair ih =>
    rw [List.infix_cons_iff, not_or]
    refine ⟨fun hprefix => ?_, ih⟩
    obtain ⟨rfl, hslash⟩ := List.cons_prefix_cons.1 hprefix
    obtain ⟨tail, htail⟩ := hslash
    have hhead : rest.head? = some '/' := by rw [← head?_protect, ← htail]; rfl
    obtain ⟨others, hrest⟩ := List.head?_eq_some_iff.1 hhead
    exact hpair others rfl hrest
  | case3 => simp

/-- **Protecting replaces every pair, and nothing else.** -/
theorem protect_eq_intercalate (text : List Char) :
    ∃ parts, text = ['<', '/'].intercalate parts ∧
      protect text = ['<', '\\', '/'].intercalate parts ∧ parts ≠ [] ∧
      ∀ part ∈ parts, ¬ ['<', '/'] <:+: part := by
  fun_induction protect text with
  | case1 rest ih =>
    obtain ⟨parts, htext, hprotect, hne, hparts⟩ := ih
    refine ⟨[] :: parts, ?_, ?_, List.cons_ne_nil _ _, ?_⟩
    · rw [List.intercalate_cons_of_ne_nil hne, ← htext]
      rfl
    · rw [List.intercalate_cons_of_ne_nil hne, ← hprotect]
      rfl
    · intro part hpart
      rcases List.mem_cons.1 hpart with rfl | hpart
      · simp
      · exact hparts part hpart
  | case2 c rest hpair ih =>
    obtain ⟨parts, htext, hprotect, hne, hparts⟩ := ih
    obtain ⟨first, others, rfl⟩ := List.exists_cons_of_ne_nil hne
    refine ⟨(c :: first) :: others, ?_, ?_, List.cons_ne_nil _ _, ?_⟩
    · rw [List.intercalate_cons_cons_left, ← htext]
    · rw [List.intercalate_cons_cons_left, ← hprotect]
    · intro part hpart
      rcases List.mem_cons.1 hpart with rfl | hpart
      · -- a pair at the front of the part would be one of the text
        rw [List.infix_cons_iff, not_or]
        refine ⟨fun hprefix => ?_, hparts first List.mem_cons_self⟩
        obtain ⟨rfl, hslash⟩ := List.cons_prefix_cons.1 hprefix
        obtain ⟨tail, rfl⟩ := hslash
        cases others with
        | nil => exact hpair tail rfl (by rw [htext, List.intercalate_singleton]; rfl)
        | cons second others =>
          exact hpair _ rfl (by rw [htext, List.intercalate_cons_of_ne_nil (by simp)]; rfl)
      · exact hparts part (List.mem_cons_of_mem _ hpart)
  | case3 => exact ⟨[[]], rfl, rfl, List.cons_ne_nil _ _, by simp⟩

example : protect "</script>".toList = "<\\/script>".toList := rfl

end ChartScript

/-! ### Numbers -/

open ChartScript

namespace Text

theorem readDigits_protect (text : List Char) :
    readDigits (protect text) = ((readDigits text).1, protect (readDigits text).2) := by
  induction text with
  | nil => rfl
  | cons c text ih =>
    by_cases hc : c.isDigit
    · have hne : c ≠ '<' := by
        rintro rfl
        cases hc
      simp only [readDigits, Prod.mk.injEq] at ih ⊢
      rw [protect_cons_of_ne hne, List.takeWhile_cons_of_pos hc, List.takeWhile_cons_of_pos hc,
        List.dropWhile_cons_of_pos hc, List.dropWhile_cons_of_pos hc, ih.1, ih.2]
      exact ⟨rfl, rfl⟩
    · obtain ⟨rest, hrest⟩ := exists_protect_cons c text
      simp only [readDigits, Prod.mk.injEq]
      rw [List.takeWhile_cons_of_neg hc, List.dropWhile_cons_of_neg hc, hrest,
        List.takeWhile_cons_of_neg hc, List.dropWhile_cons_of_neg hc]
      exact ⟨rfl, rfl⟩

end Text

namespace Numeral

theorem readFraction_protect (text : List Char) :
    readFraction (protect text) = ((readFraction text).1, protect (readFraction text).2) := by
  cases text with
  | nil => rfl
  | cons c rest =>
    by_cases hc : c = '.'
    · rw [hc, protect_cons_of_ne (by decide), readFraction, readFraction, Text.readDigits_protect]
    · have hnone : ∀ tail, readFraction (c :: tail) = (none, c :: tail) := by
        intro tail
        rw [readFraction]
        rintro _ h
        exact hc (List.cons.inj h).1
      rw [read_protect_cons (fun text => (none, text)) hnone, hnone]

theorem readSign_protect (text : List Char) :
    readSign (protect text) = ((readSign text).1, protect (readSign text).2) := by
  cases text with
  | nil => rfl
  | cons c rest =>
    by_cases hminus : c = '-'
    · rw [hminus, protect_cons_of_ne (by decide), readSign, readSign]
    by_cases hplus : c = '+'
    · rw [hplus, protect_cons_of_ne (by decide), readSign, readSign]
    have hnone : ∀ tail, readSign (c :: tail) = (false, c :: tail) := by
      intro tail
      rw [readSign]
      · rintro _ h
        exact hminus (List.cons.inj h).1
      · rintro _ h
        exact hplus (List.cons.inj h).1
    rw [read_protect_cons (fun text => (false, text)) hnone, hnone]

theorem readExponentDigits_protect (text : List Char) :
    readExponentDigits (protect text) =
      (readExponentDigits text).map fun (e, rest) => (e, protect rest) := by
  simp only [readExponentDigits, readSign_protect, Text.readDigits_protect]
  split <;> rfl

theorem readExponent_protect (text : List Char) :
    readExponent (protect text) =
      (readExponent text).map fun (e, rest) => (e, protect rest) := by
  cases text with
  | nil => rfl
  | cons c rest =>
    by_cases hsmall : c = 'e'
    · rw [hsmall, protect_cons_of_ne (by decide), readExponent, readExponent,
        readExponentDigits_protect, Option.map_map, Option.map_map]
      rfl
    by_cases hlarge : c = 'E'
    · rw [hlarge, protect_cons_of_ne (by decide), readExponent, readExponent,
        readExponentDigits_protect, Option.map_map, Option.map_map]
      rfl
    have hnone : ∀ tail, readExponent (c :: tail) = some (none, c :: tail) := by
      intro tail
      rw [readExponent]
      · rintro _ h
        exact hsmall (List.cons.inj h).1
      · rintro _ h
        exact hlarge (List.cons.inj h).1
    rw [read_protect_cons (fun text => some (none, text)) hnone, hnone, Option.map_some]

theorem read?_protect (text : List Char) :
    read? (protect text) = (read? text).map fun (n, rest) => (n, protect rest) := by
  simp only [read?, Text.readDigits_protect, readFraction_protect, readExponent_protect,
    Option.map_map]
  rfl

end Numeral

namespace Token

theorem readNumber?_protect (negative : Bool) (text : List Char) :
    readNumber? negative (protect text) =
      (readNumber? negative text).map fun (x, rest) => (x, protect rest) := by
  rw [readNumber?, readNumber?, Numeral.read?_protect]
  cases Numeral.read? text with
  | none => rfl
  | some read =>
    simp only [Option.map_some]
    split
    · rw [Option.map_map]
      rfl
    · rfl

/-! ### Texts -/

theorem readUnit?_protect {text rest : List Char} {unit : Nat}
    (h : readUnit? text = some (unit, rest)) :
    readUnit? (protect text) = some (unit, protect rest) := by
  unfold readUnit? at h
  split at h
  · rename_i a b c d tail
    simp only [Option.bind_eq_bind, Option.bind_eq_some_iff, Option.some.injEq,
      Prod.mk.injEq] at h
    obtain ⟨a', ha, b', hb, c', hc, d', hd, rfl, rfl⟩ := h
    have hne : ∀ {c : Char} {n : Nat}, hexValue? c = some n → c ≠ '<' := by
      rintro c n hn rfl
      cases hn
    rw [protect_cons_of_ne (hne ha), protect_cons_of_ne (hne hb), protect_cons_of_ne (hne hc),
      protect_cons_of_ne (hne hd), readUnit?, ha, hb, hc, hd]
    rfl
  · cases h

theorem readNumbered?_protect {text rest : List Char} {c : Char}
    (h : readNumbered? text = some (c, rest)) :
    readNumbered? (protect text) = some (c, protect rest) := by
  rw [readNumbered?] at h
  split at h
  · cases h
  · rename_i unit tail hunit
    rw [readNumbered?, readUnit?_protect hunit]
    simp only
    split at h
    · rename_i hhigh
      rw [if_pos hhigh]
      split at h
      · rename_i low
        rw [protect_cons_of_ne (by decide), protect_cons_of_ne (by decide)]
        simp only
        split at h
        · cases h
        · rename_i hlow
          rw [readUnit?_protect hlow]
          simp only
          split at h
          · rename_i hrange
            rw [if_pos hrange, ← (Prod.mk.inj (Option.some.inj h)).1,
              ← (Prod.mk.inj (Option.some.inj h)).2]
          · cases h
      · cases h
    · rename_i hhigh
      rw [if_neg hhigh]
      split at h
      · cases h
      · rename_i hlow
        rw [if_neg hlow, ← (Prod.mk.inj (Option.some.inj h)).1,
          ← (Prod.mk.inj (Option.some.inj h)).2]

/-- A character that does not begin a pair is read alike. -/
theorem readChar?_protect {text rest : List Char} {c : Char}
    (hpair : ∀ tail, text ≠ '<' :: '/' :: tail) (h : readChar? text = some (c, rest)) :
    readChar? (protect text) = some (c, protect rest) := by
  unfold readChar? at h
  split at h
  · rw [protect_cons_of_ne (by decide), protect_cons_of_ne (by decide), readChar?]
    exact readNumbered?_protect h
  · rename_i d tail hu
    have hne : d ≠ '<' := by
      rintro rfl
      cases h
    rw [protect_cons_of_ne (by decide), protect_cons_of_ne hne]
    split at h <;> cases h <;> rfl
  · rename_i d tail hu hescape
    split at h
    · cases h
    · rename_i hplain
      have hprotect : protect (d :: tail) = d :: protect tail := by
        apply protect_cons
        rintro rfl hhead
        obtain ⟨others, rfl⟩ := List.head?_eq_some_iff.1 hhead
        exact hpair others rfl
      obtain ⟨rfl, rfl⟩ := Prod.mk.inj (Option.some.inj h)
      rw [hprotect, readChar?, if_neg hplain]
      · rintro _ rfl
        exact absurd (Or.inl rfl) hplain
      · rintro _ _ rfl
        exact absurd (Or.inl rfl) hplain
  · cases h

/-- A slash may have a backslash before it. -/
theorem readQuoted?_slash (rest : List Char) :
    readQuoted? ('\\' :: '/' :: rest) = readQuoted? ('/' :: rest) := by
  have hescaped : readChar? ('\\' :: '/' :: rest) = some ('/', rest) := rfl
  have hplain : readChar? ('/' :: rest) = some ('/', rest) := rfl
  rw [readQuoted?_of_readChar? (by simp) hescaped, readQuoted?_of_readChar? (by simp) hplain]

/-- **A text in quotes is read alike.**  A pair in it is read as its two characters, and so
is the pair with a backslash between. -/
theorem readQuoted?_protect {text rest cs : List Char}
    (h : readQuoted? text = some (cs, rest)) :
    readQuoted? (protect text) = some (cs, protect rest) := by
  fun_induction readQuoted? text generalizing cs rest with
  | case1 tail =>
    obtain ⟨rfl, rfl⟩ := Prod.mk.inj (Option.some.inj h)
    rw [protect_cons_of_ne (by decide), readQuoted?]
  | case2 => cases h
  | case3 text hquote c tail hchar hlength ih =>
    obtain ⟨⟨others, end'⟩, hread, hpair⟩ := Option.map_eq_some_iff.1 h
    obtain ⟨rfl, rfl⟩ := Prod.mk.inj hpair
    have htail := ih hread
    by_cases hlt : ∃ after, text = '<' :: '/' :: after
    · -- the less-than sign is read, and the slash stands behind a backslash now
      obtain ⟨after, rfl⟩ := hlt
      obtain ⟨rfl, rfl⟩ := Prod.mk.inj (Option.some.inj hchar)
      have hless : readChar? ('<' :: '\\' :: '/' :: protect after) =
          some ('<', '\\' :: '/' :: protect after) := rfl
      rw [protect_cons_of_ne (by decide)] at htail
      rw [protect_pair, readQuoted?_of_readChar? (by simp) hless, readQuoted?_slash, htail]
      rfl
    · have hfirst : ∀ after, protect text ≠ '"' :: after := by
        intro after hafter
        have hhead : text.head? = some '"' := by rw [← head?_protect, hafter, List.head?_cons]
        obtain ⟨others, hothers⟩ := List.head?_eq_some_iff.1 hhead
        exact hquote others hothers
      have hread := readChar?_protect (fun after hafter => hlt ⟨after, hafter⟩) hchar
      rw [readQuoted?_of_readChar? hfirst hread, htail]
      rfl

/-! ### Tokens -/

theorem next?_protect {c : Char} {rest rest' : List Char} {t : Token}
    (h : next? c rest = some (t, rest')) : next? c (protect rest) = some (t, protect rest') := by
  unfold next? at h
  split at h
  case h_7 =>
    obtain ⟨⟨cs, tail⟩, hread, hpair⟩ := Option.map_eq_some_iff.1 h
    obtain ⟨rfl, rfl⟩ := Prod.mk.inj hpair
    rw [next?, readQuoted?_protect hread]
    rfl
  case h_11 =>
    obtain ⟨⟨x, tail⟩, hread, hpair⟩ := Option.map_eq_some_iff.1 h
    obtain ⟨rfl, rfl⟩ := Prod.mk.inj hpair
    rw [next?, readNumber?_protect, hread]
    rfl
  case h_12 =>
    split at h
    · rename_i hdigit
      obtain ⟨⟨x, tail⟩, hread, hpair⟩ := Option.map_eq_some_iff.1 h
      obtain ⟨rfl, rfl⟩ := Prod.mk.inj hpair
      have hne : c ≠ '<' := by
        rintro rfl
        cases hdigit
      rw [next?_of_isDigit hdigit, ← protect_cons_of_ne hne, readNumber?_protect, hread]
      rfl
    · cases h
  all_goals
    cases h
    rfl

/-- **The tokens of protected data are those of the data.** -/
theorem scan?_protect {text : List Char} {ts : List Token} (h : scan? text = some ts) :
    scan? (protect text) = some ts := by
  fun_induction scan? text generalizing ts with
  | case1 => rw [protect_nil, scan?, h]
  | case2 c rest hspace ih =>
    have hne : c ≠ '<' := by
      rintro rfl
      cases hspace
    rw [protect_cons_of_ne hne, scan?, if_pos hspace]
    exact ih h
  | case3 => cases h
  | case4 c rest hspace t rest' hnext hlength ih =>
    obtain ⟨others, hothers, rfl⟩ := Option.map_eq_some_iff.1 h
    have hne : c ≠ '<' := by
      rintro rfl
      cases hnext
    rw [protect_cons_of_ne hne, scan?_cons_of_next? (Bool.eq_false_iff.2 hspace)
      (next?_protect hnext), ih hothers]
    rfl

end Token

namespace Json

/-- **What can be read is read alike when it is protected.** -/
theorem parseChars?_protect {text : List Char} {value : Json}
    (h : parseChars? text = some value) : parseChars? (protect text) = some value := by
  obtain ⟨ts, hscan, hvalue⟩ := Option.bind_eq_some_iff.1 h
  rw [parseChars?, Token.scan?_protect hscan, Option.bind_some, hvalue]

end Json

end BenchReport
