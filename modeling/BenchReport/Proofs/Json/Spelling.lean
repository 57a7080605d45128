import BenchReport.Proofs.Decimal.Grammar
import BenchReport.Proofs.Json.Token

/-!
# How the tokens of a text are spelled

A token can be spelled in many ways: a character of a text between quotes may be escaped, a number
may have an exponent, and between tokens there may be white space.  The spellings are said here
without reading, and scanning finds the tokens of every spelling and of nothing else.

## Main definitions

* `Token.IsCharForm`, `Token.IsTextForm` — the forms of characters and texts between quotes.
* `JsonNumber.IsForm` — the forms of a number.
* `Token.IsForm` — the forms of a token.
* `Token.IsSpelling` — a text is made of tokens in any of their forms.

## Main results

* `Token.readQuoted?_eq_some_iff` — a text is read up to the quote behind it.
* `Token.next?_of_isForm`, `Token.exists_isForm_of_next?` — a token is read in any of its forms.
* `Token.scan?_eq_some_iff` — **scanning finds the tokens of every spelling, and of nothing else.**
* `Token.IsSpelling.append` — two texts in a row.
-/

namespace BenchReport

namespace Token

/-! ### Texts between quotes -/

/-- Four hexadecimal digits of either case, and the number of the unit that they stand for. -/
inductive IsUnit : List Char → Nat → Prop
  | digits {a b c d : Char} {i j k l : Nat} : hexValue? a = some i → hexValue? b = some j →
      hexValue? c = some k → hexValue? d = some l →
      IsUnit [a, b, c, d] (((i * 16 + j) * 16 + k) * 16 + l)

/-- The characters that have an escape of two signs, each behind the second sign. -/
def shortEscapes : List (Char × Char) :=
  [('"', '"'), ('\\', '\\'), ('/', '/'), ('b', '\x08'), ('f', '\x0c'), ('n', '\n'), ('r', '\r'),
    ('t', '\t')]

/-- The forms of a character between quotes.  The quote, the backslash and the control characters do
not stand for themselves; a character may be numbered by a unit that needs no partner, or by a pair
of units. -/
inductive IsCharForm : List Char → Char → Prop
  | plain {c : Char} : c ≠ '"' → c ≠ '\\' → 0x20 ≤ c.toNat → IsCharForm [c] c
  | short {sign c : Char} : (sign, c) ∈ shortEscapes → IsCharForm ['\\', sign] c
  | single {unit : List Char} {u : Nat} : IsUnit unit u → ¬ (0xD800 ≤ u ∧ u < 0xE000) →
      IsCharForm ('\\' :: 'u' :: unit) (Char.ofNat u)
  | pair {high low : List Char} {u v : Nat} : IsUnit high u → IsUnit low v →
      0xD800 ≤ u ∧ u < 0xDC00 → 0xDC00 ≤ v ∧ v < 0xE000 →
      IsCharForm ('\\' :: 'u' :: (high ++ '\\' :: 'u' :: low))
        (Char.ofNat (0x10000 + (u - 0xD800) * 0x400 + (v - 0xDC00)))

/-- The forms of a text between quotes, character by character. -/
inductive IsTextForm : List Char → List Char → Prop
  | nil : IsTextForm [] []
  | cons {part inner cs : List Char} {c : Char} : IsCharForm part c → IsTextForm inner cs →
      IsTextForm (part ++ inner) (c :: cs)

variable {text part rest inner cs : List Char} {c : Char}

theorem readUnit?_append {u : Nat} (h : IsUnit part u) (rest : List Char) :
    readUnit? (part ++ rest) = some (u, rest) := by
  obtain ⟨ha, hb, hc, hd⟩ := h
  simp [readUnit?, ha, hb, hc, hd]

theorem exists_isUnit {u : Nat} (h : readUnit? text = some (u, rest)) :
    ∃ part, IsUnit part u ∧ text = part ++ rest := by
  unfold readUnit? at h
  split at h
  · rename_i a b c d tail
    simp only [Option.bind_eq_bind, Option.bind_eq_some_iff, Option.some.injEq, Prod.mk.injEq] at h
    obtain ⟨i, hi, j, hj, k, hk, l, hl, rfl, rfl⟩ := h
    exact ⟨[a, b, c, d], .digits hi hj hk hl, rfl⟩
  · cases h

/-- A character is read in any of its forms, and none of them begins with a quote. -/
theorem readChar?_append (h : IsCharForm part c) (rest : List Char) :
    readChar? (part ++ rest) = some (c, rest) ∧ ∀ tail, part ++ rest ≠ '"' :: tail := by
  rcases h with ⟨hquote, hbackslash, hcontrol⟩ | hmem | ⟨hunit, hlone⟩ | ⟨hhigh, hlow, hu, hv⟩
  · refine ⟨?_, fun tail h => hquote (List.cons.inj h).1⟩
    rw [List.singleton_append, readChar?, if_neg (by simp [hbackslash]; omega)]
    · rintro _ rfl
      exact absurd rfl hbackslash
    · rintro _ _ rfl
      exact absurd rfl hbackslash
  · refine ⟨?_, fun tail h => absurd (List.cons.inj h).1 (by decide)⟩
    simp only [shortEscapes, List.mem_cons, Prod.mk.injEq, List.not_mem_nil, or_false] at hmem
    rcases hmem with ⟨rfl, rfl⟩ | ⟨rfl, rfl⟩ | ⟨rfl, rfl⟩ | ⟨rfl, rfl⟩ | ⟨rfl, rfl⟩ | ⟨rfl, rfl⟩ |
      ⟨rfl, rfl⟩ | ⟨rfl, rfl⟩ <;> rfl
  · refine ⟨?_, fun tail h => absurd (List.cons.inj h).1 (by decide)⟩
    show readNumbered? (_ ++ rest) = _
    rw [readNumbered?, readUnit?_append hunit]
    simp only
    rw [if_neg (by omega), if_neg (by omega)]
  · refine ⟨?_, fun tail h => absurd (List.cons.inj h).1 (by decide)⟩
    show readNumbered? (_ ++ rest) = _
    rw [readNumbered?, List.append_assoc, readUnit?_append hhigh]
    simp only [List.cons_append]
    rw [if_pos hu, readUnit?_append hlow]
    simp only
    rw [if_pos hv]

theorem exists_isCharForm_of_readNumbered? (h : readNumbered? text = some (c, rest)) :
    ∃ part, IsCharForm ('\\' :: 'u' :: part) c ∧ text = part ++ rest := by
  unfold readNumbered? at h
  split at h
  · cases h
  · rename_i u tail hunit
    obtain ⟨high, hhigh, rfl⟩ := exists_isUnit hunit
    split at h
    · rename_i hu
      split at h
      · split at h
        · cases h
        · rename_i v tail' hpartner
          obtain ⟨low, hlow, rfl⟩ := exists_isUnit hpartner
          split at h
          · rename_i hv
            obtain ⟨rfl, rfl⟩ := Prod.mk.inj (Option.some.inj h)
            exact ⟨high ++ '\\' :: 'u' :: low, .pair hhigh hlow hu hv, by simp⟩
          · cases h
      · cases h
    · split at h
      · cases h
      · obtain ⟨rfl, rfl⟩ := Prod.mk.inj (Option.some.inj h)
        exact ⟨high, .single hhigh (by omega), rfl⟩

theorem exists_isCharForm (hquote : ∀ tail, text ≠ '"' :: tail)
    (h : readChar? text = some (c, rest)) : ∃ part, IsCharForm part c ∧ text = part ++ rest := by
  unfold readChar? at h
  split at h
  · obtain ⟨part, hpart, rfl⟩ := exists_isCharForm_of_readNumbered? h
    exact ⟨_, hpart, rfl⟩
  · split at h
    case h_9 => cases h
    all_goals
      obtain ⟨rfl, rfl⟩ := Prod.mk.inj (Option.some.inj h)
      exact ⟨_, .short (by simp [shortEscapes]), rfl⟩
  · rename_i d tail _ _
    split at h
    · cases h
    · rename_i hplain
      rw [not_or, Nat.not_lt] at hplain
      obtain ⟨rfl, rfl⟩ := Prod.mk.inj (Option.some.inj h)
      exact ⟨[d], .plain (fun hd => hquote tail (by rw [hd])) hplain.1 hplain.2, rfl⟩
  · cases h

/-- **A text is read up to the quote behind it**, in any of its forms. -/
theorem readQuoted?_eq_some_iff :
    readQuoted? text = some (cs, rest) ↔
      ∃ inner, IsTextForm inner cs ∧ text = inner ++ '"' :: rest := by
  constructor
  · intro h
    fun_induction readQuoted? text generalizing cs rest with
    | case1 tail =>
      obtain ⟨rfl, rfl⟩ := Prod.mk.inj (Option.some.inj h)
      exact ⟨[], .nil, rfl⟩
    | case2 => cases h
    | case3 text hquote c tail hread hlt ih =>
      obtain ⟨⟨ds, tail'⟩, hrest, hpair⟩ := Option.map_eq_some_iff.1 h
      obtain ⟨rfl, rfl⟩ := Prod.mk.inj hpair
      obtain ⟨inner, hinner, rfl⟩ := ih hrest
      obtain ⟨part, hpart, rfl⟩ := exists_isCharForm hquote hread
      exact ⟨part ++ inner, .cons hpart hinner, by rw [List.append_assoc]⟩
  · rintro ⟨inner, hinner, rfl⟩
    induction hinner with
    | nil => rw [List.nil_append, readQuoted?]
    | cons hpart _ ih =>
      obtain ⟨hread, hquote⟩ := readChar?_append hpart (_ ++ '"' :: rest)
      rw [List.append_assoc, readQuoted?_of_readChar? hquote hread, ih]
      rfl

end Token

/-! ### Numbers -/

/-- The forms of a number: a minus sign or none, digits without a zero in front of others, a point
with a digit at least or none, and an exponent or none. -/
inductive JsonNumber.IsForm : List Char → JsonNumber → Prop
  | numeral {text : List Char} {n : Numeral} {negative : Bool} {x : JsonNumber} :
      Numeral.IsUnsigned text n → Token.wholeIsPlain n.whole = true → n.fraction ≠ some [] →
      JsonNumber.ofNumeral? negative n = some x →
      IsForm ((if negative then ['-'] else []) ++ text) x

namespace Token

variable {text part rest : List Char}

theorem readNumber?_append {n : Numeral} {negative : Bool} {x : JsonNumber}
    (h : Numeral.IsUnsigned part n) (hplain : wholeIsPlain n.whole = true)
    (hfraction : n.fraction ≠ some []) (hvalue : JsonNumber.ofNumeral? negative n = some x)
    (hrest : Numeral.Ends rest) : readNumber? negative (part ++ rest) = some (x, rest) := by
  rw [readNumber?, Numeral.read?_append h hrest]
  simp only [hplain, bne_iff_ne.2 hfraction, Bool.and_self, if_true, hvalue, Option.map_some]

theorem exists_isForm_of_readNumber? {negative : Bool} {x : JsonNumber}
    (h : readNumber? negative text = some (x, rest)) :
    ∃ part, JsonNumber.IsForm ((if negative then ['-'] else []) ++ part) x ∧
      text = part ++ rest ∧ Text.EndsDigits rest := by
  unfold readNumber? at h
  split at h
  · cases h
  · rename_i n tail hread
    obtain ⟨part, hpart, rfl, hends⟩ := Numeral.exists_unsigned hread
    split at h
    · rename_i hform
      rw [Bool.and_eq_true, bne_iff_ne] at hform
      obtain ⟨y, hvalue, hpair⟩ := Option.map_eq_some_iff.1 h
      obtain ⟨rfl, rfl⟩ := Prod.mk.inj hpair
      exact ⟨part, .numeral hpart hform.1 hform.2 hvalue, rfl, hends⟩
    · cases h

/-! ### All tokens -/

/-- The token is a text, whose form is not unique. -/
def isText : Token → Bool
  | .scalar (.string _) => true
  | _ => false

/-- The forms of a token: numbers and texts have many, signs and words have one. -/
inductive IsForm : List Char → Token → Prop
  | number {part : List Char} {x : JsonNumber} : JsonNumber.IsForm part x →
      IsForm part (.scalar (.number x))
  | text {inner cs : List Char} : IsTextForm inner cs →
      IsForm ('"' :: (inner ++ ['"'])) (.scalar (.string (String.ofList cs)))
  | plain {t : Token} : t.isNumber = false → t.isText = false → IsForm t.chars t

/-- The text is made of these tokens, each in one of its forms, with white space in front of them,
between and behind them.  A number is followed by something that does not go on with it. -/
inductive IsSpelling : List Char → List Token → Prop
  | nil : IsSpelling [] []
  | space {c : Char} {text : List Char} {ts : List Token} : isSpace c = true →
      IsSpelling text ts → IsSpelling (c :: text) ts
  | token {part text : List Char} {t : Token} {ts : List Token} : IsForm part t →
      (t.isNumber = true → Numeral.Ends text) → IsSpelling text ts →
      IsSpelling (part ++ text) (t :: ts)

/-- A token is read in any of its forms. -/
theorem next?_of_isForm {t : Token} (h : IsForm part t)
    (hrest : t.isNumber = true → Numeral.Ends rest) :
    ∃ c tail, part = c :: tail ∧ isSpace c = false ∧ next? c (tail ++ rest) = some (t, rest) := by
  rcases h with ⟨@⟨text, n, negative, x, htext, hplain, hfraction, hvalue⟩⟩ |
    @⟨inner, cs, hinner⟩ | ⟨hnumber, htext⟩
  · have hread := readNumber?_append htext hplain hfraction hvalue (hrest rfl)
    cases negative with
    | true =>
      refine ⟨'-', text, rfl, rfl, ?_⟩
      rw [next?, hread]
      rfl
    | false =>
      -- there is a digit before the point
      obtain ⟨hdigits, point, mark, -, -, rfl⟩ := htext
      obtain ⟨c, others, hwhole⟩ : ∃ c others, n.whole = c :: others := by
        apply List.exists_cons_of_ne_nil
        intro hnil
        rw [hnil] at hplain
        cases hplain
      have hc : c.isDigit := hdigits c (hwhole ▸ List.mem_cons_self)
      refine ⟨c, others ++ point ++ mark, by simp [hwhole], isSpace_eq_false_of_isDigit hc, ?_⟩
      rw [next?_of_isDigit hc]
      simp only [hwhole, List.cons_append] at hread ⊢
      rw [hread]
      rfl
  · refine ⟨'"', inner ++ ['"'], rfl, rfl, ?_⟩
    have hread := readQuoted?_eq_some_iff.2 ⟨inner, hinner, (rfl : inner ++ '"' :: rest = _)⟩
    rw [next?, List.append_assoc, List.singleton_append, hread]
    rfl
  · cases t with
    | scalar s =>
      cases s with
      | null => exact ⟨'n', _, rfl, rfl, rfl⟩
      | bool value => cases value <;> exact ⟨_, _, rfl, rfl, rfl⟩
      | number x => cases hnumber
      | string text => cases htext
    | _ => exact ⟨_, _, rfl, rfl, rfl⟩

/-- What is read is a token in one of its forms, and no digit follows a number. -/
theorem exists_isForm_of_next? {c : Char} {tail : List Char} {t : Token}
    (h : next? c tail = some (t, rest)) :
    ∃ part, IsForm part t ∧ c :: tail = part ++ rest ∧
      (t.isNumber = true → Text.EndsDigits rest) := by
  unfold next? at h
  split at h
  case h_7 =>
    obtain ⟨⟨cs, _⟩, hread, hpair⟩ := Option.map_eq_some_iff.1 h
    obtain ⟨rfl, rfl⟩ := Prod.mk.inj hpair
    obtain ⟨inner, hinner, rfl⟩ := readQuoted?_eq_some_iff.1 hread
    exact ⟨_, .text hinner, by simp, nofun⟩
  case h_11 =>
    obtain ⟨⟨x, _⟩, hread, hpair⟩ := Option.map_eq_some_iff.1 h
    obtain ⟨rfl, rfl⟩ := Prod.mk.inj hpair
    obtain ⟨part, hpart, rfl, hends⟩ := exists_isForm_of_readNumber? hread
    exact ⟨'-' :: part, .number hpart, rfl, fun _ => hends⟩
  case h_12 =>
    split at h
    · obtain ⟨⟨x, _⟩, hread, hpair⟩ := Option.map_eq_some_iff.1 h
      obtain ⟨rfl, rfl⟩ := Prod.mk.inj hpair
      obtain ⟨part, hpart, htext, hends⟩ := exists_isForm_of_readNumber? hread
      exact ⟨part, .number hpart, htext, fun _ => hends⟩
    · cases h
  all_goals
    obtain ⟨rfl, rfl⟩ := Prod.mk.inj (Option.some.inj h)
    exact ⟨_, .plain rfl rfl, rfl, nofun⟩

/-- A text that is scanned does not go on with a number if it does not begin with a digit. -/
theorem ends_of_scan? {ts : List Token} (h : scan? text = some ts) (hdigit : Text.EndsDigits text) :
    Numeral.Ends text := by
  rintro c hc
  obtain ⟨tail, rfl⟩ : ∃ tail, text = c :: tail := by
    cases text with
    | nil => cases hc
    | cons d tail => exact ⟨tail, by rw [Option.some.inj hc]⟩
  refine ⟨hdigit c rfl, ?_⟩
  -- no token begins with a point or with the mark of an exponent
  refine ⟨?_, ?_, ?_⟩
  all_goals
    rintro rfl
    rw [scan?, if_neg (by decide)] at h
    cases h

/-- **Scanning finds the tokens of every spelling, and of nothing else.** -/
theorem scan?_eq_some_iff {ts : List Token} : scan? text = some ts ↔ IsSpelling text ts := by
  constructor
  · intro h
    fun_induction scan? text generalizing ts with
    | case1 =>
      obtain rfl := Option.some.inj h
      exact .nil
    | case2 c tail hspace ih => exact .space hspace (ih h)
    | case3 => cases h
    | case4 c tail hspace t rest hnext hlt ih =>
      obtain ⟨us, hus, rfl⟩ := Option.map_eq_some_iff.1 h
      obtain ⟨part, hpart, htext, hends⟩ := exists_isForm_of_next? hnext
      rw [htext]
      exact .token hpart (fun hnumber => ends_of_scan? hus (hends hnumber)) (ih hus)
  · intro h
    induction h with
    | nil => rw [scan?]
    | space hspace _ ih => rw [scan?, if_pos hspace, ih]
    | token hpart hends _ ih =>
      obtain ⟨c, tail, rfl, hspace, hnext⟩ := next?_of_isForm hpart hends
      rw [List.cons_append, scan?_cons_of_next? hspace hnext, ih]
      rfl

/-! ### Parts of a text -/

/-- Two texts in a row are made of the tokens of both, when the first does not end with a number. -/
theorem IsSpelling.append {front back : List Char} {ts us : List Token} (h : IsSpelling front ts)
    (hlast : ∀ t, ts.getLast? = some t → t.isNumber = false) (hback : IsSpelling back us) :
    IsSpelling (front ++ back) (ts ++ us) := by
  induction h with
  | nil => exact hback
  | space hspace _ ih => exact .space hspace (ih hlast)
  | @token part text t ts hpart hends hrest ih =>
    rw [List.append_assoc]
    refine .token hpart (fun hnumber c hc => ?_) (ih fun u hu => hlast u ?_)
    · cases text with
      | cons d text => exact hends hnumber c hc
      | nil =>
        -- without a text behind it the number is the last token
        have hnone := scan?_eq_some_iff.2 hrest
        rw [scan?] at hnone
        obtain rfl := Option.some.inj hnone
        rw [hlast t rfl] at hnumber
        cases hnumber
    · rw [List.getLast?_cons, hu]
      rfl

end Token

end BenchReport
