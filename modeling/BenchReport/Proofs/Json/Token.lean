import BenchReport.Proofs.Json.Number

/-!
# Written tokens are read back

Texts, signs and words are read as they were written.  A number is read as some number, and
an integer as itself, when what follows does not go on with it.

## Main definitions

* `JsonNumber.Legible`, `Token.Legible` — what has a written form that can be read.
* `JsonNumber.reread`, `Token.reread` — what is read when it was written.

## Main results

* `Token.readQuoted?_quote` — **a written text is read back.**
* `Token.exists_beginsNumber_chars` — a written number can be read.
* `Token.next?_chars` — **a written token is read back**, numbers up to rounding.
-/

namespace BenchReport

namespace Token

/-! ### Texts -/

theorem readQuoted?_of_readChar? {text rest : List Char} {c : Char}
    (hquote : ∀ tail, text ≠ '"' :: tail) (h : readChar? text = some (c, rest)) :
    readQuoted? text = (readQuoted? rest).map fun (cs, rest) => (c :: cs, rest) := by
  rw [readQuoted?]
  · split
    · rename_i hnone
      rw [h] at hnone
      cases hnone
    · rename_i d tail hsome
      rw [h] at hsome
      obtain ⟨rfl, rfl⟩ := Prod.mk.inj (Option.some.inj hsome)
      rfl
  · exact hquote

theorem hexValue?_hexDigit {n : Nat} (h : n < 16) : hexValue? (hexDigit n) = some n := by
  have hall : ∀ n : Fin 16, hexValue? (hexDigit n) = some n.val := by decide
  exact hall ⟨n, h⟩

/-- An escaped character is read back. -/
theorem readChar?_escapeChar (c : Char) (rest : List Char) :
    readChar? (escapeChar c ++ rest) = some (c, rest) := by
  rw [escapeChar]
  split_ifs with hquote hbackslash hbackspace hfeed hline hreturn htab hcontrol
  · rw [hquote]; rfl
  · rw [hbackslash]; rfl
  · rw [hbackspace]; rfl
  · rw [hfeed]; rfl
  · rw [hline]; rfl
  · rw [hreturn]; rfl
  · rw [htab]; rfl
  · -- a control character is its number in four digits, of which the first two are zero
    have hunit : readUnit?
        ('0' :: '0' :: hexDigit (c.toNat / 16) :: hexDigit (c.toNat % 16) :: rest) =
        some (c.toNat, rest) := by
      have hzero : hexValue? '0' = some 0 := rfl
      simp [readUnit?, hzero, hexValue?_hexDigit (show c.toNat / 16 < 16 by omega),
        hexValue?_hexDigit (show c.toNat % 16 < 16 by omega)]
      omega
    show readNumbered? ('0' :: '0' :: hexDigit (c.toNat / 16) :: hexDigit (c.toNat % 16) :: rest) =
      some (c, rest)
    rw [readNumbered?, hunit]
    simp only
    rw [if_neg (by omega), if_neg (by omega), Char.ofNat_toNat]
  · rw [List.singleton_append, readChar?, if_neg (by simp [hbackslash, hcontrol])]
    · rintro _ rfl
      exact absurd rfl hbackslash
    · rintro _ _ rfl
      exact absurd rfl hbackslash

theorem escapeChar_ne_quote (c : Char) (rest tail : List Char) :
    escapeChar c ++ rest ≠ '"' :: tail := by
  rw [escapeChar]
  split_ifs with hquote <;> simp [hquote]

/-- **A written text is read back.** -/
theorem readQuoted?_quote (text rest : List Char) :
    readQuoted? (text.flatMap escapeChar ++ '"' :: rest) = some (text, rest) := by
  induction text with
  | nil => rw [List.flatMap_nil, List.nil_append, readQuoted?]
  | cons c text ih =>
    rw [List.flatMap_cons, List.append_assoc,
      readQuoted?_of_readChar? (escapeChar_ne_quote c _) (readChar?_escapeChar c _), ih]
    rfl

/-! ### Numbers -/

theorem next?_of_isDigit {c : Char} (h : c.isDigit) (rest : List Char) :
    next? c rest =
      (readNumber? false (c :: rest)).map fun (x, rest) => (.scalar (.number x), rest) := by
  unfold next?
  split
  case h_12 => rw [if_pos h]
  all_goals cases h

/-- A numeral of the right form that is not too large can be read. -/
theorem exists_readNumber?_written {n : Numeral} (plus : Bool) (hdigital : n.Digital)
    (hform : JsonNumber.Formed n) (negative : Bool)
    (hvalue : (JsonNumber.ofNumeral? negative n).isSome) :
    ∃ x, JsonNumber.ofNumeral? negative n = some x ∧ ∀ rest, Numeral.Ends rest →
      readNumber? negative (n.written plus ++ rest) = some (x, rest) := by
  obtain ⟨x, hx⟩ := Option.isSome_iff_exists.1 hvalue
  refine ⟨x, hx, fun rest hrest => ?_⟩
  have hfraction : (n.fraction != some []) = true := bne_iff_ne.2 hform.fraction
  rw [readNumber?, Numeral.read?_written plus hdigital hrest]
  simp only [hform.plain, hfraction, Bool.and_self, if_true, hx, Option.map_some]

end Token

namespace JsonNumber

/-- The number has a written form that is the form of a number: it is finite, or an integer
of the range that is read as integers. -/
def Legible : JsonNumber → Prop
  | .integer n => -2 ^ 63 ≤ n ∧ n < 2 ^ 64
  | .real x => x.isFinite

theorem ofNumeral?_isSome {n : Numeral} (negative : Bool) (h : (magnitude? n).isSome) :
    (ofNumeral? negative n).isSome := by
  obtain ⟨x, hx⟩ := Option.isSome_iff_exists.1 h
  rw [ofNumeral?]
  split
  · rfl
  · split
    · rfl
    · rw [hx]
      rfl

/-- The numeral that a magnitude is written as. -/
def realNumeral (m : Magnitude) : Numeral :=
  if m.units = 0 then ⟨['0'], some ['0'], none⟩ else layout.numeral m.shortest

theorem realChars_finite (negative : Bool) (m : Magnitude) :
    realChars (.finite negative m) =
      (if negative then ['-'] else []) ++ (realNumeral m).written true := by
  rw [realChars, realNumeral]
  by_cases hm : m.units = 0
  · rw [if_pos hm, if_pos hm]
    rfl
  · rw [if_neg hm, if_neg hm, ← Layout.written_numeral]
    rfl

theorem realNumeral_digital (m : Magnitude) : (realNumeral m).Digital := by
  rw [realNumeral]
  split
  · exact ⟨by simp, by simp [Numeral.fractionDigits]⟩
  · exact Layout.numeral_digital

theorem formed_realNumeral (m : Magnitude) : Formed (realNumeral m) := by
  rw [realNumeral]
  split
  · exact ⟨rfl, by decide, by decide, by decide⟩
  · rename_i hm
    have hd := Magnitude.shortest_writtenFor (Nat.pos_of_ne_zero hm)
    exact formed_numeral hd.digits_pos (natAbs_lead_lt hd)

theorem magnitude?_realNumeral_isSome (m : Magnitude) : (magnitude? (realNumeral m)).isSome := by
  rw [realNumeral]
  split
  · rfl
  · rename_i hm
    exact magnitude?_isSome m (Nat.pos_of_ne_zero hm)

/-- The numeral that a whole number is written as. -/
def wholeNumeral (n : Nat) : Numeral := ⟨Text.digits n, none, none⟩

theorem wholeNumeral_digital (n : Nat) : (wholeNumeral n).Digital :=
  ⟨fun _ => Text.isDigit_of_mem_digits, by simp [wholeNumeral, Numeral.fractionDigits]⟩

theorem formed_wholeNumeral {n : Nat} (hn : n < wordLimit) : Formed (wholeNumeral n) := by
  refine ⟨?_, by simp [wholeNumeral], ?_, (by decide : 0 < exponentLimit)⟩
  · rcases Nat.eq_zero_or_pos n with rfl | hpos
    · rfl
    · exact wholeIsPlain_of_head? (Text.digits_ne_nil n) (Text.head?_digits_ne_zero hpos)
  · rw [wholeNumeral, Text.digitsValue_digits]
    exact hn

theorem collectWhole_wholeNumeral {n : Nat} (hn : n < wordLimit) :
    collectWhole (wholeNumeral n) = ⟨n, 0, false⟩ := by
  have hvalue : Nat.ofDigitChars 10 (Text.digits n) 0 = n := Text.digitsValue_digits n
  rw [collectWhole, wholeNumeral, foldl_pushWhole _ _ (by rwa [hvalue]), hvalue]

theorem ofNumeral?_wholeNumeral {n : Nat} (hn : n < wordLimit) :
    ofNumeral? false (wholeNumeral n) = some (.integer n) := by
  rw [ofNumeral?, collectWhole_wholeNumeral hn]
  rfl

theorem ofNumeral?_negative_wholeNumeral {n : Nat} (hpos : 0 < n) (hn : n ≤ 2 ^ 63) :
    ofNumeral? true (wholeNumeral n) = some (.integer (-n)) := by
  have hfits : n < wordLimit := Nat.lt_of_le_of_lt hn (by decide)
  have hne : (n != 0) = true := bne_iff_ne.2 (Nat.ne_of_gt hpos)
  rw [ofNumeral?, collectWhole_wholeNumeral hfits]
  simp only [wholeNumeral, Option.isNone_none, Bool.and_self, Bool.not_false, Bool.not_true,
    Bool.and_false, Bool.false_eq_true, if_false, hne, Nat.pow_eq, hn, decide_true, if_true]

/-- What is read when the number was written. -/
def reread (x : JsonNumber) : JsonNumber :=
  match x.chars with
  | [] => x
  | c :: rest =>
      match Token.next? c rest with
      | some (.scalar (.number y), _) => y
      | _ => x

end JsonNumber

namespace Token

/-- The first character begins a token, which is read as a number up to what follows. -/
def BeginsNumber (text : List Char) (y : JsonNumber) : Prop :=
  ∃ c rest, text = c :: rest ∧ isSpace c = false ∧ ∀ tail, Numeral.Ends tail →
    next? c (rest ++ tail) = some (.scalar (.number y), tail)

theorem isSpace_eq_false_of_isDigit {c : Char} (h : c.isDigit) : isSpace c = false := by
  rw [isSpace]
  simp only [Bool.or_eq_false_iff, decide_eq_false_iff_not]
  refine ⟨⟨⟨?_, ?_⟩, ?_⟩, ?_⟩ <;> rintro rfl <;> cases h

/-- A numeral of the right form, with a minus sign or without, begins a number. -/
theorem exists_beginsNumber {n : Numeral} (hdigital : n.Digital) (hform : JsonNumber.Formed n)
    (negative : Bool) (hvalue : (JsonNumber.ofNumeral? negative n).isSome) :
    ∃ y, JsonNumber.ofNumeral? negative n = some y ∧
      BeginsNumber ((if negative then ['-'] else []) ++ n.written true) y := by
  obtain ⟨y, hy, hread⟩ := exists_readNumber?_written true hdigital hform negative hvalue
  refine ⟨y, hy, ?_⟩
  cases negative with
  | true =>
    refine ⟨'-', n.written true, rfl, rfl, fun tail htail => ?_⟩
    rw [next?, hread tail htail]
    rfl
  | false =>
    obtain ⟨c, others, hwhole⟩ : ∃ c others, n.whole = c :: others := by
      apply List.exists_cons_of_ne_nil
      intro hnil
      have hplain := hform.plain
      rw [hnil] at hplain
      cases hplain
    have hc : c.isDigit := hdigital.whole c (hwhole ▸ List.mem_cons_self)
    obtain ⟨rest, hrest⟩ : ∃ rest, n.written true = c :: rest := by
      rw [Numeral.written, hwhole]
      exact ⟨_, rfl⟩
    refine ⟨c, rest, hrest, isSpace_eq_false_of_isDigit hc, fun tail htail => ?_⟩
    rw [next?_of_isDigit hc, ← List.cons_append, ← hrest, hread tail htail]
    rfl

theorem BeginsNumber.reread_eq {x y : JsonNumber} (h : BeginsNumber x.chars y) :
    x.reread = y := by
  obtain ⟨c, rest, hchars, -, hread⟩ := h
  have hend := hread [] (fun _ h => nomatch h)
  rw [List.append_nil] at hend
  rw [JsonNumber.reread, hchars]
  simp only [hend]

/-- An integer of the range is read back. -/
theorem beginsNumber_integer {n : Int} (h : (JsonNumber.integer n).Legible) :
    BeginsNumber (JsonNumber.integer n).chars (.integer n) := by
  obtain ⟨hlow, hhigh⟩ := h
  have hchars : (JsonNumber.integer n).chars = (if decide (n < 0) then ['-'] else []) ++
      (JsonNumber.wholeNumeral n.natAbs).written true := by
    simp [JsonNumber.chars, JsonNumber.integerChars, JsonNumber.wholeNumeral, Numeral.written,
      Numeral.fractionPart, Numeral.exponentPart]
  have hfits : n.natAbs < JsonNumber.wordLimit := by
    rw [JsonNumber.wordLimit, Nat.pow_eq]
    omega
  have hvalue : JsonNumber.ofNumeral? (decide (n < 0)) (JsonNumber.wholeNumeral n.natAbs) =
      some (.integer n) := by
    by_cases hneg : n < 0
    · have habs : -(n.natAbs : Int) = n := by omega
      rw [decide_eq_true hneg,
        JsonNumber.ofNumeral?_negative_wholeNumeral (by omega) (by omega), habs]
    · have habs : (n.natAbs : Int) = n := by omega
      rw [decide_eq_false hneg, JsonNumber.ofNumeral?_wholeNumeral hfits, habs]
  obtain ⟨y, hy, hbegins⟩ := exists_beginsNumber (JsonNumber.wholeNumeral_digital n.natAbs)
    (JsonNumber.formed_wholeNumeral hfits) (decide (n < 0)) (by rw [hvalue]; rfl)
  obtain rfl : .integer n = y := Option.some.inj (hvalue.symm.trans hy)
  exact hchars ▸ hbegins

/-- **A legible number can be read.** -/
theorem exists_beginsNumber_chars {x : JsonNumber} (h : x.Legible) :
    ∃ y, BeginsNumber x.chars y := by
  cases x with
  | integer n => exact ⟨_, beginsNumber_integer h⟩
  | real x =>
    cases x with
    | finite negative m =>
      obtain ⟨y, -, hy⟩ := exists_beginsNumber (JsonNumber.realNumeral_digital m)
        (JsonNumber.formed_realNumeral m) negative
        (JsonNumber.ofNumeral?_isSome negative (JsonNumber.magnitude?_realNumeral_isSome m))
      rw [← JsonNumber.realChars_finite] at hy
      exact ⟨y, hy⟩
    | infinite negative => cases h
    | nan => cases h

/-! ### All tokens -/

/-- The token has a written form that can be read. -/
def Legible : Token → Prop
  | .scalar (.number x) => x.Legible
  | _ => True

/-- What is read when the token was written. -/
def reread : Token → Token
  | .scalar (.number x) => .scalar (.number x.reread)
  | t => t

/-- The token is a number, so that more digits would change it. -/
def isNumber : Token → Bool
  | .scalar (.number _) => true
  | _ => false

/-- **A written token is read back**, a number up to rounding. -/
theorem next?_chars {t : Token} (h : t.Legible) :
    ∃ c rest, t.chars = c :: rest ∧ isSpace c = false ∧ ∀ tail,
      (t.isNumber → Numeral.Ends tail) → next? c (rest ++ tail) = some (t.reread, tail) := by
  cases t with
  | scalar s =>
    cases s with
    | null => exact ⟨'n', _, rfl, rfl, fun _ _ => rfl⟩
    | bool value => cases value <;> exact ⟨_, _, rfl, rfl, fun _ _ => rfl⟩
    | number x =>
      obtain ⟨y, hy⟩ := exists_beginsNumber_chars h
      obtain ⟨c, rest, hchars, hspace, hread⟩ := id hy
      refine ⟨c, rest, hchars, hspace, fun tail htail => ?_⟩
      rw [hread tail (htail rfl), reread, hy.reread_eq]
    | string text =>
      refine ⟨'"', _, rfl, rfl, fun tail _ => ?_⟩
      rw [next?, List.append_assoc, List.singleton_append, readQuoted?_quote, Option.map_some]
      simp only [String.ofList_toList, reread]
  | _ => exact ⟨_, _, rfl, rfl, fun _ _ => rfl⟩

theorem scan?_cons_of_next? {c : Char} {rest tail : List Char} {t : Token}
    (hspace : isSpace c = false) (h : next? c rest = some (t, tail)) :
    scan? (c :: rest) = (scan? tail).map (t :: ·) := by
  rw [scan?, if_neg (by rw [hspace]; exact Bool.false_ne_true)]
  split
  · rename_i hnone
    rw [h] at hnone
    cases hnone
  · rename_i t' tail' hsome
    rw [h] at hsome
    obtain ⟨rfl, rfl⟩ := Prod.mk.inj (Option.some.inj hsome)
    rfl

end Token

end BenchReport
