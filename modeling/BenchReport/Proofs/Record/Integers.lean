import BenchReport.Proofs.Json.Grammar
import BenchReport.Proofs.Record.Numbers

/-!
# Integers with and without quotes

An integer of sixty-four bits may stand in a record as a number or, between quotes, as its digits
with white space around them.  Both are read as the number nearest to it: the number is read as the
integer that its digits are, and is then rounded; the text is a numeral, whose exact value is
rounded.

## Main definitions

* `Json.WritesField` — how the value of a field is written in the text of an object.

## Main results

* `JsonNumber.isForm_integer_iff` — **an integer has one form**, its digits.
* `Json.parseChars?_of_writesField` — the value that is written for a field is read for it.
* `Record.figure_integer` — **an integer is the same figure with quotes and without.**
-/

namespace BenchReport

/-! ### The form of an integer -/

namespace JsonNumber

/-- Digits without a superfluous zero in front are the digits of their number. -/
theorem digits_digitsValue_of_wholeIsPlain {ds : List Char} (hds : ∀ c ∈ ds, c.isDigit)
    (hplain : Token.wholeIsPlain ds = true) : Text.digits (Text.digitsValue ds) = ds := by
  by_cases hzero : ds.head? = some '0'
  · obtain ⟨rest, rfl⟩ := List.head?_eq_some_iff.1 hzero
    cases rest with
    | nil => rfl
    | cons c rest => cases hplain
  · exact Text.digits_digitsValue hds (by rintro rfl; cases hplain) hzero

/-- Digits that are all collected make up what was collected. -/
theorem significand_foldl_pushWhole (ds : List Char) (s : Collected)
    (h : (ds.foldl Collected.pushWhole s).full = false) :
    s.full = false ∧
      (ds.foldl Collected.pushWhole s).significand = Nat.ofDigitChars 10 ds s.significand := by
  induction ds generalizing s with
  | nil => exact ⟨h, rfl⟩
  | cons c ds ih =>
    rw [List.foldl_cons] at h ⊢
    obtain ⟨hroom, hvalue⟩ := ih (s.pushWhole c) h
    unfold Collected.pushWhole at hroom
    simp only at hroom
    split at hroom
    · cases hroom
    · rename_i hfits
      have hpush : (s.pushWhole c).significand =
          s.significand * 10 + (c.toNat - '0'.toNat) := by
        rw [Collected.pushWhole]
        simp only [if_neg hfits]
      refine ⟨hroom, ?_⟩
      rw [hvalue, hpush, Nat.ofDigitChars_cons, Nat.mul_comm]

/-- A numeral that is an integer is its digits. -/
theorem eq_wholeNumeral_of_ofNumeral? {n : Numeral} {negative : Bool} {k : Int}
    (hdigits : ∀ c ∈ n.whole, c.isDigit) (hplain : Token.wholeIsPlain n.whole = true)
    (h : ofNumeral? negative n = some (.integer k)) :
    n = wholeNumeral k.natAbs ∧ negative = decide (k < 0) := by
  obtain ⟨whole, fraction, exponent⟩ := n
  have hall : (collectWhole ⟨whole, fraction, exponent⟩).full = false →
      wholeNumeral (collectWhole ⟨whole, fraction, exponent⟩).significand =
        ⟨whole, none, none⟩ := by
    intro hfull
    have hvalue := (significand_foldl_pushWhole whole ⟨0, 0, false⟩ hfull).2
    have hdigits := digits_digitsValue_of_wholeIsPlain hdigits hplain
    rw [wholeNumeral, collectWhole, hvalue]
    congr 1
  simp only [ofNumeral?, Bool.and_eq_true, Option.isNone_iff_eq_none, Bool.not_eq_true',
    bne_iff_ne] at h
  split at h
  · rename_i hwhole
    obtain ⟨⟨⟨rfl, rfl⟩, hfull⟩, rfl⟩ := hwhole
    obtain rfl := JsonNumber.integer.inj (Option.some.inj h)
    rw [Int.natAbs_natCast, hall hfull]
    exact ⟨rfl, (decide_eq_false (by omega)).symm⟩
  · rename_i hsigned
    split at h
    · rename_i hwhole
      obtain ⟨⟨⟨⟨rfl, rfl⟩, hfull⟩, hne⟩, -⟩ := hwhole
      obtain rfl := JsonNumber.integer.inj (Option.some.inj h)
      rw [Int.natAbs_neg, Int.natAbs_natCast, hall hfull]
      refine ⟨rfl, ?_⟩
      rw [decide_eq_true (by omega)]
      simpa [hfull] using hsigned
    · obtain ⟨y, -, hy⟩ := Option.map_eq_some_iff.1 h
      cases hy

/-- **An integer has one form**: its digits, with a minus sign when it is negative. -/
theorem isForm_integer_iff {part : List Char} {k : Int} (hk : (JsonNumber.integer k).Legible) :
    IsForm part (.integer k) ↔ part = integerChars k := by
  constructor
  · rintro ⟨htext, hplain, -, hvalue⟩
    obtain ⟨hdigits, point, mark, hpoint, hmark, rfl⟩ := htext
    obtain ⟨rfl, rfl⟩ := eq_wholeNumeral_of_ofNumeral? hdigits hplain hvalue
    cases hpoint
    cases hmark
    simp [integerChars, wholeNumeral]
  · rintro rfl
    obtain ⟨c, rest, hchars, -, hread⟩ := Token.beginsNumber_integer hk
    have hnothing : Numeral.Ends [] := by
      intro d hd
      cases hd
    have hnext := hread [] hnothing
    rw [List.append_nil] at hnext
    obtain ⟨part, hpart, htext, -⟩ := Token.exists_isForm_of_next? hnext
    rw [List.append_nil, ← hchars] at htext
    cases hpart with
    | number hform => rwa [← htext] at hform
    | plain hnumber => cases hnumber

/-- The digits of an integer are a numeral, too. -/
theorem isWritten_integerChars (k : Int) :
    Numeral.IsWritten (integerChars k) (decide (k < 0)) (wholeNumeral k.natAbs) := by
  have hunsigned : Numeral.IsUnsigned (Text.digits k.natAbs) (wholeNumeral k.natAbs) :=
    ⟨fun _ => Text.isDigit_of_mem_digits, [], [], .none, .none, by simp [wholeNumeral]⟩
  refine ⟨.inl (Text.digits_ne_nil _), _, _, ?_, hunsigned, rfl⟩
  by_cases hneg : k < 0
  · rw [if_pos hneg, decide_eq_true hneg]
    exact .minus
  · rw [if_neg hneg, decide_eq_false hneg]
    exact .none

end JsonNumber

/-! ### The text of an object -/

namespace Json

/-- Members that stand behind another one, if there are any. -/
inductive IsMore : List Token → List (String × Json) → Prop
  | none : IsMore [] []
  | more {ts : List Token} {members : List (String × Json)} : IsMembers 1 ts members →
      IsMore (.comma :: ts) members

/-- The text is one object in which `part` stands as the value of a field.  Other members may stand
in front of this one and behind it, in front also members with the same key. -/
def WritesField (text : List Char) (field : String) (part : List Char) : Prop :=
  ∃ front back ts us before after, text = front ++ part ++ back ∧
    Token.IsSpelling front (.beginObject :: (ts ++ [.scalar (.string field), .colon])) ∧
    Token.IsSpelling back (us ++ [.endObject]) ∧ Progress.IsDoneMembers 1 ts before ∧
    IsMore us after ∧ ∀ member ∈ after, member.1 ≠ field

variable {text part : List Char} {field : String} {s : JsonScalar}

theorem IsMore.isMembers {us : List Token} {after : List (String × Json)} (h : IsMore us after)
    (key : String) (s : JsonScalar) :
    IsMembers 1 (.scalar (.string key) :: .colon :: .scalar s :: us)
      ((key, .scalar s) :: after) := by
  cases h with
  | none => exact .last key (.scalar s)
  | more hmembers => exact .more key (.scalar s) hmembers

theorem IsMore.ends {us : List Token} {after : List (String × Json)} (h : IsMore us after)
    (hback : Token.IsSpelling text (us ++ [.endObject])) : Numeral.Ends text := by
  cases h with
  | none => exact ends_of_isSpelling hback (.inr (.inr rfl))
  | more _ => exact ends_of_isSpelling hback (.inl rfl)

/-- **The value that is written for a field is read for it.** -/
theorem parseChars?_of_writesField (h : WritesField text field part)
    (hpart : Token.IsForm part (.scalar s)) :
    ∃ r : Record, parseChars? text = some r.toJson ∧ r.get? field = some (.scalar s) := by
  obtain ⟨front, back, ts, us, before, after, rfl, hfront, hback, hbefore, hafter, hother⟩ := h
  refine ⟨⟨collect (before ++ (field, .scalar s) :: after)⟩, ?_, ?_⟩
  · have hvalue := IsValue.object (n := 0) (by decide)
      (hbefore.isMembers (hafter.isMembers field s))
    have hlast : ∀ t, (Token.beginObject :: (ts ++ [.scalar (.string field), .colon])).getLast? =
        some t → t.isNumber = false := by
      rintro t ht
      rw [List.append_cons, ← List.cons_append, List.getLast?_concat] at ht
      obtain rfl := Option.some.inj ht
      rfl
    have hspelling := hfront.append hlast (.token hpart (fun _ => hafter.ends hback) hback)
    rw [parseChars?_eq_some_iff]
    refine ⟨_, ?_, hvalue⟩
    simpa using hspelling
  · rw [Record.get?, fieldOf?_collect]
    have hlookup : after.reverse.lookup field = none := by
      rw [List.lookup_eq_none_iff]
      intro member hmember
      exact bne_iff_ne.2 fun hsame => hother member (List.mem_reverse.1 hmember) hsame.symm
    simp [List.lookup_append, hlookup]

end Json

namespace Record

open Binary64 (IsNearest one)

variable {r : Record} {field : String} {k : Int} {m : Magnitude}

theorem figure?_of_integer (hr : r.get? field = some (.scalar (.number (.integer k))))
    (hm : IsNearest (k.natAbs * one) m.units) : r.figure? field = some (.finite (k < 0) m) := by
  rw [figure?_eq_some_iff]
  exact ⟨_, hr, Json.readsAs_iff_denotes.2 (.integer hm)⟩

theorem figure?_of_quoted {text : String} (hr : r.get? field = some (.scalar (.string text)))
    (htext : Text.Wraps text.toList (JsonNumber.integerChars k))
    (hm : IsNearest (k.natAbs * one) m.units) : r.figure? field = some (.finite (k < 0) m) := by
  have hvalue : (JsonNumber.wholeNumeral k.natAbs).value = k.natAbs := by
    simp [Numeral.value, Numeral.significand, Numeral.power, Numeral.fractionDigits,
      JsonNumber.wholeNumeral, Text.digitsValue_digits]
  rw [← hvalue] at hm
  rw [figure?_eq_some_iff]
  exact ⟨_, hr, Json.readsAs_iff_denotes.2 (.text htext (JsonNumber.isWritten_integerChars k) hm)⟩

/-- **An integer is the same figure with quotes and without**: the number nearest to it, and of two
equally near ones the even one.

So it is in every record whose field is the integer, or a text of its digits with white space around
them; and so it is when records are read from texts.  There the digits stand for the field as they
are, or between quotes in any of the forms that their characters have. -/
theorem figure_integer (hlow : -2 ^ 63 ≤ k) (hhigh : k < 2 ^ 64) (field : String) :
    ∃ m : Magnitude, IsNearest (k.natAbs * one) m.units ∧
      (∀ r : Record, r.get? field = some (.scalar (.number (.integer k))) →
        r.figure? field = some (.finite (k < 0) m)) ∧
      (∀ (r : Record) (text : String), r.get? field = some (.scalar (.string text)) →
        Text.Wraps text.toList (JsonNumber.integerChars k) →
        r.figure? field = some (.finite (k < 0) m)) ∧
      ∀ bare quoted inner content,
        Json.WritesField bare field (JsonNumber.integerChars k) →
        Json.WritesField quoted field ('"' :: (inner ++ ['"'])) →
        Token.IsTextForm inner content → Text.Wraps content (JsonNumber.integerChars k) →
        ∃ r s : Record, Json.parseChars? bare = some r.toJson ∧
          Json.parseChars? quoted = some s.toJson ∧
          r.figure? field = some (.finite (k < 0) m) ∧
          s.figure? field = some (.finite (k < 0) m) := by
  have hlegible : (JsonNumber.integer k).Legible := ⟨hlow, hhigh⟩
  obtain ⟨negative, m, hfinite⟩ :=
    Binary64.exists_eq_finite (JsonNumber.isFinite_toBinary64 hlegible)
  have hm : IsNearest (k.natAbs * one) m.units := (Binary64.ofInt_eq_finite_iff.1 hfinite).2
  refine ⟨m, hm, fun r hr => figure?_of_integer hr hm,
    fun r text hr htext => figure?_of_quoted hr htext hm, ?_⟩
  intro bare quoted inner content hbare hquoted hinner hcontent
  obtain ⟨r, hread, hr⟩ :=
    Json.parseChars?_of_writesField hbare (.number ((JsonNumber.isForm_integer_iff hlegible).2 rfl))
  obtain ⟨s, hread', hs⟩ := Json.parseChars?_of_writesField hquoted (.text hinner)
  have hwraps : Text.Wraps (String.ofList content).toList (JsonNumber.integerChars k) := by
    rwa [String.toList_ofList]
  exact ⟨r, s, hread, hread', figure?_of_integer hr hm, figure?_of_quoted hs hwraps hm⟩

/-- An object with one field `n` and the value that stands there. -/
def oneField (value : String) : List Char := ("\x7b \"n\": " ++ value ++ " \x7d").toList

theorem writesField_oneField (value : String) :
    Json.WritesField (oneField value) "n" value.toList := by
  have hfront : Token.IsSpelling "\x7b \"n\": ".toList
      [.beginObject, .scalar (.string "n"), .colon] :=
    Token.scan?_eq_some_iff.1 (by decide +kernel)
  have hback : Token.IsSpelling " \x7d".toList [.endObject] :=
    Token.scan?_eq_some_iff.1 (by decide +kernel)
  refine ⟨_, _, [], [], [], [], ?_, hfront, hback, .nil, .none, by simp⟩
  rw [oneField, String.toList_append, String.toList_append]

/-- An integer in the middle between two numbers goes to the even one, as it is and between quotes
with white space around it, some of which is escaped. -/
theorem figure_integer_middle : (-2 ^ 63 : Int) ≤ 9007199254740993 ∧
    (9007199254740993 : Int) < 2 ^ 64 ∧ ∃ r s : Record,
      Json.parseChars? (oneField "9007199254740993") = some r.toJson ∧
      Json.parseChars? (oneField "\" 9007199254740993\\t\"") = some s.toJson ∧
      r.figure? "n" = some 9007199254740992 ∧ s.figure? "n" = some 9007199254740992 := by
  have hlow : (-2 ^ 63 : Int) ≤ 9007199254740993 := by decide
  have hhigh : (9007199254740993 : Int) < 2 ^ 64 := by decide
  have hread : Token.readQuoted? (" 9007199254740993\\t".toList ++ ['"']) =
      some (" 9007199254740993\t".toList, []) := by decide +kernel
  obtain ⟨inner, hinner, hquote⟩ := Token.readQuoted?_eq_some_iff.1 hread
  obtain rfl := List.append_cancel_right hquote
  have hwraps : Text.Wraps " 9007199254740993\t".toList
      (JsonNumber.integerChars 9007199254740993) :=
    ⟨[' '], ['\t'], by decide +kernel, List.forall_mem_singleton.2 (by decide),
      List.forall_mem_singleton.2 (by decide)⟩
  have hdigits : JsonNumber.integerChars 9007199254740993 = "9007199254740993".toList := by
    decide +kernel
  obtain ⟨m, hm, -, -, htexts⟩ := figure_integer hlow hhigh "n"
  have heven : Binary64.finite (decide ((9007199254740993 : Int) < 0)) m = 9007199254740992 := by
    rw [← Binary64.ofInt_eq_finite_iff.2 ⟨rfl, hm⟩]
    decide +kernel
  rw [heven] at htexts
  exact ⟨hlow, hhigh, htexts _ _ _ _ (hdigits ▸ writesField_oneField _) (writesField_oneField _)
    hinner hwraps⟩

end Record

end BenchReport
