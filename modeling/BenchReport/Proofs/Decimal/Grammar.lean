import BenchReport.Proofs.Decimal.Numeral
import Mathlib.Data.List.Basic

/-!
# The texts that are numerals

A text is read as a number when it is, from end to end, a sign or none, digits with a point or
without, at least one digit in all, and an exponent with a digit at least or none.  What the parts
are is said here without reading, and reading accepts these texts and no others.

## Main definitions

* `Numeral.IsSign`, `Numeral.IsFraction`, `Numeral.IsExponent` — the parts of a text.
* `Numeral.IsWritten` — the text is a numeral with a sign.

## Main results

* `Numeral.read?_append`, `Numeral.exists_unsigned` — what is read off the front of a text.
* `Numeral.read?_eq_some_nil_iff` — a text is read to its end when it consists of these parts.
* `Numeral.parse?_eq_some_iff` — **what is read as a number is a numeral, and no other text is.**
-/

namespace BenchReport

namespace Numeral

/-- A sign or none. -/
inductive IsSign : List Char → Bool → Prop where
  | none : IsSign [] false
  | plus : IsSign ['+'] false
  | minus : IsSign ['-'] true

/-- A point and the digits behind it, which may be none, or nothing at all. -/
inductive IsFraction : List Char → Option (List Char) → Prop where
  | none : IsFraction [] none
  | point {ds : List Char} : (∀ c ∈ ds, c.isDigit) → IsFraction ('.' :: ds) (some ds)

/-- The mark of an exponent, a sign or none, and digits; or nothing at all. -/
inductive IsExponent : List Char → Option Int → Prop where
  | none : IsExponent [] none
  | mark {c : Char} {sign ds : List Char} {negative : Bool} : c = 'e' ∨ c = 'E' →
      IsSign sign negative → ds ≠ [] → (∀ d ∈ ds, d.isDigit) →
      IsExponent (c :: (sign ++ ds)) (some (Binary64.signed negative (Text.digitsValue ds)))

/-- The text consists of the digits before the point, the point with the digits behind it, and the
exponent of a numeral. -/
def IsUnsigned (text : List Char) (n : Numeral) : Prop :=
  (∀ c ∈ n.whole, c.isDigit) ∧ ∃ fraction exponent, IsFraction fraction n.fraction ∧
    IsExponent exponent n.exponent ∧ text = n.whole ++ fraction ++ exponent

/-- The text is a numeral with a sign, and there is a digit before the point or behind it. -/
def IsWritten (text : List Char) (negative : Bool) (n : Numeral) : Prop :=
  (n.whole ≠ [] ∨ n.fractionDigits ≠ []) ∧
    ∃ sign rest, IsSign sign negative ∧ IsUnsigned rest n ∧ text = sign ++ rest

/-! ### Signs -/

variable {text sign part rest : List Char}

/-- The text does not begin with a sign. -/
def Unsigned (text : List Char) : Prop := text.head? ≠ some '+' ∧ text.head? ≠ some '-'

theorem readSign_append {negative : Bool} (h : IsSign sign negative) (hrest : Unsigned rest) :
    readSign (sign ++ rest) = (negative, rest) := by
  cases h with
  | none =>
    rw [List.nil_append, readSign]
    · rintro _ rfl
      exact hrest.2 rfl
    · rintro _ rfl
      exact hrest.1 rfl
  | plus => rfl
  | minus => rfl

theorem exists_sign (text : List Char) :
    ∃ sign, IsSign sign (readSign text).1 ∧ text = sign ++ (readSign text).2 := by
  fun_cases readSign text with
  | case1 rest => exact ⟨_, .minus, rfl⟩
  | case2 rest => exact ⟨_, .plus, rfl⟩
  | case3 => exact ⟨_, .none, rfl⟩

theorem unsigned_append_of_isDigit {ds : List Char} (hne : ds ≠ []) (hds : ∀ c ∈ ds, c.isDigit)
    (rest : List Char) : Unsigned (ds ++ rest) := by
  obtain ⟨c, ds, rfl⟩ := List.exists_cons_of_ne_nil hne
  have hc := hds c List.mem_cons_self
  constructor <;> rintro ⟨⟩ <;> cases hc

/-! ### Points and exponents -/

theorem readFraction_append {fraction : Option (List Char)} (h : IsFraction part fraction)
    (hrest : Text.EndsDigits rest) (hpoint : rest.head? ≠ some '.') :
    readFraction (part ++ rest) = (fraction, rest) := by
  cases h with
  | none =>
    rw [List.nil_append, readFraction]
    rintro _ rfl
    exact hpoint rfl
  | point hds => rw [List.cons_append, readFraction, Text.readDigits_append_of hds hrest]

theorem exists_fraction (text : List Char) :
    ∃ part, IsFraction part (readFraction text).1 ∧ text = part ++ (readFraction text).2 ∧
      (Text.EndsDigits text → Text.EndsDigits (readFraction text).2) := by
  fun_cases readFraction text with
  | case1 rest =>
    exact ⟨_, .point (fun c hc => List.all_eq_true.1 List.all_takeWhile c hc),
      congrArg _ (Text.readDigits_append rest).symm, fun _ => Text.endsDigits_readDigits rest⟩
  | case2 => exact ⟨_, .none, rfl, id⟩

theorem readExponentDigits_append {negative : Bool} {ds : List Char} (hsign : IsSign sign negative)
    (hne : ds ≠ []) (hds : ∀ c ∈ ds, c.isDigit) (hrest : Text.EndsDigits rest) :
    readExponentDigits (sign ++ ds ++ rest) =
      some (Binary64.signed negative (Text.digitsValue ds), rest) := by
  rw [readExponentDigits, List.append_assoc,
    readSign_append hsign (unsigned_append_of_isDigit hne hds rest)]
  simp [Text.readDigits_append_of hds hrest, hne]

theorem exists_exponentDigits {e : Int} (h : readExponentDigits text = some (e, rest)) :
    ∃ sign ds negative, IsSign sign negative ∧ ds ≠ [] ∧ (∀ c ∈ ds, c.isDigit) ∧
      text = sign ++ ds ++ rest ∧ Text.EndsDigits rest ∧
      e = Binary64.signed negative (Text.digitsValue ds) := by
  obtain ⟨sign, hsign, htext⟩ := exists_sign text
  have hdigits := Text.readDigits_append (readSign text).2
  have hends := Text.endsDigits_readDigits (readSign text).2
  rw [readExponentDigits] at h
  simp only at h
  split at h
  · cases h
  · rename_i hne
    obtain ⟨he, rfl⟩ := Prod.mk.inj (Option.some.inj h)
    refine ⟨sign, _, _, hsign, by simpa using hne, fun c hc => ?_, ?_, hends, he.symm⟩
    · exact List.all_eq_true.1 List.all_takeWhile c hc
    · rwa [List.append_assoc, hdigits]

/-- An exponent is read up to what does not go on with it. -/
theorem readExponent_append {exponent : Option Int} (h : IsExponent part exponent)
    (hrest : Ends rest) : readExponent (part ++ rest) = some (exponent, rest) := by
  rcases h with _ | ⟨hc, hsign, hne, hds⟩
  · rw [List.nil_append, readExponent]
    · rintro _ rfl
      exact (hrest _ rfl).2.2.1 rfl
    · rintro _ rfl
      exact (hrest _ rfl).2.2.2 rfl
  · rcases hc with rfl | rfl <;>
      rw [List.cons_append, readExponent, readExponentDigits_append hsign hne hds hrest.endsDigits,
        Option.map_some]

theorem exists_exponent {exponent : Option Int} (h : readExponent text = some (exponent, rest)) :
    ∃ part, IsExponent part exponent ∧ text = part ++ rest ∧
      (Text.EndsDigits text → Text.EndsDigits rest) := by
  have hmark : ∀ {c : Char} {tail : List Char}, c = 'e' ∨ c = 'E' →
      (readExponentDigits tail).map (fun found => (some found.1, found.2)) =
        some (exponent, rest) →
      ∃ part, IsExponent part exponent ∧ c :: tail = part ++ rest ∧
        (Text.EndsDigits (c :: tail) → Text.EndsDigits rest) := by
    intro c tail hc h
    obtain ⟨⟨e, _⟩, hdigits, hpair⟩ := Option.map_eq_some_iff.1 h
    obtain ⟨rfl, rfl⟩ := Prod.mk.inj hpair
    obtain ⟨sign, ds, negative, hsign, hne, hds, rfl, hends, rfl⟩ := exists_exponentDigits hdigits
    exact ⟨_, .mark hc hsign hne hds, rfl, fun _ => hends⟩
  unfold readExponent at h
  split at h
  · exact hmark (.inl rfl) h
  · exact hmark (.inr rfl) h
  · obtain ⟨rfl, rfl⟩ := Prod.mk.inj (Option.some.inj h)
    exact ⟨_, .none, rfl, id⟩

/-! ### Whole texts -/

theorem IsExponent.endsDigits {exponent : Option Int} (h : IsExponent part exponent)
    (hrest : Ends rest) :
    Text.EndsDigits (part ++ rest) ∧ (part ++ rest).head? ≠ some '.' := by
  rcases h with _ | ⟨hc, -, -, -⟩
  · exact ⟨hrest.endsDigits, fun hpoint => (hrest _ hpoint).2.1 rfl⟩
  · rcases hc with rfl | rfl <;> exact ⟨Text.endsDigits_cons rfl _, by simp⟩

/-- **A numeral is read up to what does not go on with it.** -/
theorem read?_append {n : Numeral} (h : IsUnsigned text n) (hrest : Ends rest) :
    read? (text ++ rest) = some (n, rest) := by
  obtain ⟨whole, fraction, exponent⟩ := n
  obtain ⟨hwhole, point, mark, hfraction, hexponent, rfl⟩ := h
  obtain ⟨hends, hpoint⟩ := hexponent.endsDigits hrest
  have hdigits : Text.readDigits (whole ++ (point ++ (mark ++ rest))) =
      (whole, point ++ (mark ++ rest)) := by
    refine Text.readDigits_append_of hwhole ?_
    cases hfraction with
    | none => exact hends
    | point _ => exact Text.endsDigits_cons rfl _
  rw [List.append_assoc, List.append_assoc, read?, hdigits]
  simp only [readFraction_append hfraction hends hpoint, readExponent_append hexponent hrest]
  rfl

/-- What is read is a numeral, and no digit follows. -/
theorem exists_unsigned {n : Numeral} (h : read? text = some (n, rest)) :
    ∃ part, IsUnsigned part n ∧ text = part ++ rest ∧ Text.EndsDigits rest := by
  obtain ⟨⟨exponent, tail⟩, hread, hpair⟩ := Option.map_eq_some_iff.1 h
  obtain ⟨rfl, rfl⟩ := Prod.mk.inj hpair
  obtain ⟨point, hpoint, hsplit, hpointEnds⟩ := exists_fraction (Text.readDigits text).2
  obtain ⟨mark, hmark, htail, hends⟩ := exists_exponent hread
  have hbehind : (Text.readDigits text).2 = point ++ (mark ++ tail) := by
    rw [← htail]
    exact hsplit
  refine ⟨(Text.readDigits text).1 ++ point ++ mark,
    ⟨fun c hc => List.all_eq_true.1 List.all_takeWhile c hc, point, mark, hpoint, hmark, rfl⟩, ?_,
    hends (hpointEnds (Text.endsDigits_readDigits text))⟩
  rw [List.append_assoc, List.append_assoc, ← hbehind, Text.readDigits_append]

/-- A text is read to its end when it consists of the parts of a numeral. -/
theorem read?_eq_some_nil_iff {n : Numeral} :
    read? text = some (n, []) ↔ IsUnsigned text n := by
  constructor
  · intro h
    obtain ⟨part, hpart, rfl, -⟩ := exists_unsigned h
    rwa [List.append_nil]
  · intro h
    have hread := read?_append h fun _ (hc : [].head? = some _) => nomatch hc
    rwa [List.append_nil] at hread

/-- What stands behind the sign does not begin with another one. -/
theorem IsUnsigned.unsigned {n : Numeral} (h : IsUnsigned text n)
    (hdigit : n.whole ≠ [] ∨ n.fractionDigits ≠ []) : Unsigned text := by
  obtain ⟨whole, fraction, exponent⟩ := n
  obtain ⟨hwhole, point, mark, hfraction, -, rfl⟩ := h
  rcases eq_or_ne whole [] with rfl | hne
  · cases hfraction with
    | none => exact absurd rfl (hdigit.resolve_left fun h => h rfl)
    | point _ => exact ⟨by simp, by simp⟩
  · rw [List.append_assoc]
    exact unsigned_append_of_isDigit hne hwhole _

/-- **What is read as a number is a numeral with a sign, and no other text is.** -/
theorem parse?_eq_some_iff {v : Binary64} :
    parse? text = some v ↔ ∃ negative n, IsWritten text negative n ∧ v = n.toBinary64 negative := by
  constructor
  · intro h
    rw [parse?] at h
    simp only at h
    split at h
    · rename_i n hread
      split at h
      · cases h
      · rename_i hempty
        obtain rfl := Option.some.inj h
        obtain ⟨sign, hsign, htext⟩ := exists_sign text
        refine ⟨_, n, ⟨?_, sign, _, hsign, read?_eq_some_nil_iff.1 hread, htext⟩, rfl⟩
        simpa [imp_iff_not_or] using hempty
    · cases h
  · rintro ⟨negative, n, ⟨hdigit, sign, rest, hsign, hrest, rfl⟩, rfl⟩
    rw [parse?, readSign_append hsign (hrest.unsigned hdigit)]
    simp only [read?_eq_some_nil_iff.2 hrest]
    rw [if_neg]
    simpa [imp_iff_not_or] using hdigit

/-! ### The characters of a numeral -/

variable {negative : Bool} {n : Numeral} {fraction : Option (List Char)} {exponent : Option Int}

/-- The characters that numerals consist of. -/
def IsNumeralChar (c : Char) : Prop := c.isDigit ∨ c ∈ ['+', '-', '.', 'e', 'E']

theorem IsSign.forall_mem (h : IsSign sign negative) : ∀ c ∈ sign, IsNumeralChar c := by
  cases h <;> simp [IsNumeralChar]

theorem IsSign.isDigit_eq_false (h : IsSign sign negative) : ∀ c ∈ sign, c.isDigit = false := by
  cases h <;> simp

theorem IsFraction.forall_mem (h : IsFraction part fraction) :
    ∀ c ∈ part, c.isDigit ∨ c = '.' := by
  cases h with
  | none => exact fun _ h => nomatch h
  | point hds => exact List.forall_mem_cons.2 ⟨.inr rfl, fun c hc => .inl (hds c hc)⟩

theorem IsFraction.isDigit_of_mem (h : IsFraction part fraction) :
    ∀ c ∈ fraction.getD [], c ∈ part ∧ c.isDigit := by
  cases h with
  | none => exact fun _ h => nomatch h
  | point hds => exact fun c hc => ⟨List.mem_cons_of_mem _ hc, hds c hc⟩

theorem IsExponent.forall_mem (h : IsExponent part exponent) : ∀ c ∈ part, IsNumeralChar c := by
  rcases h with _ | ⟨hc, hsign, -, hds⟩
  · exact fun _ h => nomatch h
  · rw [List.forall_mem_cons, List.forall_mem_append]
    exact ⟨.inr (by rcases hc with rfl | rfl <;> simp), hsign.forall_mem,
      fun c hc => .inl (hds c hc)⟩

theorem IsExponent.isDigit_of_getLast? (h : IsExponent part exponent) {c : Char}
    (hc : part.getLast? = some c) : c.isDigit := by
  rcases h with _ | ⟨-, -, hne, hds⟩
  · cases hc
  · rw [← List.cons_append, List.getLast?_append_of_ne_nil _ hne] at hc
    exact hds c (List.mem_of_getLast? hc)

/-- A numeral consists of digits, signs, points and marks of exponents. -/
theorem IsWritten.forall_mem (h : IsWritten text negative n) : ∀ c ∈ text, IsNumeralChar c := by
  obtain ⟨-, sign, rest, hsign, ⟨hwhole, point, mark, hpoint, hmark, rfl⟩, rfl⟩ := h
  simp only [List.forall_mem_append]
  refine ⟨hsign.forall_mem, ⟨fun c hc => .inl (hwhole c hc), fun c hc => ?_⟩, hmark.forall_mem⟩
  exact (hpoint.forall_mem c hc).imp_right fun h => by simp [h]

/-- There is a digit in every numeral. -/
theorem IsWritten.exists_isDigit (h : IsWritten text negative n) : ∃ c ∈ text, c.isDigit := by
  obtain ⟨hdigit, sign, rest, hsign, ⟨hwhole, point, mark, hpoint, hmark, rfl⟩, rfl⟩ := h
  rcases hdigit with hne | hne
  · obtain ⟨c, hc⟩ := List.exists_mem_of_ne_nil _ hne
    exact ⟨c, by simp [hc], hwhole c hc⟩
  · obtain ⟨c, hc⟩ := List.exists_mem_of_ne_nil _ hne
    obtain ⟨hmem, hc⟩ := hpoint.isDigit_of_mem c hc
    exact ⟨c, by simp [hmem], hc⟩

/-- A numeral ends with a digit or with the point. -/
theorem IsWritten.of_getLast? (h : IsWritten text negative n) {c : Char}
    (hc : text.getLast? = some c) : c.isDigit ∨ c = '.' := by
  obtain ⟨hdigit, sign, rest, hsign, ⟨hwhole, point, mark, hpoint, hmark, rfl⟩, rfl⟩ := h
  have hnumber : n.whole ++ point ≠ [] := by
    rw [Ne, List.append_eq_nil_iff, not_and_or]
    refine hdigit.imp_right fun hne hnil => hne ?_
    exact List.eq_nil_iff_forall_not_mem.2 fun c hc =>
      absurd (hpoint.isDigit_of_mem c hc).1 (hnil ▸ List.not_mem_nil)
  rw [← List.append_assoc, List.getLast?_append] at hc
  cases hlast : mark.getLast? with
  | some d =>
    rw [hlast] at hc
    obtain rfl : d = c := Option.some.inj hc
    exact .inl (hmark.isDigit_of_getLast? hlast)
  | none =>
    rw [hlast, Option.none_or, List.getLast?_append_of_ne_nil _ hnumber] at hc
    rcases List.mem_append.1 (List.mem_of_getLast? hc) with hmem | hmem
    · exact .inl (hwhole c hmem)
    · exact hpoint.forall_mem c hmem

end Numeral

end BenchReport
