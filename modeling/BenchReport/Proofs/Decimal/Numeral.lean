import BenchReport.Decimal.Layout
import BenchReport.Decimal.Numeral
import BenchReport.Proofs.Text.Digits

/-!
# Written numerals are read back

A numeral is written as its digits, a point with the digits behind it and an exponent.  The
written form is read back when what follows does not go on with it.

## Main definitions

* `Numeral.written` — the written form of a numeral.
* `Numeral.Digital` — the digits of a numeral are digits.
* `Numeral.Ends` — a text does not go on with a numeral.

## Main results

* `Numeral.read?_written` — **a written numeral is read back.**
-/

namespace BenchReport

namespace Numeral

/-- The written form of an exponent, behind its mark. -/
def exponentChars (plus : Bool) (e : Int) : List Char :=
  (if e < 0 then ['-'] else if plus then ['+'] else []) ++ Text.digits e.natAbs

/-- The mark of an exponent and the exponent, if there is one. -/
def exponentPart (plus : Bool) : Option Int → List Char
  | none => []
  | some e => 'e' :: exponentChars plus e

/-- The point and the digits behind it, if there is one. -/
def fractionPart : Option (List Char) → List Char
  | none => []
  | some ds => '.' :: ds

/-- The written form; a plus sign may stand before an exponent that is not negative. -/
def written (plus : Bool) (n : Numeral) : List Char :=
  n.whole ++ fractionPart n.fraction ++ exponentPart plus n.exponent

/-- The digits of the numeral are digits. -/
structure Digital (n : Numeral) : Prop where
  whole : ∀ c ∈ n.whole, c.isDigit
  fraction : ∀ c ∈ n.fractionDigits, c.isDigit

/-- The text does not go on with a numeral. -/
def Ends (text : List Char) : Prop :=
  ∀ c, text.head? = some c → c.isDigit = false ∧ c ≠ '.' ∧ c ≠ 'e' ∧ c ≠ 'E'

theorem Ends.endsDigits {text : List Char} (h : Ends text) : Text.EndsDigits text :=
  fun c hc => (h c hc).1

variable {rest : List Char}

/-! ### Reading -/

theorem readSign_of_isDigit {c : Char} (h : c.isDigit) (tail : List Char) :
    readSign (c :: tail) = (false, c :: tail) := by
  rw [readSign]
  · rintro _ hminus
    obtain rfl := (List.cons.inj hminus).1
    cases h
  · rintro _ hplus
    obtain rfl := (List.cons.inj hplus).1
    cases h

theorem readSign_exponentChars (plus : Bool) (e : Int) (rest : List Char) :
    readSign (exponentChars plus e ++ rest) = (decide (e < 0), Text.digits e.natAbs ++ rest) := by
  rw [exponentChars]
  by_cases he : e < 0
  · rw [if_pos he, decide_eq_true he]
    rfl
  · rw [if_neg he, decide_eq_false he]
    cases plus with
    | true => rfl
    | false =>
      -- no sign is written, and the first digit is none
      obtain ⟨c, ds, hds⟩ := List.exists_cons_of_ne_nil (Text.digits_ne_nil e.natAbs)
      have hc : c.isDigit := Text.isDigit_of_mem_digits (hds ▸ List.mem_cons_self)
      rw [hds]
      exact readSign_of_isDigit hc (ds ++ rest)

theorem readExponentDigits_written (plus : Bool) (e : Int) (hrest : Text.EndsDigits rest) :
    readExponentDigits (exponentChars plus e ++ rest) = some (e, rest) := by
  have hdigits : Text.readDigits (Text.digits e.natAbs ++ rest) = (Text.digits e.natAbs, rest) :=
    Text.readDigits_append_of (fun c => Text.isDigit_of_mem_digits) hrest
  have hempty : (Text.digits e.natAbs).isEmpty = false := by
    simpa using Text.digits_ne_nil e.natAbs
  have hvalue : Binary64.signed (decide (e < 0)) (Text.digitsValue (Text.digits e.natAbs)) = e := by
    rw [Text.digitsValue_digits, Binary64.signed]
    simp only [decide_eq_true_eq]
    split <;> omega
  rw [readExponentDigits, readSign_exponentChars]
  simp only [hdigits, hempty, hvalue]
  rfl

theorem readExponent_written (plus : Bool) (e : Option Int) (hrest : Ends rest) :
    readExponent (exponentPart plus e ++ rest) = some (e, rest) := by
  cases e with
  | none =>
    rw [exponentPart, List.nil_append, readExponent]
    · rintro _ rfl
      exact (hrest _ rfl).2.2.1 rfl
    · rintro _ rfl
      exact (hrest _ rfl).2.2.2 rfl
  | some e =>
    rw [exponentPart, List.cons_append, readExponent,
      readExponentDigits_written plus e hrest.endsDigits]
    rfl

/-- Neither the mark of an exponent nor what follows goes on with digits or a point. -/
theorem exponentPart_ends (plus : Bool) (e : Option Int) (hrest : Ends rest) :
    Text.EndsDigits (exponentPart plus e ++ rest) ∧
      (exponentPart plus e ++ rest).head? ≠ some '.' := by
  cases e with
  | none => exact ⟨hrest.endsDigits, fun h => (hrest _ h).2.1 rfl⟩
  | some e => exact ⟨Text.endsDigits_cons rfl _, by simp [exponentPart]⟩

/-- **A written numeral is read back** when what follows does not go on with it. -/
theorem read?_written {n : Numeral} (plus : Bool) (hn : n.Digital) (hrest : Ends rest) :
    read? (n.written plus ++ rest) = some (n, rest) := by
  obtain ⟨whole, fraction, exponent⟩ := n
  have hread := readExponent_written plus exponent hrest
  obtain ⟨hends, hpoint⟩ := exponentPart_ends plus exponent hrest
  rw [written, List.append_assoc, List.append_assoc]
  simp only
  -- of what stands behind the digits, only where it goes on matters
  generalize exponentPart plus exponent ++ rest = tail at hread hends hpoint ⊢
  cases fraction with
  | none =>
    have hwhole := Text.readDigits_append_of hn.whole hends
    have hfraction : readFraction tail = (none, tail) := by
      rw [readFraction]
      rintro _ rfl
      exact hpoint rfl
    simp only [read?, fractionPart, List.nil_append, hwhole, hfraction, hread]
    rfl
  | some ds =>
    have hds : Text.readDigits (ds ++ tail) = (ds, tail) :=
      Text.readDigits_append_of hn.fraction hends
    have hwhole : Text.readDigits (whole ++ '.' :: (ds ++ tail)) = (whole, '.' :: (ds ++ tail)) :=
      Text.readDigits_append_of hn.whole (Text.endsDigits_cons rfl _)
    simp only [read?, fractionPart, List.cons_append, hwhole, readFraction, hds, hread]
    rfl

end Numeral

end BenchReport
