import BenchReport.Proofs.Decimal.Fixed
import BenchReport.Proofs.Decimal.Grammar
import Mathlib.Algebra.Order.Field.Power
import Mathlib.Data.Rat.Cast.Order

/-!
# Reading a decimal exactly

A decimal with a sign is read as the rational number it stands for, without rounding it to a
binary64 number.  What is written with a fixed number of places is read as exactly that many last
places.

## Main definitions

* `Numeral.value` — the exact value of a numeral without its sign.
* `Numeral.rational?` — the exact value of a text that is a numeral with a sign.
* `Fixed.value` — the value of a decimal with fixed places.
* `Fixed.IsFraction` — the point with exactly as many digits as there are places.

## Main results

* `Numeral.rational?_of_isWritten` — a text that is a numeral is read as its value.
* `Fixed.isWritten_chars` — a decimal with fixed places is a numeral.
* `Fixed.rational?_chars` — **it is read as its value.**
-/

namespace BenchReport

namespace Numeral

/-- The exact value without the sign. -/
def value (n : Numeral) : ℚ := n.significand * 10 ^ n.power

/-- Reads a text that is a numeral from end to end, with an optional sign and at least one digit, as
the rational number it stands for. -/
def rational? (text : List Char) : Option ℚ :=
  let (negative, text) := readSign text
  match read? text with
  | some (n, []) =>
      if n.whole.isEmpty && n.fractionDigits.isEmpty then none
      else some (if negative then -n.value else n.value)
  | _ => none

/-- A text that is a numeral is read as its value. -/
theorem rational?_of_isWritten {text : List Char} {negative : Bool} {n : Numeral}
    (h : IsWritten text negative n) :
    rational? text = some (if negative then -n.value else n.value) := by
  obtain ⟨hdigit, sign, rest, hsign, hrest, rfl⟩ := h
  rw [rational?, readSign_append hsign (hrest.unsigned hdigit)]
  simp only [read?_eq_some_nil_iff.2 hrest]
  rw [if_neg]
  simpa [imp_iff_not_or] using hdigit

end Numeral

namespace Fixed

variable (x : Fixed)

/-- The value of a decimal with fixed places. -/
def value : ℚ := Binary64.signed x.negative x.scaled / 10 ^ x.places

/-- Its digits as a numeral, without the sign. -/
def numeral : Numeral :=
  ⟨x.wholeDigits, if x.places = 0 then none else some x.fractionDigits, none⟩

theorem isDigit_of_mem_wholeDigits : ∀ c ∈ x.wholeDigits, c.isDigit :=
  fun _ h => Text.isDigit_of_mem_digits h

theorem isDigit_of_mem_fractionDigits : ∀ c ∈ x.fractionDigits, c.isDigit := by
  intro c hc
  rw [fractionDigits] at hc
  split at hc
  · cases hc
  · exact Text.isDigit_of_mem_zeroPadded hc

theorem fractionDigits_numeral : x.numeral.fractionDigits = x.fractionDigits := by
  rw [Numeral.fractionDigits, numeral, fractionDigits]
  split <;> rfl

/-- The digits before the point and behind it are those of the number of last places. -/
theorem significand_numeral : x.numeral.significand = x.scaled := by
  have hfraction : Text.digitsValue x.fractionDigits = x.scaled % 10 ^ x.places := by
    rw [fractionDigits]
    split
    · rename_i hplaces
      rw [hplaces, Nat.pow_zero, Nat.mod_one]
      rfl
    · rw [Text.digitsValue_zeroPadded, Nat.pow_eq]
  rw [Numeral.significand, fractionDigits_numeral, Text.digitsValue_append, length_fractionDigits,
    hfraction]
  show Text.digitsValue (Text.digits (x.scaled / 10 ^ x.places)) * _ + _ = _
  rw [Text.digitsValue_digits, Nat.div_add_mod']

theorem value_numeral : x.numeral.value = x.scaled / 10 ^ x.places := by
  have hpower : x.numeral.power = -(x.places : Int) := by
    rw [Numeral.power, fractionDigits_numeral, length_fractionDigits, numeral, Option.getD_none,
      zero_sub]
  rw [Numeral.value, significand_numeral, hpower, zpow_neg, zpow_natCast, div_eq_mul_inv]

/-- A decimal with fixed places is a numeral. -/
theorem isWritten_chars : Numeral.IsWritten x.chars x.negative x.numeral := by
  refine ⟨.inl (Text.digits_ne_nil _), x.signPart, x.wholeDigits ++ x.fractionPart, ?_,
    ⟨x.isDigit_of_mem_wholeDigits, x.fractionPart, [], ?_, .none, (List.append_nil _).symm⟩,
    List.append_assoc _ _ _⟩
  · rw [signPart]
    cases x.negative with
    | false => exact .none
    | true => exact .minus
  · rw [fractionPart, numeral]
    split
    · exact .none
    · exact .point x.isDigit_of_mem_fractionDigits

/-- The point and exactly as many digits as there are places, or nothing when there are none. -/
inductive IsFraction : Nat → List Char → Prop where
  | none : IsFraction 0 []
  | point {ds : List Char} : ds ≠ [] → (∀ c ∈ ds, c.isDigit) → IsFraction ds.length ('.' :: ds)

theorem isFraction_fractionPart : IsFraction x.places x.fractionPart := by
  rw [fractionPart]
  split
  · rename_i hplaces
    rw [hplaces]
    exact .none
  · rename_i hplaces
    have hlength := x.length_fractionDigits
    have hne : x.fractionDigits ≠ [] := by
      intro hnil
      rw [hnil] at hlength
      exact hplaces hlength.symm
    have hfraction := IsFraction.point hne x.isDigit_of_mem_fractionDigits
    rwa [hlength] at hfraction

/-- **A decimal with fixed places is read as its value.** -/
theorem rational?_chars : Numeral.rational? x.chars = some x.value := by
  rw [Numeral.rational?_of_isWritten x.isWritten_chars, value_numeral, value, Binary64.signed]
  split
  · rw [Int.cast_neg, neg_div]
    rfl
  · rfl

end Fixed

end BenchReport
