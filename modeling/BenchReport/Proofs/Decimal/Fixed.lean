import BenchReport.Decimal.Fixed
import BenchReport.Proofs.Text.Digits

/-!
# A fixed decimal can be read from its text

Two decimals with the same number of places and no sign have different texts, with commas
between the thousands and without.

## Main results

* `Fixed.scaled_eq_of_chars` — the text tells the number.
* `Fixed.scaled_eq_of_groupedChars` — so does the text with commas.
-/

namespace BenchReport.Fixed

variable {a b places : Nat} {negative : Bool}

/-- There are as many digits behind the point as the places ask for. -/
theorem length_fractionDigits (x : Fixed) : x.fractionDigits.length = x.places := by
  rw [fractionDigits]
  split
  · rename_i hplaces
    exact hplaces.symm
  · rename_i hplaces
    have hlt : x.scaled % Nat.pow 10 x.places < 10 ^ x.places :=
      Nat.mod_lt _ (Nat.pow_pos (by decide))
    exact Text.length_zeroPadded (Nat.pos_of_ne_zero hplaces) hlt

/-- There are as many characters behind the whole digits as the places ask for. -/
theorem length_fractionPart (x : Fixed) :
    x.fractionPart.length = if x.places = 0 then 0 else x.places + 1 := by
  rw [fractionPart]
  split
  · rfl
  · rw [List.length_cons, length_fractionDigits]

/-- The whole digits and what follows them tell the number. -/
theorem scaled_eq_of_parts (hwhole : (Fixed.mk negative a places).wholeDigits =
      (Fixed.mk negative b places).wholeDigits)
    (hfraction : (Fixed.mk negative a places).fractionPart =
      (Fixed.mk negative b places).fractionPart) : a = b := by
  have hdiv : a / 10 ^ places = b / 10 ^ places := by
    have h := congrArg Text.digitsValue hwhole
    rwa [wholeDigits, wholeDigits, Text.digitsValue_digits, Text.digitsValue_digits] at h
  have hmod : a % 10 ^ places = b % 10 ^ places := by
    by_cases hplaces : places = 0
    · rw [hplaces, Nat.pow_zero, Nat.mod_one, Nat.mod_one]
    · rw [fractionPart, fractionPart, if_neg hplaces, if_neg hplaces, fractionDigits,
        fractionDigits, if_neg hplaces, if_neg hplaces] at hfraction
      have h := congrArg Text.digitsValue (List.cons.inj hfraction).2
      rwa [Text.digitsValue_zeroPadded, Text.digitsValue_zeroPadded] at h
  rw [← Nat.div_add_mod a (10 ^ places), hdiv, hmod, Nat.div_add_mod]

/-- **The text tells the number.** -/
theorem scaled_eq_of_chars
    (h : (Fixed.mk negative a places).chars = (Fixed.mk negative b places).chars) : a = b := by
  have hlength : (Fixed.mk negative a places).fractionPart.length =
      (Fixed.mk negative b places).fractionPart.length := by
    rw [length_fractionPart, length_fractionPart]
  obtain ⟨hfront, hfraction⟩ := List.append_inj' h hlength
  exact scaled_eq_of_parts (List.append_cancel_left hfront) hfraction

theorem comma_notMem_wholeDigits (x : Fixed) : ',' ∉ x.wholeDigits := fun h =>
  absurd (Text.isDigit_of_mem_digits h) (by decide)

/-- **So does the text with commas.** -/
theorem scaled_eq_of_groupedChars
    (h : (Fixed.mk negative a places).groupedChars = (Fixed.mk negative b places).groupedChars) :
    a = b := by
  have hlength : (Fixed.mk negative a places).fractionPart.length =
      (Fixed.mk negative b places).fractionPart.length := by
    rw [length_fractionPart, length_fractionPart]
  obtain ⟨hfront, hfraction⟩ := List.append_inj' h hlength
  have hwhole := congrArg (List.filter (· != ',')) (List.append_cancel_left hfront)
  rw [Text.filter_groupThousands (comma_notMem_wholeDigits _),
    Text.filter_groupThousands (comma_notMem_wholeDigits _)] at hwhole
  exact scaled_eq_of_parts hwhole hfraction

end BenchReport.Fixed
