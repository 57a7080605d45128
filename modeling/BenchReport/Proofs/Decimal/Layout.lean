import BenchReport.Proofs.Decimal.Numeral

/-!
# Layouts are numerals

A layout of a decimal is the written form of a numeral.  The digits of the numeral are
those of the decimal, possibly with zeros, and its power of ten makes up for the zeros.

## Main definitions

* `Decimal.lead` — the exponent of the first digit.
* `Layout.numeral` — the numeral that a layout writes.
* `Numeral.Denotes` — a numeral has the value of a decimal.

## Main results

* `Layout.written_numeral` — **a layout writes its numeral.**
* `Layout.numeral_digital` — its digits are digits.
* `Layout.numeral_denotes` — **the numeral has the value of the decimal.**
-/

namespace BenchReport

/-- The exponent of the first digit. -/
def Decimal.lead (d : Decimal) : Int := d.exponent + (Text.digits d.digits).length - 1

/-- The significand has the digits of the decimal and some zeros behind, for which the power
of ten makes up. -/
def Numeral.Denotes (n : Numeral) (d : Decimal) : Prop :=
  ∃ zeros : Nat, n.significand = d.digits * 10 ^ zeros ∧ n.power = d.exponent - zeros

namespace Layout

/-- The numeral of a positional layout. -/
def positionalNumeral (l : Layout) (ds : List Char) (lead : Int) : Numeral :=
  if lead < 0 then ⟨['0'], some (List.replicate (-lead - 1).toNat '0' ++ ds), none⟩
  else
    let whole := lead.toNat + 1
    if whole < ds.length then ⟨ds.take whole, some (ds.drop whole), none⟩
    else
      ⟨ds ++ List.replicate (whole - ds.length) '0', if l.pointZero then some ['0'] else none, none⟩

/-- The numeral of a layout with an exponent. -/
def scientificNumeral (ds : List Char) (lead : Int) : Numeral :=
  ⟨ds.take 1, if 1 < ds.length then some (ds.drop 1) else none, some lead⟩

/-- The numeral that a layout writes. -/
def numeral (l : Layout) (d : Decimal) : Numeral :=
  if l.positionalFrom ≤ d.lead ∧ d.lead ≤ l.positionalTo then
    l.positionalNumeral (Text.digits d.digits) d.lead
  else scientificNumeral (Text.digits d.digits) d.lead

variable (l : Layout) (ds : List Char) (lead : Int) (d : Decimal)

/-! ### Writing -/

theorem written_positionalNumeral :
    (l.positionalNumeral ds lead).written l.exponentPlus = l.positional ds lead := by
  rw [positionalNumeral, positional]
  split
  · simp [Numeral.written, Numeral.fractionPart, Numeral.exponentPart]
  · simp only
    split
    · simp [Numeral.written, Numeral.fractionPart, Numeral.exponentPart]
    · cases l.pointZero <;> simp [Numeral.written, Numeral.fractionPart, Numeral.exponentPart]

theorem written_scientificNumeral :
    (scientificNumeral ds lead).written l.exponentPlus = l.scientific ds lead := by
  rw [scientificNumeral, scientific]
  by_cases h : 1 < ds.length <;>
    simp [h, Numeral.written, Numeral.fractionPart, Numeral.exponentPart, Numeral.exponentChars]

/-- **A layout writes its numeral.** -/
theorem written_numeral : (l.numeral d).written l.exponentPlus = l.write d := by
  have hwrite : l.write d = if l.positionalFrom ≤ d.lead ∧ d.lead ≤ l.positionalTo then
      l.positional (Text.digits d.digits) d.lead
      else l.scientific (Text.digits d.digits) d.lead := rfl
  rw [numeral, hwrite]
  split
  · exact written_positionalNumeral ..
  · exact written_scientificNumeral ..

/-! ### Digits and values -/

variable {l ds lead d}

theorem positionalNumeral_digital (hds : ∀ c ∈ ds, c.isDigit) :
    (l.positionalNumeral ds lead).Digital := by
  have hzeros : ∀ k, ∀ c ∈ List.replicate k '0', c.isDigit := by
    intro k c hc
    rw [List.eq_of_mem_replicate hc]
    rfl
  rw [positionalNumeral]
  split
  · refine ⟨by simp, fun c hc => ?_⟩
    rcases List.mem_append.1 hc with hc | hc
    · exact hzeros _ c hc
    · exact hds c hc
  · simp only
    split
    · exact ⟨fun c hc => hds c (List.mem_of_mem_take hc),
        fun c hc => hds c (List.mem_of_mem_drop hc)⟩
    · refine ⟨fun c hc => ?_, fun c hc => ?_⟩
      · rcases List.mem_append.1 hc with hc | hc
        · exact hds c hc
        · exact hzeros _ c hc
      · cases hpoint : l.pointZero <;> simp_all [Numeral.fractionDigits]

theorem scientificNumeral_digital (hds : ∀ c ∈ ds, c.isDigit) :
    (scientificNumeral ds lead).Digital := by
  refine ⟨fun c hc => hds c (List.mem_of_mem_take hc), fun c hc => ?_⟩
  rw [scientificNumeral, Numeral.fractionDigits] at hc
  by_cases h : 1 < ds.length
  · rw [if_pos h] at hc
    exact hds c (List.mem_of_mem_drop hc)
  · rw [if_neg h] at hc
    cases hc

theorem numeral_digital : (l.numeral d).Digital := by
  rw [numeral]
  split
  · exact positionalNumeral_digital fun c => Text.isDigit_of_mem_digits
  · exact scientificNumeral_digital fun c => Text.isDigit_of_mem_digits

theorem positionalNumeral_denotes (hpoint : l.pointZero = true)
    (hlead : lead = d.exponent + ds.length - 1) (hvalue : Text.digitsValue ds = d.digits) :
    (l.positionalNumeral ds lead).Denotes d := by
  rw [positionalNumeral]
  split
  · refine ⟨0, ?_, ?_⟩
    · simp only [Numeral.significand, Numeral.fractionDigits, Option.getD_some,
        Text.digitsValue_append, Text.digitsValue_zeros, Text.digitsValue_zero, hvalue]
      simp
    · simp [Numeral.power, Numeral.fractionDigits]
      omega
  · simp only
    split
    · refine ⟨0, ?_, ?_⟩
      · simp [Numeral.significand, Numeral.fractionDigits, hvalue]
      · simp [Numeral.power, Numeral.fractionDigits]
        omega
    · -- zeros up to the point, and the one behind it
      refine ⟨lead.toNat + 1 - ds.length + 1, ?_, ?_⟩
      · simp only [Numeral.significand, Numeral.fractionDigits, Option.getD_some,
          Text.digitsValue_append, Text.digitsValue_zeros, Text.digitsValue_zero, hvalue]
        simp [Nat.pow_succ, Nat.mul_assoc]
      · simp [Numeral.power, Numeral.fractionDigits]
        omega

theorem scientificNumeral_denotes (hlength : 0 < ds.length)
    (hlead : lead = d.exponent + ds.length - 1) (hvalue : Text.digitsValue ds = d.digits) :
    (scientificNumeral ds lead).Denotes d := by
  refine ⟨0, ?_, ?_⟩
  · rw [scientificNumeral, Numeral.significand, Numeral.fractionDigits]
    by_cases h : 1 < ds.length
    · simp only [if_pos h, Option.getD_some, List.take_append_drop, hvalue, Nat.pow_zero,
        Nat.mul_one]
    · have htake : ds.take 1 = ds := List.take_of_length_le (by omega)
      simp [h, htake, hvalue]
  · rw [scientificNumeral, Numeral.power, Numeral.fractionDigits]
    by_cases h : 1 < ds.length
    · simp [h]
      omega
    · simp [h]
      omega

/-- The numeral has the value of the decimal. -/
theorem numeral_denotes (hpoint : l.pointZero = true) : (l.numeral d).Denotes d := by
  have hlength := List.length_pos_iff.2 (Text.digits_ne_nil d.digits)
  have hvalue := Text.digitsValue_digits d.digits
  rw [numeral]
  split
  · exact positionalNumeral_denotes hpoint rfl hvalue
  · exact scientificNumeral_denotes hlength rfl hvalue

end Layout

end BenchReport
