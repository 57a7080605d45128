import BenchReport.Label
import BenchReport.Proofs.Text.Digits

/-!
# The characters of number labels

Whatever number is shown, finite or not, and however it is shown, its label consists of letters,
digits and a few signs.  So labels hold no blanks, no line breaks and nothing that a document could
take for a part of its own.

## Main definitions

* `Label.isPlainChar`, `Label.IsPlain` — a text of letters, digits and a few signs.

## Main results

* `Label.isPlain_grouped`, `Label.isPlain_figure`, `Label.isPlain_percentFigure` — **labels are
  plain.**
-/

namespace BenchReport

theorem Text.mem_groupThousands {c : Char} {text : List Char} (h : c ∈ groupThousands text) :
    c = ',' ∨ c ∈ text := by
  fun_induction groupThousands text with
  | case1 => cases h
  | case2 d => exact .inr h
  | case3 d e rest _ ih =>
    rcases List.mem_cons.1 h with rfl | h
    · exact .inr List.mem_cons_self
    · rcases List.mem_cons.1 h with rfl | h
      · exact .inl rfl
      · exact (ih h).imp_right (List.mem_cons_of_mem d)
  | case4 d e rest _ ih =>
    rcases List.mem_cons.1 h with rfl | h
    · exact .inr List.mem_cons_self
    · exact (ih h).imp_right (List.mem_cons_of_mem d)

theorem Text.groupThousands_ne_nil {text : List Char} (h : text ≠ []) :
    groupThousands text ≠ [] := by
  fun_cases groupThousands text with
  | case1 => exact absurd rfl h
  | case2 => exact List.cons_ne_nil _ _
  | case3 => exact List.cons_ne_nil _ _
  | case4 => exact List.cons_ne_nil _ _

namespace Label

/-- A letter, a digit, or one of the signs that labels have. -/
def isPlainChar (c : Char) : Bool :=
  c.isAlphanum || c == '.' || c == ',' || c == '-' || c == '%' || c == '/'

/-- A text of such characters, at least one. -/
structure IsPlain (text : List Char) : Prop where
  ne_nil : text ≠ []
  chars : ∀ c ∈ text, isPlainChar c

theorem isPlainChar_of_isDigit {c : Char} (h : c.isDigit) : isPlainChar c := by
  simp [isPlainChar, Char.isAlphanum, h]

theorem IsPlain.append {a b : List Char} (ha : IsPlain a) (hb : ∀ c ∈ b, isPlainChar c) :
    IsPlain (a ++ b) :=
  ⟨List.append_ne_nil_of_left_ne_nil ha.ne_nil b, List.forall_mem_append.2 ⟨ha.chars, hb⟩⟩

theorem IsPlain.prepend {a b : List Char} (ha : ∀ c ∈ a, isPlainChar c) (hb : IsPlain b) :
    IsPlain (a ++ b) :=
  ⟨List.append_ne_nil_of_right_ne_nil a hb.ne_nil, List.forall_mem_append.2 ⟨ha, hb.chars⟩⟩

end Label

open Label

/-! ### Decimals -/

namespace Fixed

variable (x : Fixed)

theorem isPlainChar_of_mem_signPart : ∀ c ∈ x.signPart, isPlainChar c := by
  rw [signPart]
  cases x.negative <;> exact List.all_eq_true.1 (by decide)

theorem isPlain_wholeDigits : IsPlain x.wholeDigits :=
  ⟨Text.digits_ne_nil _, fun _ hc => isPlainChar_of_isDigit (Text.isDigit_of_mem_digits hc)⟩

theorem isPlain_groupThousands : IsPlain (Text.groupThousands x.wholeDigits) := by
  refine ⟨Text.groupThousands_ne_nil x.isPlain_wholeDigits.ne_nil, fun c hc => ?_⟩
  rcases Text.mem_groupThousands hc with rfl | hc
  · rfl
  · exact x.isPlain_wholeDigits.chars c hc

theorem isPlainChar_of_mem_fractionPart : ∀ c ∈ x.fractionPart, isPlainChar c := by
  rw [fractionPart, fractionDigits]
  split
  · simp
  · rw [List.forall_mem_cons]
    exact ⟨rfl, fun _ hc => isPlainChar_of_isDigit (Text.isDigit_of_mem_zeroPadded hc)⟩

theorem isPlain_chars : IsPlain x.chars :=
  (x.isPlain_wholeDigits.prepend x.isPlainChar_of_mem_signPart).append
    x.isPlainChar_of_mem_fractionPart

theorem isPlain_groupedChars : IsPlain x.groupedChars :=
  (x.isPlain_groupThousands.prepend x.isPlainChar_of_mem_signPart).append
    x.isPlainChar_of_mem_fractionPart

end Fixed

/-! ### Labels -/

theorem Binary64.isPlain_specialText (x : Binary64) : IsPlain x.specialText.toList := by
  unfold specialText
  split <;> exact ⟨by decide, List.all_eq_true.1 (by decide)⟩

theorem Binary64.isPlain_fixedText (x : Binary64) (places : Nat) :
    IsPlain (x.fixedText places).toList := by
  cases x with
  | finite s m =>
    rw [fixedText, String.toList_ofList]
    exact Fixed.isPlain_chars _
  | infinite s => exact isPlain_specialText (.infinite s)
  | nan => exact isPlain_specialText .nan

theorem Scale.isPlainChar_of_mem_suffix (s : Scale) : ∀ c ∈ s.suffix.toList, isPlainChar c := by
  cases s <;> exact List.all_eq_true.1 (by decide)

namespace Label

/-- A number with commas is plain, finite or not. -/
theorem isPlain_grouped (x : Binary64) (places : Nat) : IsPlain (grouped x places).toList := by
  cases x with
  | finite s m =>
    rw [grouped, String.toList_ofList]
    exact Fixed.isPlain_groupedChars _
  | infinite s => exact Binary64.isPlain_specialText (.infinite s)
  | nan => exact Binary64.isPlain_specialText .nan

theorem isPlain_compact (x : Binary64) (places : Nat) : IsPlain (compact x places).toList := by
  rw [compact, String.toList_append]
  exact (Binary64.isPlain_fixedText _ places).append (Scale.isPlainChar_of_mem_suffix _)

theorem isPlain_percent (x : Binary64) (places : Nat) : IsPlain (percent x places).toList := by
  rw [percent, String.toList_append]
  exact (Binary64.isPlain_fixedText x places).append (List.all_eq_true.1 (by decide))

theorem isPlain_orNotAvailable {text : Binary64 → String} (h : ∀ v, IsPlain (text v).toList)
    (x : Option Binary64) : IsPlain (orNotAvailable text x).toList := by
  have hmark : IsPlain notAvailable.toList := ⟨by decide, List.all_eq_true.1 (by decide)⟩
  cases x with
  | none => exact hmark
  | some v =>
    rw [orNotAvailable]
    split
    · exact h v
    · exact hmark

theorem isPlain_figure (x : Option Binary64) (places : Nat) : IsPlain (figure x places).toList :=
  isPlain_orNotAvailable (isPlain_compact · places) x

theorem isPlain_percentFigure (x : Option Binary64) (places : Nat) :
    IsPlain (percentFigure x places).toList :=
  isPlain_orNotAvailable (isPlain_percent · places) x

end Label

end BenchReport
