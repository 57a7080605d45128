import BenchReport.Text.Digits
import Mathlib.Algebra.Group.Nat.Defs
import Mathlib.Data.List.Induction

/-!
# Runs of digits

## Main definitions

* `Text.EndsDigits` — a text does not go on a run of digits.

## Main results

* `Text.readDigits_append_of` — a run of digits is read up to its end.
* `Text.digitsValue_append` — the number of two runs in a row.
* `Text.digitsValue_lt` — a run of digits is less than the power of ten of its length.
* `Text.length_digits_le_iff` — how many digits a number has.
* `Text.head?_digits_ne_zero` — a positive number has no zero in front.
* `Text.digits_digitsValue` — digits without a zero in front are those of their number.
* `Text.forall_isDigit_and_digitsValue_iff` — the runs of digits of a positive number.
* `Text.digitsValue_zeroPadded`, `Text.filter_groupThousands` — padding with zeros and
  putting commas in change no value.
-/

namespace BenchReport.Text

/-- The text does not begin with a digit. -/
def EndsDigits (text : List Char) : Prop := ∀ c, text.head? = some c → c.isDigit = false

theorem endsDigits_cons {c : Char} (h : c.isDigit = false) (text : List Char) :
    EndsDigits (c :: text) := by
  rintro _ ⟨⟩
  exact h

/-- **A run of digits is read up to its end.** -/
theorem readDigits_append_of {ds rest : List Char} (hds : ∀ c ∈ ds, c.isDigit)
    (hrest : EndsDigits rest) : readDigits (ds ++ rest) = (ds, rest) := by
  have htake : rest.takeWhile Char.isDigit = [] := by
    cases rest with
    | nil => rfl
    | cons c rest => exact List.takeWhile_cons_of_neg (by simp [hrest c rfl])
  have hdrop : rest.dropWhile Char.isDigit = rest := by
    cases rest with
    | nil => rfl
    | cons c rest => exact List.dropWhile_cons_of_neg (by simp [hrest c rfl])
  rw [readDigits, List.takeWhile_append_of_pos hds, List.dropWhile_append_of_pos hds, htake,
    hdrop, List.append_nil]

/-- What is left of a text without the digits at its front. -/
theorem endsDigits_readDigits (text : List Char) : EndsDigits (readDigits text).2 := by
  intro c hc
  have hnot := List.head?_dropWhile_not Char.isDigit text
  rw [readDigits] at hc
  simpa only [hc] using hnot

/-! ### Values -/

/-- The number of two runs in a row. -/
theorem digitsValue_append (a b : List Char) :
    digitsValue (a ++ b) = digitsValue a * 10 ^ b.length + digitsValue b := by
  rw [digitsValue, Nat.ofDigitChars_append, Nat.ofDigitChars_eq_ofDigitChars_zero,
    Nat.mul_comm]
  rfl

theorem digitsValue_zero : digitsValue ['0'] = 0 := rfl

theorem digitsValue_zeros (k : Nat) : digitsValue (List.replicate k '0') = 0 := by
  rw [digitsValue, Nat.ofDigitChars_replicate_zero, Nat.mul_zero]

theorem digitsValue_singleton (c : Char) : digitsValue [c] = c.toNat - 48 := by
  rw [digitsValue, Nat.ofDigitChars_cons, Nat.ofDigitChars_nil, Nat.mul_zero, Nat.zero_add]
  rfl

/-- A run of digits stands for less than the power of ten of its length. -/
theorem digitsValue_lt {ds : List Char} (h : ∀ c ∈ ds, c.isDigit) :
    digitsValue ds < 10 ^ ds.length := by
  induction ds with
  | nil => decide
  | cons c ds ih =>
    have ih := ih fun d hd => h d (List.mem_cons_of_mem _ hd)
    have hc : digitsValue [c] ≤ 9 := by
      have hle : c.toNat ≤ 57 := (Char.isDigit_iff_toNat.1 (h c List.mem_cons_self)).2
      rw [digitsValue_singleton]
      omega
    -- the first digit counts as many powers of ten as there are digits behind it
    rw [← List.singleton_append, digitsValue_append, List.length_append, List.length_singleton,
      Nat.pow_add, Nat.pow_one]
    have hmul := Nat.mul_le_mul_right (10 ^ ds.length) hc
    omega

/-! ### Lengths and first digits -/

theorem digits_ne_nil (n : Nat) : digits n ≠ [] := Nat.toDigits_ne_nil

theorem length_digits_le_iff {n k : Nat} (hk : 0 < k) : (digits n).length ≤ k ↔ n < 10 ^ k :=
  Nat.length_toDigits_le_iff (by decide) hk

/-- The power of ten of the first digit does not exceed the number. -/
theorem ten_pow_le_of_length_digits {n k : Nat} (hn : 0 < n) (h : (digits n).length = k + 1) :
    10 ^ k ≤ n := by
  cases k with
  | zero => exact hn
  | succ k =>
    have hlong : ¬ (digits n).length ≤ k + 1 := by omega
    rw [length_digits_le_iff (by omega)] at hlong
    exact Nat.le_of_not_lt hlong

/-- A number below ten has one digit; a larger one has the digits of its tenth and one more. -/
theorem digits_of_ten_le {n : Nat} (h : 10 ≤ n) :
    digits n = digits (n / 10) ++ [Nat.digitChar (n % 10)] :=
  Nat.toDigits_of_base_le (by decide) h

/-- A positive number has no zero in front. -/
theorem head?_digits_ne_zero {n : Nat} (h : 0 < n) : (digits n).head? ≠ some '0' := by
  induction n using Nat.strongRecOn with
  | ind n ih =>
    rcases Nat.lt_or_ge n 10 with hn | hn
    · rw [digits, Nat.toDigits_of_lt_base hn, List.head?_cons]
      intro hzero
      have hdigit := Nat.digitChar_eq_zero.1 (Option.some.inj hzero)
      omega
    · obtain ⟨c, ds, hds⟩ := List.exists_cons_of_ne_nil (digits_ne_nil (n / 10))
      have ih := ih (n / 10) (by omega) (by omega)
      rw [hds, List.head?_cons] at ih
      rw [digits_of_ten_le hn, hds, List.cons_append, List.head?_cons]
      exact ih

theorem digitChar_of_isDigit {c : Char} (h : c.isDigit) :
    Nat.digitChar (c.toNat - 48) = c := by
  obtain ⟨hlow, hhigh⟩ : 48 ≤ c.toNat ∧ c.toNat ≤ 57 := Char.isDigit_iff_toNat.1 h
  apply Char.toNat_inj.1
  rw [Nat.toNat_digitChar_of_lt_ten (by omega)]
  omega

/-- **Digits without a zero in front are the digits of their number.** -/
theorem digits_digitsValue {ds : List Char} (hds : ∀ c ∈ ds, c.isDigit) (hne : ds ≠ [])
    (hzero : ds.head? ≠ some '0') : digits (digitsValue ds) = ds := by
  induction ds using List.reverseRecOn with
  | nil => exact absurd rfl hne
  | append_singleton ds c ih =>
    have hc : c.isDigit := hds c (by simp)
    have hhigh : c.toNat ≤ 57 := (Char.isDigit_iff_toNat.1 hc).2
    have hsmall : c.toNat - 48 < 10 := by omega
    cases ds with
    | nil =>
      rw [List.nil_append, digitsValue_singleton, digits, Nat.toDigits_of_lt_base hsmall,
        digitChar_of_isDigit hc]
    | cons d ds =>
      have hfront : digits (digitsValue (d :: ds)) = d :: ds :=
        ih (fun e he => hds e (List.mem_append_left _ he)) (List.cons_ne_nil _ _) hzero
      -- the digits in front make up a positive number, so there are two digits at least
      have hpos : digitsValue (d :: ds) ≠ 0 := by
        intro hnone
        rw [hnone] at hfront
        exact hzero (congrArg List.head? hfront).symm
      rw [digitsValue_append, digitsValue_singleton, List.length_singleton, Nat.pow_one,
        digits_of_ten_le (by omega)]
      have hdiv : (digitsValue (d :: ds) * 10 + (c.toNat - 48)) / 10 = digitsValue (d :: ds) := by
        omega
      have hmod : (digitsValue (d :: ds) * 10 + (c.toNat - 48)) % 10 = c.toNat - 48 := by omega
      rw [hdiv, hmod, hfront, digitChar_of_isDigit hc]

/-! ### Zeros in front -/

theorem digitsValue_zeros_append (zeros n : Nat) :
    digitsValue (List.replicate zeros '0' ++ digits n) = n := by
  rw [digitsValue_append, digitsValue_zeros, Nat.zero_mul, Nat.zero_add, digitsValue_digits]

theorem isDigit_of_mem_zeros_append {zeros n : Nat} {c : Char}
    (h : c ∈ List.replicate zeros '0' ++ digits n) : c.isDigit := by
  rcases List.mem_append.1 h with h | h
  · rw [List.eq_of_mem_replicate h]
    rfl
  · exact isDigit_of_mem_digits h

/-- **The runs of digits of a positive number** are its digits with zeros in front of them. -/
theorem forall_isDigit_and_digitsValue_iff {ds : List Char} {n : Nat} (hn : 0 < n) :
    (∀ c ∈ ds, c.isDigit) ∧ digitsValue ds = n ↔
      ∃ zeros, ds = List.replicate zeros '0' ++ digits n := by
  constructor
  · rintro ⟨hds, rfl⟩
    induction ds with
    | nil => exact absurd hn (by decide)
    | cons c ds ih =>
      by_cases hc : c = '0'
      · subst hc
        have hvalue : digitsValue ('0' :: ds) = digitsValue ds := by
          rw [← List.singleton_append, digitsValue_append, digitsValue_zero, Nat.zero_mul,
            Nat.zero_add]
        rw [hvalue] at hn ⊢
        obtain ⟨zeros, hzeros⟩ := ih (fun d hd => hds d (List.mem_cons_of_mem _ hd)) hn
        exact ⟨zeros + 1, by rw [List.replicate_succ, List.cons_append, ← hzeros]⟩
      · have hhead : (c :: ds).head? ≠ some '0' := fun h => hc (Option.some.inj h)
        exact ⟨0, (digits_digitsValue hds (List.cons_ne_nil _ _) hhead).symm⟩
  · rintro ⟨zeros, rfl⟩
    exact ⟨fun _ => isDigit_of_mem_zeros_append, digitsValue_zeros_append zeros n⟩

/-! ### Padded and grouped digits -/

theorem isDigit_of_mem_zeroPadded {width n : Nat} {c : Char} (h : c ∈ zeroPadded width n) :
    c.isDigit :=
  isDigit_of_mem_zeros_append h

theorem zeroPadded_ne_nil (width n : Nat) : zeroPadded width n ≠ [] :=
  List.append_ne_nil_of_right_ne_nil _ (digits_ne_nil n)

theorem digitsValue_zeroPadded (width n : Nat) : digitsValue (zeroPadded width n) = n :=
  digitsValue_zeros_append _ n

theorem length_zeroPadded {width n : Nat} (hwidth : 0 < width) (hn : n < 10 ^ width) :
    (zeroPadded width n).length = width := by
  have hlength := (length_digits_le_iff hwidth).2 hn
  rw [zeroPadded, List.length_append, List.length_replicate, Nat.sub_add_cancel hlength]

/-- Without its commas a grouped text is the text. -/
theorem filter_groupThousands {text : List Char} (h : ',' ∉ text) :
    (groupThousands text).filter (· != ',') = text := by
  fun_induction groupThousands text with
  | case1 => rfl
  | case2 d =>
    rw [List.mem_singleton] at h
    simp [Ne.symm h]
  | case3 d e rest _ ih =>
    rw [List.mem_cons, not_or] at h
    simp [Ne.symm h.1, ih h.2]
  | case4 d e rest _ ih =>
    rw [List.mem_cons, not_or] at h
    simp [Ne.symm h.1, ih h.2]

end BenchReport.Text
