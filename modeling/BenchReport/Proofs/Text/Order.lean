import BenchReport.Proofs.Text.Digits
import Mathlib.Order.Basic

/-!
# The order of texts

Texts are ordered by their bytes, and the first byte in which they differ decides.  For numbers
that are written with the same number of digits this is the order of the numbers.

## Main definitions

* `Text.encode`, `Text.bytes` — the bytes of characters and of a text.

## Main results

* `Text.encode_digits_lt_iff` — runs of digits of one length are ordered by their values.
* `Text.encode_zeroPadded_lt_iff` — **numbers of one width are ordered by size, and then by what
  follows them.**
-/

namespace BenchReport.Text

/-- The bytes of characters. -/
def encode (text : List Char) : List UInt8 := text.flatMap String.utf8EncodeChar

/-- The bytes of a text. -/
def bytes (text : String) : List UInt8 := text.toUTF8.data.toList

theorem bytes_ofList (text : List Char) : bytes (String.ofList text) = encode text := by
  rw [bytes, String.toUTF8_eq_toByteArray, String.toByteArray_ofList]
  exact List.toList_data_toByteArray

theorem bytes_eq (text : String) : bytes text = encode text.toList := by
  rw [← bytes_ofList, String.ofList_toList]

theorem encode_append (a b : List Char) : encode (a ++ b) = encode a ++ encode b :=
  List.flatMap_append

/-- What two texts begin with does not matter. -/
theorem append_lt_append_iff (a x y : List UInt8) : a ++ x < a ++ y ↔ x < y := by
  induction a with
  | nil => rfl
  | cons b a ih => rw [List.cons_append, List.cons_append, List.cons_lt_cons_self, ih]

theorem encode_append_lt_iff (a x y : List Char) :
    encode (a ++ x) < encode (a ++ y) ↔ encode x < encode y := by
  rw [encode_append, encode_append, append_lt_append_iff]

theorem encode_cons_lt_iff (c : Char) (x y : List Char) :
    encode (c :: x) < encode (c :: y) ↔ encode x < encode y :=
  encode_append_lt_iff [c] x y

theorem not_encode_lt_self (x : List Char) : ¬ encode x < encode x := List.lt_irrefl _

/-! ### Digits -/

/-- A digit has one byte. -/
theorem encode_digit {c : Char} (h : c.isDigit) : encode [c] = [UInt8.ofNat c.toNat] := by
  have hle : c.toNat ≤ 57 := (Char.isDigit_iff_toNat.1 h).2
  have hone : c.val.toNat ≤ 127 := Nat.le_trans hle (show 57 ≤ 127 by decide)
  rw [encode, List.flatMap_singleton, String.utf8EncodeChar]
  exact if_pos hone

/-- Digits are ordered by their values. -/
theorem encode_digit_lt_iff {c d : Char} (hc : c.isDigit) (hd : d.isDigit) (x y : List UInt8) :
    encode [c] ++ x < encode [d] ++ y ↔
      digitsValue [c] < digitsValue [d] ∨ digitsValue [c] = digitsValue [d] ∧ x < y := by
  rw [encode_digit hc, encode_digit hd, List.singleton_append, List.singleton_append,
    List.cons_lt_cons_iff, UInt8.lt_iff_toNat_lt, ← UInt8.toNat_inj, UInt8.toNat_ofNat',
    UInt8.toNat_ofNat', digitsValue_singleton, digitsValue_singleton]
  rw [Char.isDigit_iff_toNat] at hc hd
  simp only [Char.reduceToNat] at hc hd
  by_cases hxy : x < y <;> simp only [hxy, and_true, and_false, or_false] <;> omega

/-- A number in front counts as many powers as what is behind it is below. -/
theorem mul_add_lt_iff {p a b x y : Nat} (hx : x < p) (hy : y < p) :
    a * p + x < b * p + y ↔ a < b ∨ a = b ∧ x < y := by
  rcases Nat.lt_trichotomy a b with h | rfl | h
  · have hmul := Nat.mul_le_mul_right p (Nat.succ_le_of_lt h)
    rw [Nat.succ_mul] at hmul
    omega
  · omega
  · have hmul := Nat.mul_le_mul_right p (Nat.succ_le_of_lt h)
    rw [Nat.succ_mul] at hmul
    omega

/-- Runs of digits of one length are ordered by their values, and then by what follows them. -/
theorem encode_digits_lt_iff {ds es : List Char} (hds : ∀ c ∈ ds, c.isDigit)
    (hes : ∀ c ∈ es, c.isDigit) (hlength : ds.length = es.length) (x y : List UInt8) :
    encode ds ++ x < encode es ++ y ↔
      digitsValue ds < digitsValue es ∨ digitsValue ds = digitsValue es ∧ x < y := by
  induction ds generalizing es with
  | nil =>
    obtain rfl := List.length_eq_zero_iff.1 hlength.symm
    simp [encode]
  | cons c ds ih =>
    cases es with
    | nil => cases hlength
    | cons d es =>
      have hlength : ds.length = es.length := Nat.succ.inj hlength
      have hds' : ∀ c ∈ ds, c.isDigit := fun e he => hds e (List.mem_cons_of_mem _ he)
      have hes' : ∀ c ∈ es, c.isDigit := fun e he => hes e (List.mem_cons_of_mem _ he)
      have hlt := digitsValue_lt hds'
      have hlt' := digitsValue_lt hes'
      rw [hlength] at hlt
      have hbelow := mul_add_lt_iff (a := digitsValue [c]) (b := digitsValue [d]) hlt hlt'
      have habove := mul_add_lt_iff (a := digitsValue [d]) (b := digitsValue [c]) hlt' hlt
      rw [← List.singleton_append, ← List.singleton_append (l := es), encode_append,
        encode_append, List.append_assoc, List.append_assoc,
        encode_digit_lt_iff (hds c List.mem_cons_self) (hes d List.mem_cons_self),
        ih hds' hes' hlength, digitsValue_append, digitsValue_append, hlength]
      by_cases hxy : x < y <;> simp only [hxy, and_true, and_false, or_false] <;> omega

/-- **Numbers of one width are ordered by size, and then by what follows them.** -/
theorem encode_zeroPadded_lt_iff {width n m : Nat} (hwidth : 0 < width) (hn : n < 10 ^ width)
    (hm : m < 10 ^ width) (x y : List Char) :
    encode (zeroPadded width n ++ x) < encode (zeroPadded width m ++ y) ↔
      n < m ∨ n = m ∧ encode x < encode y := by
  rw [encode_append, encode_append, encode_digits_lt_iff (fun _ => isDigit_of_mem_zeroPadded)
    (fun _ => isDigit_of_mem_zeroPadded) (by rw [length_zeroPadded hwidth hn,
      length_zeroPadded hwidth hm]), digitsValue_zeroPadded, digitsValue_zeroPadded]

end BenchReport.Text
