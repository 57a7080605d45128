/-!
# Decimal digits

Natural numbers as decimal digits: padded with zeros to a width, grouped by
thousands, and read back.

## Main definitions

* `digits n` — the digits of `n`, most significant first, at least one.
* `zeroPadded width n` — the same with zeros in front up to a width.
* `groupThousands` — a comma before every third character from the right.
* `readDigits` — the longest run of digits at the front of a text.
-/

namespace BenchReport.Text

/-- The decimal digits of a natural number. -/
def digits (n : Nat) : List Char := Nat.toDigits 10 n

/-- The decimal digits of `n`, with zeros in front up to `width` characters. -/
def zeroPadded (width n : Nat) : List Char :=
  List.replicate (width - (digits n).length) '0' ++ digits n

/-- A comma before every character that stands a positive multiple of three from the
end, the first character excepted. -/
def groupThousands : List Char → List Char
  | [] => []
  | [c] => [c]
  | c :: d :: rest =>
      if (rest.length + 1) % 3 = 0 then c :: ',' :: groupThousands (d :: rest)
      else c :: groupThousands (d :: rest)

/-- The digits at the front of a text, and what follows them. -/
def readDigits (text : List Char) : List Char × List Char :=
  (text.takeWhile Char.isDigit, text.dropWhile Char.isDigit)

/-- The natural number that a run of digits denotes. -/
def digitsValue (ds : List Char) : Nat := Nat.ofDigitChars 10 ds 0

theorem digitsValue_digits (n : Nat) : digitsValue (digits n) = n :=
  Nat.ofDigitChars_ten_toDigits

theorem isDigit_of_mem_digits {n : Nat} {c : Char} (h : c ∈ digits n) : c.isDigit :=
  Nat.isDigit_of_mem_toDigits (by decide) (by decide) h

theorem readDigits_append (text : List Char) :
    (readDigits text).1 ++ (readDigits text).2 = text :=
  List.takeWhile_append_dropWhile

end BenchReport.Text
