import BenchReport.Binary64.Basic
import BenchReport.Text.Digits

/-!
# Decimal numerals

A numeral is a run of digits with an optional point and an optional exponent.  Texts
that hold numbers differ in what they demand of the parts, so reading keeps the parts
and leaves the demands to the reader of each kind of text.

## Main definitions

* `Numeral` — the parts of a numeral.
* `Numeral.read?` — the numeral at the front of a text.
* `Numeral.toBinary64` — the number nearest to its exact value.
-/

namespace BenchReport

/-- An unsigned decimal numeral. -/
structure Numeral where
  /-- The digits before the point. -/
  whole : List Char
  /-- The digits after the point, when a point is there. -/
  fraction : Option (List Char)
  /-- The exponent of ten, when one is written. -/
  exponent : Option Int

namespace Numeral

/-- Reads a point and the digits after it, when the text begins with a point. -/
def readFraction : List Char → Option (List Char) × List Char
  | '.' :: rest => (some (Text.readDigits rest).1, (Text.readDigits rest).2)
  | text => (none, text)

/-- Reads an optional sign; whether it is a minus sign, and what follows. -/
def readSign : List Char → Bool × List Char
  | '-' :: rest => (true, rest)
  | '+' :: rest => (false, rest)
  | text => (false, text)

/-- Reads an optional sign and at least one digit. -/
def readExponentDigits (text : List Char) : Option (Int × List Char) :=
  let (negative, text) := readSign text
  let (ds, rest) := Text.readDigits text
  if ds.isEmpty then none else some (Binary64.signed negative (Text.digitsValue ds), rest)

/-- Reads an exponent, when the text begins with its mark.  A mark without digits is no
exponent. -/
def readExponent : List Char → Option (Option Int × List Char)
  | 'e' :: rest => (readExponentDigits rest).map fun (e, rest) => (some e, rest)
  | 'E' :: rest => (readExponentDigits rest).map fun (e, rest) => (some e, rest)
  | text => some (none, text)

/-- Reads a numeral off the front of a text.  There may be no digits at all; only a mark
of an exponent without an exponent is refused. -/
def read? (text : List Char) : Option (Numeral × List Char) :=
  let (whole, text) := Text.readDigits text
  let (fraction, text) := readFraction text
  (readExponent text).map fun (exponent, rest) => (⟨whole, fraction, exponent⟩, rest)

/-- The digits after the point. -/
def fractionDigits (n : Numeral) : List Char := n.fraction.getD []

/-- All digits as one natural number. -/
def significand (n : Numeral) : Nat := Text.digitsValue (n.whole ++ n.fractionDigits)

/-- The power of ten that the significand is multiplied by. -/
def power (n : Numeral) : Int := n.exponent.getD 0 - n.fractionDigits.length

end Numeral

namespace Binary64

/-- The number nearest to `significand * 10 ^ power`, with a sign.  A value at or above
`10 ^ 400` is too large for a finite number and a value below `10 ^ (-400)` too small
for a positive one; they are told by the place of the first digit. -/
def ofDecimal (negative : Bool) (significand : Nat) (power : Int) : Binary64 :=
  let lead := power + (Text.digits significand).length
  if significand = 0 then zero negative
  else if 400 < lead then .infinite negative
  else if lead < -400 then zero negative
  else round negative (significand * Nat.pow 10 power.toNat * one) (Nat.pow 10 (-power).toNat)

end Binary64

namespace Numeral

/-- The number nearest to the exact value of the numeral, with a sign. -/
def toBinary64 (n : Numeral) (negative : Bool) : Binary64 :=
  .ofDecimal negative n.significand n.power

/-- Reads a text that is a numeral from end to end, with an optional sign and at least
one digit. -/
def parse? (text : List Char) : Option Binary64 :=
  let (negative, text) := readSign text
  match read? text with
  | some (n, []) =>
      if n.whole.isEmpty && n.fractionDigits.isEmpty then none
      else some (n.toBinary64 negative)
  | _ => none

end Numeral

end BenchReport
