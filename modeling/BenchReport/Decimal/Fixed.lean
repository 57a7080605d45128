import BenchReport.Binary64.Basic
import BenchReport.Text.Digits

/-!
# Decimals with a fixed number of places

A label shows a number with a chosen number of decimal places.  The exact binary
value is rounded to that many places, a half to the even last place, and all digits
before the point are written.  The sign is the sign of the number, also of a zero and
of a number that is rounded to zero.

## Main definitions

* `Fixed` — a sign, a whole number of last places, and the number of places.
* `Fixed.chars` — its digits with the point.
* `Magnitude.toFixed` — the rounded decimal of a magnitude.
* `Binary64.fixedText` — the text of any number.
-/

namespace BenchReport

/-- A decimal of `places` places: `scaled / 10 ^ places` with a sign. -/
structure Fixed where
  /-- A minus sign is written. -/
  negative : Bool
  /-- The magnitude, counted in units of the last place. -/
  scaled : Nat
  /-- How many digits stand after the point. -/
  places : Nat
  deriving DecidableEq

namespace Fixed

/-- The digits before the point. -/
def wholeDigits (x : Fixed) : List Char := Text.digits (x.scaled / Nat.pow 10 x.places)

/-- The digits after the point, exactly `places` of them. -/
def fractionDigits (x : Fixed) : List Char :=
  if x.places = 0 then [] else Text.zeroPadded x.places (x.scaled % Nat.pow 10 x.places)

/-- The point and the digits after it; nothing when there are no places. -/
def fractionPart (x : Fixed) : List Char :=
  if x.places = 0 then [] else '.' :: x.fractionDigits

/-- The sign. -/
def signPart (x : Fixed) : List Char := if x.negative then ['-'] else []

/-- The written form. -/
def chars (x : Fixed) : List Char := x.signPart ++ x.wholeDigits ++ x.fractionPart

/-- The written form with commas between the thousands. -/
def groupedChars (x : Fixed) : List Char :=
  x.signPart ++ Text.groupThousands x.wholeDigits ++ x.fractionPart

end Fixed

/-- A magnitude rounded to a number of decimal places. -/
def Magnitude.toFixed (m : Magnitude) (negative : Bool) (places : Nat) : Fixed :=
  ⟨negative, roundHalfEven (m.units * Nat.pow 10 places) Binary64.one, places⟩

namespace Binary64

/-- How a number that is not finite is shown. -/
def specialText : Binary64 → String
  | .infinite true => "-inf"
  | .infinite false => "inf"
  | _ => "NaN"

/-- A number with a fixed number of decimal places. -/
def fixedText (x : Binary64) (places : Nat) : String :=
  match x with
  | .finite negative m => String.ofList (m.toFixed negative places).chars
  | _ => x.specialText

end Binary64

end BenchReport
