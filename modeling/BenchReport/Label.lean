import BenchReport.Decimal.Fixed

/-!
# Number labels

How the report shows a number to a reader: with a magnitude suffix, as a percentage,
or with commas between the thousands.  Charts show numbers scaled and rounded, as
numbers; `roundTo` and `toThousands` are those roundings.

## Main definitions

* `Scale` — plain, thousands or millions, and when each is used.
* `Label.compact`, `Label.percent`, `Label.grouped` — the texts.
* `Label.figure`, `Label.percentFigure` — the texts of a figure that may be absent.
* `Binary64.roundTo`, `Binary64.toThousands` — the roundings of chart values.
-/

namespace BenchReport

/-- The unit a compact label counts in. -/
inductive Scale where
  /-- The number itself. -/
  | plain
  /-- Thousands. -/
  | thousands
  /-- Millions. -/
  | millions
  deriving DecidableEq

namespace Scale

/-- Millions from a million upwards, thousands from a thousand upwards.  The number is
compared with its sign, so a negative one is always plain. -/
def of (x : Binary64) : Scale :=
  if 1000000 ≤ x then .millions else if 1000 ≤ x then .thousands else .plain

/-- The number counted in the unit. -/
def apply : Scale → Binary64 → Binary64
  | .plain, x => x
  | .thousands, x => x / 1000
  | .millions, x => x / 1000000

/-- The letter after the number. -/
def suffix : Scale → String
  | .plain => ""
  | .thousands => "K"
  | .millions => "M"

end Scale

namespace Label

/-- What is shown for a figure that was never measured. -/
def notAvailable : String := "N/A"

/-- A number in its own scale, with a number of places. -/
def compact (x : Binary64) (places : Nat) : String :=
  ((Scale.of x).apply x).fixedText places ++ (Scale.of x).suffix

/-- A percentage with a number of places. -/
def percent (x : Binary64) (places : Nat) : String := x.fixedText places ++ "%"

/-- A number with commas between the thousands.  A minus sign is shown only when some
digit that is not zero follows. -/
def grouped (x : Binary64) (places : Nat) : String :=
  match x with
  | .finite negative m =>
      let d := m.toFixed false places
      String.ofList (Fixed.groupedChars ⟨negative && d.scaled != 0, d.scaled, places⟩)
  | _ => x.specialText

/-- The text of a figure, when it is there and finite. -/
def orNotAvailable (text : Binary64 → String) (x : Option Binary64) : String :=
  match x with
  | some v => if v.isFinite then text v else notAvailable
  | none => notAvailable

/-- The compact text of a figure that may be absent. -/
def figure (x : Option Binary64) (places : Nat) : String :=
  orNotAvailable (compact · places) x

/-- The percentage text of a figure that may be absent. -/
def percentFigure (x : Option Binary64) (places : Nat) : String :=
  orNotAvailable (percent · places) x

end Label

namespace Binary64

/-- The power of ten that scales `places` decimal places to whole numbers.  The count of
places is a signed number of thirty-two bits: a larger count wraps around and then
stands for a reciprocal power. -/
def placesFactor (places : Nat) : Binary64 := pow 10 (Int.bmod places (Nat.pow 2 32))

/-- The number rounded to decimal places: scaled up, rounded to a whole number with
halves away from zero, and scaled down again. -/
def roundTo (x : Binary64) (places : Nat) : Binary64 :=
  (x * placesFactor places).roundHalfAway / placesFactor places

/-- The number in thousands, rounded to one place. -/
def toThousands (x : Binary64) : Binary64 := (x / 1000).roundTo 1

end Binary64

end BenchReport
