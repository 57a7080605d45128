import BenchReport.Binary64.Basic
import BenchReport.Text.Digits

/-!
# The shortest decimal that identifies a number

Every positive magnitude stands for an interval of reals: those that are rounded to
it.  Among the decimals of the fewest digits in that interval the nearest is chosen,
of two equally near ones the one with the even last digit.

Seventeen digits suffice for every magnitude; the exact decimal value, which lies in
the interval too, stands behind the search so that the answer is always right.

## Main definitions

* `Decimal` — digits and an exponent of ten.
* `Magnitude.readsBack` — a decimal lies in the interval of a magnitude.
* `Magnitude.shortest` — the decimal that is written.
-/

namespace BenchReport

/-- The decimal `digits * 10 ^ exponent`. -/
structure Decimal where
  /-- The significant digits, as one number. -/
  digits : Nat
  /-- The power of ten. -/
  exponent : Int
  deriving DecidableEq

namespace Decimal

/-- Compares a decimal with `num` quarter units, exactly. -/
def compareQuarterUnits (d : Decimal) (num : Nat) : Ordering :=
  compare (d.digits * Nat.pow 10 d.exponent.toNat * (4 * Binary64.one))
    (num * Nat.pow 10 (-d.exponent).toNat)

/-- The digits without their trailing zeros, which move into the exponent. -/
def stripZeros (digits : Nat) (exponent : Int) : Decimal :=
  if h : 0 < digits ∧ digits % 10 = 0 then stripZeros (digits / 10) (exponent + 1)
  else ⟨digits, exponent⟩
termination_by digits
decreasing_by omega

end Decimal

namespace Magnitude

/-- The number of gaps in the magnitude; ties at the ends of its interval go to it
when this is even. -/
def gaps (m : Magnitude) : Nat := m.units / Binary64.gap m.units

/-- The lower end of the interval, in quarter units.  Below a power of two the
neighbour is half as far away, except where the gap cannot shrink. -/
def lowerQuarters (m : Magnitude) : Nat :=
  let g := Binary64.gap m.units
  if m.gaps = Nat.pow 2 52 ∧ 1 < g then 4 * m.units - g else 4 * m.units - 2 * g

/-- The upper end of the interval, in quarter units. -/
def upperQuarters (m : Magnitude) : Nat := 4 * m.units + 2 * Binary64.gap m.units

/-- The decimal is among the reals that are rounded to the magnitude. -/
def readsBack (m : Magnitude) (d : Decimal) : Bool :=
  let closed := m.gaps % 2 == 0
  let low := d.compareQuarterUnits m.lowerQuarters
  let high := d.compareQuarterUnits m.upperQuarters
  (low == .gt || (closed && low == .eq)) && (high == .lt || (closed && high == .eq))

/-- The count of digits before the decimal point; zero or negative for a magnitude
below a tenth or less.  Multiplied by `10 ^ 400` every positive magnitude exceeds one. -/
def leadingPlace (m : Magnitude) : Int :=
  ((Text.digits (m.units * Nat.pow 10 400 / Binary64.one)).length : Int) - 400

/-- The magnitude divided by `10 ^ exponent`, as a numerator and a denominator. -/
def overPower (m : Magnitude) (exponent : Int) : Nat × Nat :=
  (m.units * Nat.pow 10 (-exponent).toNat, Binary64.one * Nat.pow 10 exponent.toNat)

/-- The multiple of `10 ^ exponent` to be written, if one identifies the magnitude: one of
the two neighbours of the magnitude, which is `num / den` such powers. -/
def neighbour? (m : Magnitude) (exponent : Int) (num den : Nat) : Option Decimal :=
  if m.readsBack ⟨num / den, exponent⟩ then
    if m.readsBack ⟨num / den + 1, exponent⟩ then some ⟨roundHalfEven num den, exponent⟩
    else some ⟨num / den, exponent⟩
  else if m.readsBack ⟨num / den + 1, exponent⟩ then some ⟨num / den + 1, exponent⟩
  else none

/-- The decimal of `count` digits to be written, if one of that length identifies the
magnitude. -/
def candidate? (m : Magnitude) (count : Nat) : Option Decimal :=
  let exponent := m.leadingPlace - count
  let (num, den) := m.overPower exponent
  m.neighbour? exponent num den

/-- The exact decimal value. -/
def exactDecimal (m : Magnitude) : Decimal := ⟨m.units * Nat.pow 5 1074, -1074⟩

/-- The shortest decimal that identifies the magnitude. -/
def shortest (m : Magnitude) : Decimal :=
  let d := ((List.range 17).findSome? fun i => m.candidate? (i + 1)).getD m.exactDecimal
  Decimal.stripZeros d.digits d.exponent

end Magnitude

end BenchReport
