import BenchReport.Decimal.Shortest

/-!
# How a shortest decimal is laid out

A decimal is written positionally while its first digit stands not too far from the
point, and with an exponent of ten otherwise.

## Main definitions

* `Layout` — the decisions of a layout.
* `Layout.write` — the text of a decimal.
-/

namespace BenchReport

/-- The decisions of a number layout. -/
structure Layout where
  /-- The least exponent of the first digit that is written positionally. -/
  positionalFrom : Int
  /-- The greatest such exponent. -/
  positionalTo : Int
  /-- A whole number that is written positionally ends in `.0`. -/
  pointZero : Bool
  /-- A plus sign stands before an exponent that is not negative. -/
  exponentPlus : Bool

namespace Layout

/-- The layout of a positive decimal whose first digit has the exponent `lead`. -/
def positional (n : Layout) (ds : List Char) (lead : Int) : List Char :=
  if lead < 0 then
    '0' :: '.' :: (List.replicate (-lead - 1).toNat '0' ++ ds)
  else
    let whole := lead.toNat + 1
    if whole < ds.length then ds.take whole ++ '.' :: ds.drop whole
    else
      ds ++ List.replicate (whole - ds.length) '0' ++ (if n.pointZero then ['.', '0'] else [])

/-- The layout with an exponent. -/
def scientific (n : Layout) (ds : List Char) (lead : Int) : List Char :=
  let sign := if lead < 0 then ['-'] else if n.exponentPlus then ['+'] else []
  let fraction := if 1 < ds.length then '.' :: ds.drop 1 else []
  ds.take 1 ++ fraction ++ 'e' :: (sign ++ Text.digits lead.natAbs)

/-- The text of a decimal with at least one digit that is not zero. -/
def write (n : Layout) (d : Decimal) : List Char :=
  let ds := Text.digits d.digits
  let lead := d.exponent + ds.length - 1
  if n.positionalFrom ≤ lead ∧ lead ≤ n.positionalTo then n.positional ds lead
  else n.scientific ds lead

end Layout

end BenchReport
