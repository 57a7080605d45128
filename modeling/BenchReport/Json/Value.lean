import BenchReport.Decimal.Layout
import BenchReport.Decimal.Numeral

/-!
# JSON values

## Main definitions

* `JsonNumber` — a number keeps whether it was an integer.
* `JsonScalar`, `Json` — the values.
* `JsonNumber.ofNumeral?` — the number of a numeral in a JSON text.
* `JsonNumber.chars` — the written form.
* `Json.putField` — an object read from a text keeps its keys in order.
-/

namespace BenchReport

/-- A number of a JSON text. -/
inductive JsonNumber where
  /-- An integer: from `-2 ^ 63` up to `2 ^ 64 - 1` when it was read. -/
  | integer (value : Int)
  /-- Any other number. -/
  | real (value : Binary64)
  deriving DecidableEq

/-- A value without parts. -/
inductive JsonScalar where
  /-- The value `null`. -/
  | null
  /-- A truth value. -/
  | bool (value : Bool)
  /-- A number. -/
  | number (value : JsonNumber)
  /-- A text. -/
  | string (value : String)
  deriving DecidableEq

/-- A JSON value.  The fields of an object have an order, which writing shows. -/
inductive Json where
  /-- A value without parts. -/
  | scalar (value : JsonScalar)
  /-- A list of values. -/
  | array (items : List Json)
  /-- Named values. -/
  | object (fields : List (String × Json))

namespace JsonNumber

/-- The number as binary64; an integer that has no exact one goes to the nearest. -/
def toBinary64 : JsonNumber → Binary64
  | .integer n => .ofInt n
  | .real x => x

/-! ### Reading

A number that is not an integer is read in the way that needs one machine word and one
or two operations: the leading digits are collected while they fit sixty-four bits, and
the result is scaled by powers of ten as binary64 operations.  So the last bits may
differ from the nearest number. -/

/-- The digits collected so far, and by how many places the point has moved. -/
structure Collected where
  /-- The collected digits, below `2 ^ 64`. -/
  significand : Nat
  /-- The power of ten that makes up for digits left out or behind the point. -/
  power : Int
  /-- A digit has been left out. -/
  full : Bool

/-- The digits fit sixty-four bits. -/
def wordLimit : Nat := Nat.pow 2 64

/-- Takes one more digit before the point.  Once a digit does not fit, it and all that
follow only move the point. -/
def Collected.pushWhole (s : Collected) (c : Char) : Collected :=
  let next := s.significand * 10 + (c.toNat - '0'.toNat)
  if s.full || wordLimit ≤ next then { s with power := s.power + 1, full := true }
  else { s with significand := next }

/-- Takes one more digit behind the point.  Once a digit does not fit, it and all that
follow are dropped. -/
def Collected.pushFraction (s : Collected) (c : Char) : Collected :=
  let next := s.significand * 10 + (c.toNat - '0'.toNat)
  if s.full || wordLimit ≤ next then { s with full := true }
  else { s with significand := next, power := s.power - 1 }

/-- The digits before the point. -/
def collectWhole (n : Numeral) : Collected := n.whole.foldl .pushWhole ⟨0, 0, false⟩

/-- All digits.  Digits behind the point are tried again even when digits before it have
been left out. -/
def collect (n : Numeral) : Collected :=
  n.fractionDigits.foldl .pushFraction { collectWhole n with full := false }

/-- The greatest power of ten below the infinities. -/
def topPower : Nat := 308

/-- `x / 10 ^ power`, in steps of at most `topPower`. -/
def scaleDown (x : Binary64) (power : Nat) : Binary64 :=
  if power ≤ topPower then x / .ofNat (Nat.pow 10 power)
  else if x.isZero then x
  else scaleDown (x / .ofNat (Nat.pow 10 topPower)) (power - topPower)
termination_by power
decreasing_by simp only [topPower] at *; omega

/-- `x * 10 ^ power`, unless that is too large. -/
def scaleUp? (x : Binary64) (power : Nat) : Option Binary64 :=
  if power ≤ topPower then
    let y := x * .ofNat (Nat.pow 10 power)
    if y.isFinite then some y else none
  else if x.isZero then some x
  else none

/-- A written exponent needs thirty-one bits at most. -/
def exponentLimit : Nat := Nat.pow 2 31

/-- The number without its sign, unless it is too large. -/
def magnitude? (n : Numeral) : Option Binary64 :=
  let s := collect n
  let exponent := n.exponent.getD 0
  if exponentLimit ≤ exponent.natAbs then
    if s.significand = 0 ∨ exponent < 0 then some 0 else none
  else
    let power := s.power + exponent
    if 0 ≤ power then scaleUp? (.ofNat s.significand) power.toNat
    else some (scaleDown (.ofNat s.significand) (-power).toNat)

/-- The number of a numeral with a sign, unless it is too large.  Digits alone make an
integer when it fits; zero with a minus sign is no integer. -/
def ofNumeral? (negative : Bool) (n : Numeral) : Option JsonNumber :=
  let s := collectWhole n
  let whole := n.fraction.isNone && n.exponent.isNone && !s.full
  if whole && !negative then some (.integer s.significand)
  else if whole && s.significand != 0 && s.significand ≤ Nat.pow 2 63 then
    some (.integer (-(s.significand : Int)))
  else (magnitude? n).map fun x => .real (if negative then -x else x)

/-! ### Writing -/

/-- Numbers are written with the fewest digits that identify them, positionally while the
first digit stands between the fifth place after the point and the sixteenth before it. -/
def layout : Layout := ⟨-5, 15, true, true⟩

/-- The written form of an integer. -/
def integerChars (n : Int) : List Char :=
  (if n < 0 then ['-'] else []) ++ Text.digits n.natAbs

/-- The written form of a number.  JSON has none for infinities and NaN. -/
def realChars : Binary64 → List Char
  | .finite negative m =>
      (if negative then ['-'] else []) ++
        (if m.units = 0 then ['0', '.', '0'] else layout.write m.shortest)
  | _ => ['n', 'u', 'l', 'l']

/-- The written form. -/
def chars : JsonNumber → List Char
  | .integer n => integerChars n
  | .real x => realChars x

end JsonNumber

namespace Json

/-- The value of a number; `null` for the infinities and NaN, which have no form. -/
def ofBinary64 (x : Binary64) : Json :=
  if x.isFinite then .scalar (.number (.real x)) else .scalar .null

/-- The value of a natural number. -/
def ofNat (n : Nat) : Json := .scalar (.number (.integer n))

/-- The value of a text. -/
def ofString (s : String) : Json := .scalar (.string s)

/-- The value of a truth value. -/
def ofBool (b : Bool) : Json := .scalar (.bool b)

/-- Puts a field into fields in ascending order of their keys; a field with the same key
is replaced. -/
def putField (key : String) (value : Json) : List (String × Json) → List (String × Json)
  | [] => [(key, value)]
  | (k, v) :: rest =>
      if key < k then (key, value) :: (k, v) :: rest
      else if key = k then (key, value) :: rest
      else (k, v) :: putField key value rest

/-- The value under a key. -/
def fieldOf? (key : String) (fields : List (String × Json)) : Option Json :=
  fields.lookup key

end Json

end BenchReport
