import BenchReport.Binary64.Rounding

/-!
# Binary64 numbers

The numbers of the report are IEEE 754 binary64 numbers.  A finite one is a sign
and a magnitude on the grid of `BenchReport.Binary64.Rounding`, so its exact value
is at hand as a natural number and every rounding is explicit.

## Main definitions

* `Magnitude`, `Binary64` — the representable counts of units and the numbers.
* `Binary64.round` — the number nearest to an exact quotient of units.
* `Binary64.position` — the place on the number line; `≤` and `<` compare places.
* multiplication, division, truncation, rounding to whole numbers, powers.
-/

namespace BenchReport

/-- A finite binary64 magnitude, as a count of units of `2 ^ (-1074)`. -/
structure Magnitude where
  /-- How many units. -/
  units : Nat
  /-- The count lies on the grid of its binade. -/
  onGrid : Binary64.gap units ∣ units
  /-- The count is not too large. -/
  lt_limit : units < Binary64.limit
  deriving DecidableEq

/-- A binary64 number.  All NaNs are one. -/
inductive Binary64 where
  /-- A number of finitely many units; both zeros are finite. -/
  | finite (negative : Bool) (magnitude : Magnitude)
  /-- An infinity. -/
  | infinite (negative : Bool)
  /-- Not a number. -/
  | nan
  deriving DecidableEq

namespace Magnitude

/-- The magnitude nearest to `num / den` units, unless that is too large. -/
def nearest? (num den : Nat) : Option Magnitude :=
  if h : Binary64.nearest num den < Binary64.limit then
    some ⟨Binary64.nearest num den, Binary64.gap_nearest_dvd num den, h⟩
  else none

end Magnitude

namespace Binary64

/-- The number nearest to `num / den` units, with the given sign; infinite when that
is too large. -/
def round (negative : Bool) (num den : Nat) : Binary64 :=
  match Magnitude.nearest? num den with
  | some m => .finite negative m
  | none => .infinite negative

/-- The zero of the given sign. -/
def zero (negative : Bool) : Binary64 := round negative 0 1

/-- The number nearest to a natural number. -/
def ofNat (n : Nat) : Binary64 := round false (n * one) 1

/-- The number nearest to an integer. -/
def ofInt (n : Int) : Binary64 := round (n < 0) (n.natAbs * one) 1

instance (n : Nat) : OfNat Binary64 n := ⟨ofNat n⟩

instance : Inhabited Binary64 := ⟨0⟩

/-! ### Classification -/

/-- Neither an infinity nor a NaN. -/
def isFinite : Binary64 → Bool
  | .finite _ _ => true
  | _ => false

/-- The sign is set, as on `-0`. -/
def isNegative : Binary64 → Bool
  | .finite negative _ => negative
  | .infinite negative => negative
  | .nan => false

/-- One of the two zeros. -/
def isZero : Binary64 → Bool
  | .finite _ m => m.units == 0
  | _ => false

/-- The number without its sign. -/
def abs : Binary64 → Binary64
  | .finite _ m => .finite false m
  | .infinite _ => .infinite false
  | .nan => .nan

/-- The number with the opposite sign. -/
def neg : Binary64 → Binary64
  | .finite s m => .finite (!s) m
  | .infinite s => .infinite (!s)
  | .nan => .nan

instance : Neg Binary64 := ⟨neg⟩

/-! ### Order -/

/-- An integer with the given sign and absolute value. -/
def signed (negative : Bool) (n : Nat) : Int := if negative then -(n : Int) else n

/-- The place on the number line in units.  The infinities lie just outside the finite
numbers and a NaN has no place. -/
def position : Binary64 → Option Int
  | .finite negative m => some (signed negative m.units)
  | .infinite negative => some (signed negative limit)
  | .nan => none

/-- `x` lies at or before `y`; no NaN does. -/
protected def le (x y : Binary64) : Prop :=
  ∃ a ∈ x.position, ∃ b ∈ y.position, a ≤ b

/-- `x` lies before `y`; no NaN does. -/
protected def lt (x y : Binary64) : Prop :=
  ∃ a ∈ x.position, ∃ b ∈ y.position, a < b

/-- `x` and `y` are the same number: the zeros are, a NaN is not even itself. -/
def sameNumber (x y : Binary64) : Bool :=
  match x.position, y.position with
  | some a, some b => a == b
  | _, _ => false

instance : LE Binary64 := ⟨Binary64.le⟩

instance : LT Binary64 := ⟨Binary64.lt⟩

instance (x y : Binary64) : Decidable (x ≤ y) :=
  inferInstanceAs (Decidable (∃ a ∈ x.position, ∃ b ∈ y.position, a ≤ b))

instance (x y : Binary64) : Decidable (x < y) :=
  inferInstanceAs (Decidable (∃ a ∈ x.position, ∃ b ∈ y.position, a < b))

/-! ### Arithmetic: the exact result, rounded once -/

/-- The product. -/
protected def mul : Binary64 → Binary64 → Binary64
  | .nan, _ => .nan
  | _, .nan => .nan
  | .finite s a, .finite t b => round (xor s t) (a.units * b.units) one
  | .infinite s, .infinite t => .infinite (xor s t)
  | .infinite s, .finite t b => if b.units = 0 then .nan else .infinite (xor s t)
  | .finite s a, .infinite t => if a.units = 0 then .nan else .infinite (xor s t)

/-- The quotient. -/
protected def div : Binary64 → Binary64 → Binary64
  | .nan, _ => .nan
  | _, .nan => .nan
  | .finite s a, .finite t b =>
      if b.units = 0 then (if a.units = 0 then .nan else .infinite (xor s t))
      else round (xor s t) (a.units * one) b.units
  | .infinite _, .infinite _ => .nan
  | .infinite s, .finite t _ => .infinite (xor s t)
  | .finite s _, .infinite t => zero (xor s t)

instance : Mul Binary64 := ⟨Binary64.mul⟩

instance : Div Binary64 := ⟨Binary64.div⟩

/-- The whole part; the fraction is dropped and the sign stays. -/
def trunc : Binary64 → Binary64
  | .finite s m => round s (m.units / one * one) 1
  | x => x

/-- The nearest whole number, a half away from zero; the sign stays. -/
def roundHalfAway : Binary64 → Binary64
  | .finite s m => round s (roundHalfUp m.units one * one) 1
  | x => x

/-- `acc * base ^ n` by repeated squaring, each product rounded. -/
def powAcc (acc base : Binary64) (n : Nat) : Binary64 :=
  if n = 0 then acc
  else powAcc (if n % 2 = 1 then acc * base else acc) (base * base) (n / 2)

/-- `base ^ n`; a negative power is the reciprocal of the positive one. -/
def pow (base : Binary64) (n : Int) : Binary64 :=
  if n < 0 then 1 / powAcc 1 base n.natAbs else powAcc 1 base n.natAbs

end Binary64

end BenchReport
