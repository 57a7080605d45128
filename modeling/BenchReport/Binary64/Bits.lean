import BenchReport.Binary64.Basic

/-!
# The bit patterns of binary64 numbers

The interchange encoding: a sign bit, eleven bits of exponent and fifty-two bits of
fraction.  Counting the bit patterns of non-negative numbers upwards counts the grid
points upwards, which gives `magnitudeBits` in closed form.
-/

namespace BenchReport.Binary64

/-- The pattern of a magnitude of `u` units, without the sign bit. -/
def magnitudeBits (u : Nat) : Nat := (u.log2 - 52) * Nat.pow 2 52 + u / gap u

/-- The exponent field of the infinities and NaNs. -/
def topExponent : Nat := 2047

/-- The bit pattern, below `2 ^ 64`; a NaN has the quiet pattern without payload. -/
def toBits : Binary64 → Nat
  | .finite s m => (if s then Nat.pow 2 63 else 0) + magnitudeBits m.units
  | .infinite s => (if s then Nat.pow 2 63 else 0) + topExponent * Nat.pow 2 52
  | .nan => topExponent * Nat.pow 2 52 + Nat.pow 2 51

/-- The number of a bit pattern below `2 ^ 64`. -/
def ofBits (bits : Nat) : Binary64 :=
  let negative := Nat.pow 2 63 ≤ bits
  let exponent := bits / Nat.pow 2 52 % Nat.pow 2 11
  let fraction := bits % Nat.pow 2 52
  if exponent = topExponent then
    if fraction = 0 then .infinite negative else .nan
  else if exponent = 0 then round negative fraction 1
  else round negative ((Nat.pow 2 52 + fraction) * Nat.pow 2 (exponent - 1)) 1

end BenchReport.Binary64
