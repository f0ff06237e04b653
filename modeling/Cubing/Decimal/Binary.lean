/-!
# Binary floating-point numbers

A number of the 64-bit format, decoded from its bits: an integer times a power
of two, or one of the values that are no numbers. Everything about such numbers
is computed exactly on these integers.
-/
namespace Cubing.Decimal

/-- A power of two. Exponents below zero count as zero. -/
def twoTo (exponent : Int) : Nat := Nat.pow 2 exponent.toNat

/-- The leading bit of a mantissa, which is not stored. -/
def leadingBit : Nat := 0x10000000000000

inductive Binary where
  | nan
  | infinite (negative : Bool)
  /-- The number `mantissa * 2 ^ exponent`, with the given sign. -/
  | finite (negative : Bool) (mantissa : Nat) (exponent : Int)
deriving DecidableEq, Repr

namespace Binary

/-- Reads the sign bit, the eleven bits of the exponent and the fraction. -/
def ofBits (bits : UInt64) : Binary :=
  let negative := bits >>> 63 == 1
  let exponent := ((bits >>> 52) &&& 0x7FF).toNat
  let fraction := (bits &&& 0xFFFFFFFFFFFFF).toNat
  if exponent = 0x7FF then
    if fraction = 0 then .infinite negative else .nan
  else if exponent = 0 then .finite negative fraction (-1074)
  else .finite negative (leadingBit + fraction) ((exponent : Int) - 1075)

/-- The magnitude of a finite number as a fraction: numerator and denominator. -/
def fraction (mantissa : Nat) (exponent : Int) : Nat × Nat :=
  (mantissa * twoTo exponent, twoTo (-exponent))

/-- The integer that the number is, if it is one. -/
def toInt? : Binary → Option Int
  | .finite negative mantissa exponent =>
    let (numerator, denominator) := fraction mantissa exponent
    if numerator % denominator = 0 then
      let magnitude : Int := (numerator / denominator : Nat)
      some (if negative then -magnitude else magnitude)
    else none
  | _ => none

/-- The number without its fractional part. -/
def truncate? : Binary → Option Int
  | .finite negative mantissa exponent =>
    let (numerator, denominator) := fraction mantissa exponent
    let magnitude : Int := (numerator / denominator : Nat)
    some (if negative then -magnitude else magnitude)
  | _ => none

end Binary

end Cubing.Decimal
