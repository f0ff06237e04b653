import Cubing.Decimal.Binary

/-!
# Shortest decimals

A finite binary number is written with the fewest decimal digits that read back
to it, and of several such decimals with the nearest. The real numbers that
read back to a number form an interval, from halfway to its lower neighbour to
halfway to its upper neighbour, the ends included if the mantissa is even. For
each number of digits only the two neighbours of the value on that decimal grid
have to be tried.
-/
namespace Cubing.Decimal

/-- The decimal number `digits * 10 ^ exponent`. -/
structure Number where
  digits : Nat
  exponent : Int
deriving DecidableEq, Repr

/-- A power of ten. Exponents below zero count as zero. -/
def tenTo (exponent : Int) : Nat := Nat.pow 10 exponent.toNat

/-- Compares `left * 10 ^ ten` with `right * 2 ^ two`. -/
def compareScaled (left : Nat) (ten : Int) (right : Nat) (two : Int) : Ordering :=
  compare (left * tenTo ten * twoTo (-two)) (right * twoTo two * tenTo (-ten))

/-- Does the decimal read back to `mantissa * 2 ^ exponent`? Below a power of two the lower
neighbour is half as far away as the upper one, except at the least exponent. -/
def readsBack (mantissa : Nat) (exponent : Int) (decimal : Number) : Bool :=
  let low := if mantissa = leadingBit ∧ exponent > -1074 then 4 * mantissa - 1 else 4 * mantissa - 2
  let high := 4 * mantissa + 2
  let closed := mantissa % 2 == 0
  let above := compareScaled decimal.digits decimal.exponent low (exponent - 2)
  let below := compareScaled decimal.digits decimal.exponent high (exponent - 2)
  (above == .gt || (closed && above == .eq)) && (below == .lt || (closed && below == .eq))

def digitCount (n : Nat) : Nat := (Nat.toDigits 10 n).length

/-- The least `k` for which a positive number is below `10 ^ k`. -/
def scale (numerator denominator : Nat) : Int :=
  if denominator ≤ numerator then digitCount (numerator / denominator)
  else 1 - digitCount ((denominator - 1) / numerator)

/-- The decimal with the given exponent next below a number. -/
def floorAt (numerator denominator : Nat) (exponent : Int) : Nat :=
  numerator * tenTo (-exponent) / (denominator * tenTo exponent)

/-- Is the number at least halfway from the decimal to the next one? A tie goes to the even
digit. -/
def roundsUp (numerator denominator : Nat) (decimal : Number) : Bool :=
  let twice := 2 * numerator * tenTo (-decimal.exponent)
  let middle := (2 * decimal.digits + 1) * denominator * tenTo decimal.exponent
  match compare twice middle with
  | .lt => false
  | .gt => true
  | .eq => decimal.digits % 2 == 1

/-- The nearest of the two neighbouring decimals with the given exponent that reads back. -/
def nearestAt (mantissa : Nat) (exponent : Int) (at10 : Int) : Option Number :=
  let (numerator, denominator) := Binary.fraction mantissa exponent
  let low : Number := ⟨floorAt numerator denominator at10, at10⟩
  let high : Number := ⟨low.digits + 1, at10⟩
  match readsBack mantissa exponent low, readsBack mantissa exponent high with
  | true, true => some (if roundsUp numerator denominator low then high else low)
  | true, false => some low
  | false, true => some high
  | false, false => none

/-- Seventeen digits identify every number of the 64-bit format. -/
def maxDigits : Nat := 17

/-- The decimal of a positive number `mantissa * 2 ^ exponent`, with the fewest digits. -/
def shortest (mantissa : Nat) (exponent : Int) : Number :=
  let (numerator, denominator) := Binary.fraction mantissa exponent
  let top := scale numerator denominator
  -- The first number of digits that has a decimal reading back is the least one.
  let found := (List.range maxDigits).findSome? fun (count : Nat) =>
    nearestAt mantissa exponent (top - 1 - count)
  found.getD ⟨floorAt numerator denominator (top - maxDigits), top - maxDigits⟩

/-- Digits of a decimal number without trailing zeros, and the power of ten by which the first
of them counts. -/
def significant (decimal : Number) : List Char × Int :=
  let digits := Nat.toDigits 10 decimal.digits
  let kept := (digits.reverse.dropWhile (· == '0')).reverse
  (kept, decimal.exponent + digits.length - 1)

/-- Numbers whose first digit counts for a power of ten from -4 to 15 are written positionally,
with at least one digit after the point, the others with an exponent that has a sign and at
least two digits. -/
def layout (digits : List Char) (lead : Int) : List Char :=
  if lead < -4 ∨ lead ≥ 16 then
    let fraction := digits.drop 1
    let exponent := Nat.toDigits 10 lead.natAbs
    digits.take 1 ++ (if fraction.isEmpty then [] else '.' :: fraction) ++
      ['e', if lead < 0 then '-' else '+'] ++ List.replicate (2 - exponent.length) '0' ++ exponent
  else if lead < 0 then
    ['0', '.'] ++ List.replicate (lead.natAbs - 1) '0' ++ digits
  else
    let whole := lead.toNat + 1
    let fraction := digits.drop whole
    digits.take whole ++ List.replicate (whole - digits.length) '0' ++ ['.'] ++
      (if fraction.isEmpty then ['0'] else fraction)

def Binary.text : Binary → String
  | .nan => "nan"
  | .infinite negative => if negative then "-inf" else "inf"
  | .finite negative mantissa exponent =>
    let magnitude :=
      if mantissa = 0 then ['0', '.', '0']
      else
        let (digits, lead) := significant (shortest mantissa exponent)
        layout digits lead
    String.ofList (if negative then '-' :: magnitude else magnitude)

end Cubing.Decimal
