import Cubing.Text.Blank
import Cubing.Text.DecimalDigit

/-!
# Integers as text

An integer is read from an optional sign and decimal digits of any script, single
low lines being allowed between digits, and it may be surrounded by blanks. The
control characters that separate lines, units and fields do not count as blanks
here. An integer with too many digits is neither read nor written.
-/
namespace Cubing.Text

/-- Why a text is not read as an integer. -/
inductive IntegerFault where
  | malformed
  | tooLong (digits : Nat)
deriving DecidableEq, Repr

/-- An integer that is read or written has at most this many digits. -/
def maxIntegerDigits : Nat := 4300

/-- Has an integer few enough digits to be written? -/
def isWritable (number : Int) : Bool :=
  (Nat.toDigits 10 number.natAbs).length ≤ maxIntegerDigits

/-- Blanks that may surround an integer. -/
def isMargin (c : Char) : Bool := isBlank c && !(0x1C ≤ c.toNat && c.toNat ≤ 0x1F)

/-- The values of the digits, most significant first, in a text of digits and low lines. A low
line stands between two digits. -/
def digitsOf? : List Char → Option (List Nat)
  | [] => none
  | [c] => (digitValue? c).map fun value => [value]
  | c :: '_' :: rest => do
    let value ← digitValue? c
    let values ← digitsOf? rest
    pure (value :: values)
  | c :: rest => do
    let value ← digitValue? c
    let values ← digitsOf? rest
    pure (value :: values)

/-- The number that a sequence of digits denotes. -/
def digitsValue (digits : List Nat) : Nat := digits.foldl (fun value digit => 10 * value + digit) 0

/-- Splits off the sign of a number. -/
def splitSign : List Char → Int × List Char
  | '+' :: rest => (1, rest)
  | '-' :: rest => (-1, rest)
  | text => (1, text)

def isNumeralChar (c : Char) : Bool := c = '_' || (digitValue? c).isSome

/-- Reads an integer. The digits are judged as far as they go before what follows them is, so
their number is at fault rather than what follows. -/
def readInteger (text : String) : Except IntegerFault Int :=
  let (sign, magnitude) := splitSign (trimBy isMargin text.toList)
  match digitsOf? (magnitude.takeWhile isNumeralChar) with
  | none => .error .malformed
  | some digits =>
    if digits.length > maxIntegerDigits then .error (.tooLong digits.length)
    else if (magnitude.dropWhile isNumeralChar).isEmpty then .ok (sign * digitsValue digits)
    else .error .malformed

end Cubing.Text
