import Cubing.Axis
import Cubing.QuarterTurns

/-!
# Moves

Moves as they are written: what is turned, by which letter, and how far. A move
turns a face, the middle layer of an axis, the whole cube, or several layers
counted from a face. Moves may be put together in groups, which are repeated.

Faces have capital letters. The middle layer M turns like L, E like D and S like
F; the whole cube turns by x like R, by y like U and by z like F.
-/
namespace Cubing

namespace Face

def letter : Face → Char
  | .front => 'F'
  | .top => 'U'
  | .right => 'R'
  | .back => 'B'
  | .left => 'L'
  | .bottom => 'D'

def ofLetter? (c : Char) : Option Face := all.find? fun face => face.letter = c

/-- The small letter of a face stands for a turn of two layers. -/
def smallLetter (face : Face) : Char := face.letter.toLower

def ofSmallLetter? (c : Char) : Option Face := all.find? fun face => face.smallLetter = c

end Face

namespace Axis

/-- The letter of the middle layer of an axis. -/
def middleLetter : Axis → Char
  | .x => 'E'
  | .y => 'M'
  | .z => 'S'

def ofMiddleLetter? (c : Char) : Option Axis := all.find? fun axis => axis.middleLetter = c

/-- The sense in which the middle layer of an axis turns. -/
def middleSign : Axis → Int
  | .x | .y => -1
  | .z => 1

/-- The letter of a turn of the whole cube about an axis, a capital or a small one. -/
def wholeLetter (axis : Axis) (capital : Bool) : Char :=
  match axis, capital with
  | .x, true => 'Y'
  | .y, true => 'X'
  | .z, true => 'Z'
  | .x, false => 'y'
  | .y, false => 'x'
  | .z, false => 'z'

end Axis

/-- What a move turns. Digits and depths count layers. -/
inductive Target where
  /-- A face alone, as in `R`. -/
  | single (face : Face)
  /-- The middle layer of an axis, as in `M`. -/
  | middle (axis : Axis)
  /-- The whole cube, as in `x` or `X`. -/
  | whole (axis : Axis) (capital : Bool)
  /-- A face and the layer behind it, as in `r`. -/
  | wideLetter (face : Face)
  /-- A face and the layer behind it, as in `Rw`. -/
  | wide (face : Face)
  /-- A face and some layers behind it, as in `2Rw`. -/
  | deepWide (digit : Nat) (face : Face)
  /-- A face and some layers behind it, as in `R_3`. -/
  | subscript (face : Face) (depth : Nat)
  /-- Some layers behind a face, as in `2R`. -/
  | innerSlice (digit : Nat) (face : Face)
  /-- Some layers from some layer behind a face on, as in `2R_3`. -/
  | innerBlock (digit : Nat) (face : Face) (depth : Nat)
deriving DecidableEq, Repr

namespace Target

def letter : Target → Char
  | .single face => face.letter
  | .middle axis => axis.middleLetter
  | .whole axis capital => axis.wholeLetter capital
  | .wideLetter face => face.smallLetter
  | .wide face => face.letter
  | .deepWide _ face => face.letter
  | .subscript face _ => face.letter
  | .innerSlice _ face => face.letter
  | .innerBlock _ face _ => face.letter

/-- The target that a letter alone stands for. -/
def ofLetter? (c : Char) : Option Target :=
  -- No letter has two meanings, so the order of the cases is of no account.
  match Face.ofLetter? c, Face.ofSmallLetter? c, Axis.ofMiddleLetter? c with
  | some face, _, _ => some (.single face)
  | _, some face, _ => some (.wideLetter face)
  | _, _, some axis => some (.middle axis)
  | none, none, none =>
    (Axis.all.find? fun axis => axis.wholeLetter true = c || axis.wholeLetter false = c).map
      fun axis => .whole axis (axis.wholeLetter true = c)

/-- The target with the mark `w` after it. -/
def widen? : Target → Option Target
  | .single face => some (.wide face)
  | .innerSlice digit face => some (.deepWide digit face)
  | _ => none

/-- The target with a subscript after it. -/
def deepen? (depth : Nat) : Target → Option Target
  | .single face => some (.subscript face depth)
  | .innerSlice digit face => some (.innerBlock digit face depth)
  | _ => none

/-- May a mark or a subscript follow? -/
def isOpen : Target → Bool
  | .single _ | .innerSlice _ _ => true
  | _ => false

end Target

inductive Modifier where
  | none
  | prime
  | double
deriving DecidableEq, Repr

namespace Modifier

def turns : Modifier → QuarterTurns
  | .none => .clockwise
  | .prime => .counterClockwise
  | .double => .halfway

/-- The character that writes a modifier. -/
def mark? : Modifier → Option Char
  | .none => Option.none
  | .prime => some (Char.ofNat 39)
  | .double => some '2'

def ofMark? (c : Char) : Option Modifier :=
  [prime, double].find? fun modifier => modifier.mark? = some c

end Modifier

/-- A move, or a group of items that is repeated, with the place in the text where it begins. -/
inductive Item where
  | move (target : Target) (modifier : Modifier) (position : Nat)
  | group (items : List Item) (times : Nat) (position : Nat)

end Cubing
