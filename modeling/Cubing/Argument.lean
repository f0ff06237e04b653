import Cubing.Fault
import Cubing.QuarterTurns
import Cubing.Text.Letters

/-!
# Reading arguments

Faces, axes, directions and numbers of turns, read from loose values. A face is
named by its number, by any value equal to it, or by its name in any case; axes
and directions are named exactly.
-/
namespace Cubing

namespace Face

def ofName? (text : String) : Option Face := all.find? fun face => Text.isName face.name text

def ofValue? : Value → Option Face
  | .text name => ofName? name
  | value => value.equalInt?.bind ofNumber?

def ofValue (value : Value) : Except Fault Face :=
  match ofValue? value with
  | some face => .ok face
  | none => .error (.reported (.unknownFace value))

end Face

namespace Axis

def ofValue? : Value → Option Axis
  | .text name => ofName? name
  | _ => none

def ofValue (value : Value) : Except Fault Axis :=
  match ofValue? value with
  | some axis => .ok axis
  | none => .error (.reported (.unknownAxis value))

end Axis

namespace Direction

def ofValue? : Value → Option Direction
  | .text name => ofName? name
  | _ => none

def ofValue (value : Value) : Except Fault Direction :=
  match ofValue? value with
  | some direction => .ok direction
  | none => .error (.reported (.unknownDirection value))

end Direction

def readInt (text : String) : Except Fault Int :=
  match Text.readInteger text with
  | .ok value => .ok value
  | .error .malformed => .error (.notInteger text)
  | .error (.tooLong digits) => .error (.integerTooLong digits)

namespace QuarterTurns

/-- Turns may be given as an integer, a truth value, a number whose fraction is dropped, or the
text of an integer. -/
def ofValue : Value → Except Fault QuarterTurns
  | .int turns => .ok (ofInt turns)
  | .bool value => .ok (if value then clockwise else still)
  | .real number =>
    match number, number.truncate? with
    | _, some turns => .ok (ofInt turns)
    | .nan, none => .error .integerOfNaN
    | _, none => .error .integerOfInfinity
  | .text text => ofInt <$> readInt text
  | value => .error (.notInteger value.quoted)

end QuarterTurns

end Cubing
