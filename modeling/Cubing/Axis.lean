import Cubing.Face

/-!
# Axes and directions

The cube turns about three axes. The layers of an axis are counted from 0, and
each axis has a face lying in its first layer and one lying in its last layer.
Turning a face clockwise turns its layer about the axis, in the sense of the
axis or against it, which is what `Face.sign` records.
-/
namespace Cubing

/-- X runs from Top to Bottom, Y from Left to Right and Z from Back to Front. -/
inductive Axis where
  | x
  | y
  | z
deriving DecidableEq, Repr

namespace Axis

def all : List Axis := [.x, .y, .z]

def name : Axis → String
  | .x => "X"
  | .y => "Y"
  | .z => "Z"

/-- Names of axes are upper case letters only. -/
def ofName? (text : String) : Option Axis :=
  all.find? fun axis => axis.name = text

/-- The two faces in the first and the last layer of an axis. They keep their place when the
axis turns. -/
def ends : Axis → Face × Face
  | .x => (.top, .bottom)
  | .y => (.left, .right)
  | .z => (.back, .front)

end Axis

namespace Face

def axis : Face → Axis
  | .left | .right => .y
  | .front | .back => .z
  | .top | .bottom => .x

/-- Does the face lie in the last layer of its axis? -/
def isFar : Face → Bool
  | .right | .front | .bottom => true
  | .left | .back | .top => false

/-- A clockwise turn of the face is this many quarter turns of its axis. -/
def sign : Face → Int
  | .right | .front | .top => 1
  | .left | .back | .bottom => -1

end Face

/-- The way cells move on the screen when a turn is named from the point of view of a face. -/
inductive Direction where
  | up
  | down
  | left
  | right
deriving DecidableEq, Repr

namespace Direction

def all : List Direction := [.up, .down, .left, .right]

def name : Direction → String
  | .up => "Up"
  | .down => "Down"
  | .left => "Left"
  | .right => "Right"

def ofName? (text : String) : Option Direction :=
  all.find? fun direction => direction.name = text

def opposite : Direction → Direction
  | .up => .down
  | .down => .up
  | .left => .right
  | .right => .left

end Direction

end Cubing
