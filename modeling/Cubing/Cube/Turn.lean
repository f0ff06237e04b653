import Cubing.Cube.Loop

/-!
# Turns

The three ways to turn a cube: one face with the strips that border it, inner
layers of an axis, or the whole cube. Bringing a face to the front is a turn of
the whole cube that depends on the face.
-/
namespace Cubing

namespace Face

/-- The first layer that a face drags along. -/
def layer (face : Face) (n : Nat) : Nat := if face.isFar then n - 1 else 0

/-- The turn of the whole cube that brings a face to the front; the front face stays. -/
def focusTurn : Face → Option (Axis × Int)
  | .left => some (.x, -1)
  | .front => none
  | .right => some (.x, 1)
  | .back => some (.x, 2)
  | .top => some (.y, -1)
  | .bottom => some (.y, 1)

end Face

namespace Cube

variable {n : Nat}

/-- Turns a face clockwise, as seen from outside. -/
def turnFace (cube : Cube n) (face : Face) (turns : QuarterTurns) : Cube n :=
  (cube.spin face turns).carry face.axis (face.layer n) 1 (turns.signed face.sign)

/-- Turns layers of an axis, leaving the faces at its ends alone. -/
def turnLayers (cube : Cube n) (axis : Axis) (start count : Nat) (turns : QuarterTurns) : Cube n :=
  cube.carry axis start count turns

/-- Turns the whole cube about an axis: all its layers, and the faces at its ends. -/
def turnWhole (cube : Cube n) (axis : Axis) (turns : QuarterTurns) : Cube n :=
  let (near, far) := axis.ends
  ((cube.carry axis 0 n turns).spin near (turns.signed near.sign)).spin far
    (turns.signed far.sign)

def refocus (cube : Cube n) (face : Face) : Cube n :=
  match face.focusTurn with
  | none => cube
  | some (axis, turns) => cube.turnWhole axis (.ofInt turns)

end Cube

end Cubing
