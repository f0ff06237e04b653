import Cubing.Axis

/-!
# Turning as seen from a face

Someone who looks at a face sees two axes turn: one moves cells to the left or
to the right, the other up or down. A sight says which axis that is, in which
sense it turns, and whether its layers count from the other side than the cells
of the face do.
-/
namespace Cubing

/-- How an axis is seen to turn. -/
structure Sight where
  axis : Axis
  /-- A turn in the direction looked at is this many quarter turns of the axis. -/
  sign : Int
  /-- Do the layers of the axis count from the right or from the bottom of the face? -/
  backward : Bool
deriving DecidableEq, Repr

namespace Face

def leftward : Face → Sight
  | .left | .front | .right | .back => ⟨.x, 1, false⟩
  | .top => ⟨.z, -1, false⟩
  | .bottom => ⟨.z, 1, true⟩

def upward : Face → Sight
  | .left => ⟨.z, 1, false⟩
  | .front | .top | .bottom => ⟨.y, 1, false⟩
  | .right => ⟨.z, -1, true⟩
  | .back => ⟨.y, -1, true⟩

def sight (face : Face) : Direction → Sight
  | .left => face.leftward
  | .right => { face.leftward with sign := -face.leftward.sign }
  | .up => face.upward
  | .down => { face.upward with sign := -face.upward.sign }

/-- Is an axis seen to turn at all? -/
def sees (face : Face) (axis : Axis) : Bool :=
  face.leftward.axis = axis || face.upward.axis = axis

end Face

end Cubing
