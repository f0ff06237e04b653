import Cubing.Argument
import Cubing.Cube.Turn
import Cubing.Net.Basic
import Cubing.Sight

/-!
# Turning nets

The turns of a cube with every argument checked, first for cubes of known size
and then for loose nets. A net is read before its arguments are looked at, and
the arguments are looked at in order, so the first fault is the one reported.
-/
namespace Cubing

namespace Cube

variable {n : Nat}

/-- Layers of an axis that a slice may turn: at least one, none of them an outer layer. -/
def checkSlice (n : Nat) (start count : Int) : Except Fault Unit :=
  if start < 1 ∨ start > (n : Int) - 2 then .error (.sliceStart n)
  else if count < 1 ∨ start + count > (n : Int) - 1 then .error (.sliceCount n start)
  else .ok ()

/-- Turns inner layers of an axis. -/
def turnSlice (cube : Cube n) (axis : Axis) (start count : Int) (turns : QuarterTurns) :
    Except Fault (Cube n) := do
  checkSlice n start count
  .ok (cube.turnLayers axis start.toNat count.toNat turns)

/-- The way a face sees the layers of an axis move in a direction. -/
def sightOf (face : Face) (direction : Direction) (axis : Axis) : Except Fault Sight :=
  let sight := face.sight direction
  if sight.axis = axis then .ok sight
  else if face.sees axis then .error (.directionCrosses direction axis face)
  else .error (.axisHidden axis face)

/-- Turns inner layers the way they are seen to move from a face. The first layer is counted from
the left or the top of the face. -/
def turnSliceFrom (cube : Cube n) (face : Face) (axis : Axis) (start count : Int)
    (direction : Direction) (turns : Int) : Except Fault (Cube n) := do
  let sight ← sightOf face direction axis
  checkSlice n start count
  -- Counted from the other side, the last of the layers comes first.
  let start := if sight.backward then (n : Int) - start - count else start
  cube.turnSlice sight.axis start count (.ofInt (sight.sign * turns))

/-- Turns the whole cube the way it is seen to move from a face. -/
def turnWholeFrom (cube : Cube n) (face : Face) (direction : Direction) (turns : Int) : Cube n :=
  let sight := face.sight direction
  cube.turnWhole sight.axis (.ofInt (sight.sign * turns))

end Cube

namespace Net

def turnFace (net : Net) (face : Value) (turns : Int) : Except Fault Net := do
  let ⟨_, cube⟩ ← net.read none
  let face ← Face.ofValue face
  .ok (cube.turnFace face (.ofInt turns)).toNet

def turnSlice (net : Net) (axis : Value) (start count turns : Int) : Except Fault Net := do
  let ⟨_, cube⟩ ← net.read none
  let axis ← Axis.ofValue axis
  let turned ← cube.turnSlice axis start count (.ofInt turns)
  .ok turned.toNet

def turnSliceFrom (net : Net) (face axis : Value) (start count : Int) (direction : Value)
    (turns : Int) : Except Fault Net := do
  let ⟨_, cube⟩ ← net.read none
  let face ← Face.ofValue face
  let direction ← Direction.ofValue direction
  let axis ← Axis.ofValue axis
  let turned ← cube.turnSliceFrom face axis start count direction turns
  .ok turned.toNet

def turnWhole (net : Net) (axis : Value) (turns : Int) : Except Fault Net := do
  let ⟨_, cube⟩ ← net.read none
  let axis ← Axis.ofValue axis
  .ok (cube.turnWhole axis (.ofInt turns)).toNet

def turnWholeFrom (net : Net) (face direction : Value) (turns : Int) : Except Fault Net := do
  let ⟨_, cube⟩ ← net.read none
  let face ← Face.ofValue face
  let direction ← Direction.ofValue direction
  .ok (cube.turnWholeFrom face direction turns).toNet

def refocus (net : Net) (face : Value) : Except Fault Net := do
  let ⟨_, cube⟩ ← net.read none
  let face ← Face.ofValue face
  .ok (cube.refocus face).toNet

end Net

end Cubing
