import Cubing.Net.Turn

/-!
# Actions

Turns as values, independent of the size of a cube. A slice may count its first
layer from the far end of its axis, by a negative number, so that it can lie next
to a far face without knowing the size. Actions are applied to cubes of known
size, where only a slice can fail to fit, and to loose nets.
-/
namespace Cubing

inductive Action where
  | turnFace (face : Face) (turns : QuarterTurns)
  /-- Turns `count` layers of an axis; a negative `offset` counts from the far end. -/
  | turnSlice (axis : Axis) (offset count : Int) (turns : QuarterTurns)
  | turnWhole (axis : Axis) (turns : QuarterTurns)
  /-- Brings a face to the front; the number of turns is of no account. -/
  | focus (face : Face) (turns : QuarterTurns)
deriving DecidableEq, Repr

namespace Action

/-- The first layer of a slice on a cube of the given size. -/
def firstLayer (size offset : Int) : Int := if offset < 0 then size + offset else offset

def faceText (face : Face) : String := s!"<Face.{face.name}: {face.number}>"

def axisText (axis : Axis) : String := s!"<Axis.{axis.name}: {Text.quote axis.name}>"

def turnsText (turns : QuarterTurns) : String :=
  s!"<RotationAmount.{turns.name}: {turns.val}>"

/-- The text of an action lists its kind and all its fields. -/
def text : Action → String
  | .turnFace face turns => s!"RotateFace(face={faceText face}, turns={turnsText turns})"
  | .turnSlice axis offset count turns =>
    s!"RotateSlice(axis={axisText axis}, offset_index={offset}, " ++
      s!"offset_size={count}, turns={turnsText turns})"
  | .turnWhole axis turns =>
    s!"RotateCube(focus_face=None, axis={axisText axis}, turns={turnsText turns})"
  | .focus face turns =>
    s!"RotateCube(focus_face={faceText face}, axis=None, turns={turnsText turns})"

/-- An action as it is asked for, with loose arguments. What is left out has a default. -/
inductive Request where
  | turnFace (face : Value) (turns : Option Value)
  | turnSlice (axis : Value) (offset count : Option Int) (turns : Option Value)
  | turnWhole (focus axis : Option Value) (turns : Option Value)

/-- The number of turns asked for, or the default. -/
def turnsOf (turns : Option Value) (default : QuarterTurns) : Except Fault QuarterTurns :=
  match turns with
  | some turns => QuarterTurns.ofValue turns
  | none => .ok default

/-- Checks the arguments of an action, in order. -/
def ofRequest : Request → Except Fault Action
  | .turnFace face turns => do
    let face ← Face.ofValue face
    let turns ← turnsOf turns .clockwise
    .ok (.turnFace face turns)
  | .turnSlice axis offset count turns => do
    let axis ← Axis.ofValue axis
    let turns ← turnsOf turns .clockwise
    .ok (.turnSlice axis (offset.getD 1) (count.getD 1) turns)
  | .turnWhole (some face) none turns => do
    let face ← Face.ofValue face
    let turns ← turnsOf turns .still
    .ok (.focus face turns)
  | .turnWhole none (some axis) turns => do
    let axis ← Axis.ofValue axis
    let turns ← turnsOf turns .still
    .ok (.turnWhole axis turns)
  | .turnWhole _ _ _ => .error .oneOfFaceAndAxis

end Action

namespace Cube

variable {n : Nat}

def apply (cube : Cube n) : Action → Except Fault (Cube n)
  | .turnFace face turns => .ok (cube.turnFace face turns)
  | .turnSlice axis offset count turns =>
    cube.turnSlice axis (Action.firstLayer n offset) count turns
  | .turnWhole axis turns => .ok (cube.turnWhole axis turns)
  | .focus face _ => .ok (cube.refocus face)

/-- Applies actions in order, up to the first that fails. -/
def applyAll (cube : Cube n) : List Action → Except Fault (Cube n)
  | [] => .ok cube
  | action :: actions => do
    let cube ← cube.apply action
    cube.applyAll actions

end Cube

namespace Net

/-- Applies an action to a net. The first layer of a slice depends on the size of the net, which
is looked at before the net is read. -/
def apply (net : Net) (action : Action) : Except Fault Net := do
  -- A net that has no size fails for that reason before the number of its faces is looked at.
  match action with
  | .turnSlice .. => let _ ← net.size
  | _ => pure ()
  let ⟨_, cube⟩ ← net.read none
  let turned ← cube.apply action
  .ok turned.toNet

/-- Applies actions to a net in order, up to the first that fails. With no action the net comes
back as it is. -/
def applyAll (net : Net) : List Action → Except Fault Net
  | [] => .ok net
  | action :: actions => do
    let net ← net.apply action
    net.applyAll actions

end Net

end Cubing
