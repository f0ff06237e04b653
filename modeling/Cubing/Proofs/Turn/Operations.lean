import Cubing.Proofs.Turn.FromFace

/-!
# Operations on nets as motions

An operation on nets makes a motion if it succeeds on every net of a size that
can be read, and carries the cube along the motion (`Net.Makes`). Operations that
are done one after the other make the product of their motions, so laws about
operations are equations between motions. Turns that are named by what is seen
from a face count layers from the face at an edge of the view
(`Cube.turnSliceFrom_eq_ok_iff`).
-/
namespace Cubing

variable {n : Nat}

namespace Net

/-- Does an operation succeed on the nets of a size, and carry the cube along the motion? -/
def Makes (operation : Net → Except Fault Net) (motion : Equiv.Perm (Place n)) : Prop :=
  ∀ (net : Net) (cube : Cube n), net.read none = .ok ⟨n, cube⟩ →
    operation net = .ok (cube.moved motion).toNet

/-- Done one after the other, operations make one motion after the other. -/
theorem Makes.bind {first second : Net → Except Fault Net} {motion motion' : Equiv.Perm (Place n)}
    (makes : Makes first motion) (makes' : Makes second motion') :
    Makes (fun net => first net >>= second) (motion' * motion) := by
  intro net cube valid
  have middle : first net = .ok (cube.moved motion).toNet := makes net cube valid
  rw [← Cube.moved_moved]
  simp only [middle]
  exact makes' _ _ (read_moved valid motion)

/-- Operations that make the same motion succeed with the same result. -/
theorem Makes.agree {first second : Net → Except Fault Net} {motion motion' : Equiv.Perm (Place n)}
    (makes : Makes first motion) (makes' : Makes second motion') (same : motion = motion')
    {net : Net} {cube : Cube n} (valid : net.read none = .ok ⟨n, cube⟩) :
    ∃ result, first net = .ok result ∧ second net = .ok result := by
  subst same
  exact ⟨_, makes net cube valid, makes' net cube valid⟩

theorem makes_turnFace {value : Value} {face : Face} (named : Face.ofValue value = .ok face)
    (turns : Int) : Makes (turnFace · value turns) (face.turnFrom n 0 1 ^ turns) := by
  intro net cube valid
  rw [← face.turn_eq_turnFrom, Face.turn, ← zpow_mul]
  exact turnFace_eq valid named turns

theorem makes_turnSlice {value : Value} {axis : Axis} (named : Axis.ofValue value = .ok axis)
    {start count : Int} (fits : 1 ≤ start ∧ 1 ≤ count ∧ start + count ≤ (n : Int) - 1)
    (turns : Int) :
    Makes (turnSlice · value start count turns)
      (Place.sweep (n := n) axis start.toNat count.toNat ^ turns) := by
  intro net cube valid
  exact (turnSlice_eq_ok_iff valid named).mpr ⟨fits, rfl⟩

theorem makes_turnWhole {value : Value} {axis : Axis} (named : Axis.ofValue value = .ok axis)
    (turns : Int) : Makes (turnWhole · value turns) (Place.quarter (n := n) axis ^ turns) := by
  intro net cube valid
  rw [← Place.sweep_all]
  exact turnWhole_eq valid named turns

theorem makes_refocus {value : Value} {face : Face} (named : Face.ofValue value = .ok face) :
    Makes (refocus · value) (Place.focus (n := n) face) := by
  intro net cube valid
  rw [← Action.motion_focus face .still, ← Cube.refocus_eq_moved]
  simp only [refocus, bind_eq_ok]
  exact ⟨_, valid, face, named, rfl⟩

theorem makes_apply {action : Action} (fits : action.Fits n) :
    Makes (apply · action) (action.motion n) := by
  intro net cube valid
  obtain ⟨rfl, large, balanced, -⟩ := read_eq_ok_iff.mp valid
  simp only [apply_toNet large balanced, (Cube.apply_eq_ok_iff large).mpr ⟨fits, rfl⟩]
  rfl

theorem makes_behind {face : Face} {start depth : Int} (inner : 1 ≤ start)
    (nonempty : 1 ≤ depth) (fits : start + depth ≤ (n : Int) - 1) (turns : Int) :
    Makes (apply · (.behind face start depth turns))
      (face.turnFrom n start.toNat depth.toNat ^ turns) := by
  rw [← face.turnBehind_eq_turnFrom inner nonempty fits, ← face.motion_behind]
  exact makes_apply ((Action.fits_behind_iff inner nonempty turns).mpr fits)

end Net

namespace Direction

/-- The face at the edge of the front face from which the layers are counted that move in a
direction. -/
def edge : Direction → Face
  | .left | .right => .top
  | .up | .down => .left

/-- A turn in a direction is this many clockwise turns of the face at the edge. -/
def sense : Direction → Int
  | .left | .down => 1
  | .right | .up => -1

@[simp] theorem edge_opposite (direction : Direction) :
    direction.opposite.edge = direction.edge := by
  cases direction <;> simp [opposite, edge]

@[simp] theorem sense_opposite (direction : Direction) :
    direction.opposite.sense = -direction.sense := by
  cases direction <;> simp [opposite, sense]

end Direction

namespace Face

/-- The face at the edge of a face from which the layers are counted that move in a direction. -/
def edge (face : Face) (direction : Direction) : Face := (focus face).symm direction.edge

theorem focus_edge (face : Face) (direction : Direction) :
    face.focus (face.edge direction) = direction.edge :=
  Equiv.apply_symm_apply ..

/-- What moves in a direction is counted from the same edge as what moves the other way. -/
@[simp] theorem edge_opposite (face : Face) (direction : Direction) :
    face.edge direction.opposite = face.edge direction := by
  simp [edge]

/-- All that a face sees of a turn follows from the face at the edge. -/
theorem sight_eq (face : Face) (direction : Direction) :
    face.sight direction = ⟨(face.edge direction).axis,
      (face.edge direction).sign * direction.sense, (face.edge direction).isFar⟩ := by
  cases face <;> cases direction <;> decide

@[simp] theorem axis_sight_opposite (face : Face) (direction : Direction) :
    (face.sight direction.opposite).axis = (face.sight direction).axis := by
  simp [sight_eq]

/-- What is seen to turn are layers counted from the face at the edge. -/
theorem sweep_sight (face : Face) (direction : Direction) {start count : Int}
    (fits : 1 ≤ start ∧ 1 ≤ count ∧ start + count ≤ (n : Int) - 1) (turns : Int) :
    (Place.sweep (face.sight direction).axis
        (if (face.sight direction).backward then (n : Int) - start - count else start).toNat
        count.toNat ^ (QuarterTurns.ofInt ((face.sight direction).sign * turns)).toInt :
      Equiv.Perm (Place n)) =
      (face.edge direction).turnFrom n start.toNat count.toNat ^ (direction.sense * turns) := by
  have first : (if (face.edge direction).isFar then (n : Int) - start - count else start).toNat =
      if (face.edge direction).isFar then n - (start.toNat + count.toNat) else start.toNat := by
    split <;> omega
  simp only [face.sight_eq direction, first, turnFrom]
  rw [QuarterTurns.zpow_toInt_ofInt (Place.sweep_pow_four ..), Int.mul_assoc, zpow_mul]

end Face

namespace Cube

theorem sightOf_eq_ok_iff {face : Face} {direction : Direction} {axis : Axis} {sight : Sight} :
    sightOf face direction axis = .ok sight ↔
      axis = (face.sight direction).axis ∧ face.sight direction = sight := by
  simp only [sightOf]
  split
  next seen => simp [seen]
  next hidden =>
    split <;> simp [Ne.symm hidden]

theorem turnSliceFrom_eq_ok_iff {cube turned : Cube n} {face : Face} {axis : Axis}
    {start count : Int} {direction : Direction} {turns : Int} :
    cube.turnSliceFrom face axis start count direction turns = .ok turned ↔
      (axis = (face.sight direction).axis ∧ 1 ≤ start ∧ 1 ≤ count ∧
        start + count ≤ (n : Int) - 1) ∧
      turned = cube.moved ((face.edge direction).turnFrom n start.toNat count.toNat ^
        (direction.sense * turns)) := by
  simp only [turnSliceFrom, bind_eq_ok, sightOf_eq_ok_iff]
  constructor
  · rintro ⟨_, ⟨seen, rfl⟩, ⟨⟩, passed, succeeds⟩
    have fits := checkSlice_eq_ok_iff.mp passed
    obtain ⟨-, rfl⟩ := turnSlice_eq_ok_iff.mp succeeds
    exact ⟨⟨seen, fits⟩, by rw [face.sweep_sight direction fits]⟩
  · rintro ⟨⟨seen, fits⟩, rfl⟩
    refine ⟨_, ⟨seen, rfl⟩, (), checkSlice_eq_ok_iff.mpr fits, turnSlice_eq_ok_iff.mpr ⟨?_, ?_⟩⟩
    -- Counted from the other side, the layers are inner layers all the same.
    · split <;> omega
    · rw [face.sweep_sight direction fits]

theorem turnWholeFrom_eq_moved (cube : Cube n) (face : Face) (direction : Direction)
    (turns : Int) :
    cube.turnWholeFrom face direction turns =
      cube.moved ((face.edge direction).turnFrom n 0 n ^ (direction.sense * turns)) := by
  simp only [turnWholeFrom, turnWhole_eq_moved, face.sight_eq direction]
  rw [QuarterTurns.zpow_toInt_ofInt (Place.sweep_pow_four ..), Int.mul_assoc, zpow_mul]
  simp [Face.turnFrom]

end Cube

namespace Net

section Sighted

variable {faceValue directionValue : Value} {face : Face} {direction : Direction}
  (faceNamed : Face.ofValue faceValue = .ok face)
  (directionNamed : Direction.ofValue directionValue = .ok direction)
include faceNamed directionNamed

theorem turnSliceFrom_eq_ok_iff {net : Net} {cube : Cube n}
    (valid : net.read none = .ok ⟨n, cube⟩) {axisValue : Value} {axis : Axis}
    (axisNamed : Axis.ofValue axisValue = .ok axis) {start count turns : Int} {turned : Net} :
    net.turnSliceFrom faceValue axisValue start count directionValue turns = .ok turned ↔
      (axis = (face.sight direction).axis ∧ 1 ≤ start ∧ 1 ≤ count ∧
        start + count ≤ (n : Int) - 1) ∧
      turned = (cube.moved ((face.edge direction).turnFrom n start.toNat count.toNat ^
        (direction.sense * turns))).toNet := by
  simp only [turnSliceFrom, bind_eq_ok]
  constructor
  · rintro ⟨_, readable, _, reads, _, reads', _, reads'', _, succeeds, ⟨⟩⟩
    cases valid.symm.trans readable
    cases faceNamed.symm.trans reads
    cases directionNamed.symm.trans reads'
    cases axisNamed.symm.trans reads''
    obtain ⟨accepted, rfl⟩ := Cube.turnSliceFrom_eq_ok_iff.mp succeeds
    exact ⟨accepted, rfl⟩
  · rintro ⟨accepted, rfl⟩
    exact ⟨_, valid, face, faceNamed, direction, directionNamed, axis, axisNamed, _,
      Cube.turnSliceFrom_eq_ok_iff.mpr ⟨accepted, rfl⟩, rfl⟩

theorem makes_turnSliceFrom {axisValue : Value}
    (axisNamed : Axis.ofValue axisValue = .ok (face.sight direction).axis) {start count : Int}
    (fits : 1 ≤ start ∧ 1 ≤ count ∧ start + count ≤ (n : Int) - 1) (turns : Int) :
    Makes (turnSliceFrom · faceValue axisValue start count directionValue turns)
      ((face.edge direction).turnFrom n start.toNat count.toNat ^ (direction.sense * turns)) := by
  intro net cube valid
  exact (turnSliceFrom_eq_ok_iff faceNamed directionNamed valid axisNamed).mpr
    ⟨⟨rfl, fits⟩, rfl⟩

theorem makes_turnWholeFrom (turns : Int) :
    Makes (turnWholeFrom · faceValue directionValue turns)
      ((face.edge direction).turnFrom n 0 n ^ (direction.sense * turns)) := by
  intro net cube valid
  rw [← Cube.turnWholeFrom_eq_moved]
  simp only [turnWholeFrom, bind_eq_ok]
  exact ⟨_, valid, face, faceNamed, direction, directionNamed, rfl⟩

end Sighted

end Net

end Cubing
