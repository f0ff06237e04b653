import Mathlib.Algebra.Group.Basic
import Mathlib.Algebra.Group.End
import Cubing.Cube.Block
import Cubing.Cube.Turn

/-!
# Quarter turns as motions

A quarter turn about an axis moves the sides of the cube, the positions of its
blocks and its cells. Each of these motions comes back after four steps, so it
is a permutation, and amounts of turning are its powers. A motion about an axis
keeps every position and every cell in its layer of that axis, so the motion
can be restricted to some of the layers (`Place.sweep`). The three motions
belong together: a block that has been turned shows, on the turned side, the
turned cell (`Position.place?_quarter_zpow`).
-/
namespace Cubing

namespace QuarterTurns

variable {α : Type}

/-- The permutation that takes one step of a motion which comes back after four. -/
def motion (step : α → α) (back : ∀ a, step (step (step (step a))) = a) : Equiv.Perm α where
  toFun := step
  invFun a := step (step (step a))
  left_inv := back
  right_inv := back

@[simp] theorem motion_apply (step : α → α) (back : ∀ a, step (step (step (step a))) = a) (a : α) :
    motion step back a = step a := rfl

@[simp] theorem motion_symm_apply (step : α → α) (back : ∀ a, step (step (step (step a))) = a)
    (a : α) : (motion step back).symm a = step (step (step a)) := rfl

theorem motion_pow_four (step : α → α) (back : ∀ a, step (step (step (step a))) = a) :
    motion step back ^ 4 = 1 := Equiv.ext back

/-- Powers of a motion with four steps count quarter turns modulo four. -/
theorem zpow_eq_pow_ofInt {motion : Equiv.Perm α} (four : motion ^ 4 = 1) (turns : Int) :
    motion ^ turns = motion ^ (ofInt turns).val := by
  rw [zpow_eq_zpow_emod' turns four, ← zpow_natCast, val_ofInt]
  rfl

theorem zpow_toInt_ofInt {motion : Equiv.Perm α} (four : motion ^ 4 = 1) (turns : Int) :
    motion ^ toInt (ofInt turns) = motion ^ turns := by
  rw [zpow_eq_pow_ofInt four turns, toInt, zpow_natCast]

theorem zpow_mul_toInt_ofInt {motion : Equiv.Perm α} (four : motion ^ 4 = 1)
    (sign turns : Int) : motion ^ (sign * toInt (ofInt turns)) = motion ^ (sign * turns) := by
  rw [Int.mul_comm, zpow_mul, zpow_toInt_ofInt four, ← zpow_mul, Int.mul_comm]

theorem zpow_toInt_signed {motion : Equiv.Perm α} (four : motion ^ 4 = 1) (sign : Int)
    (turns : QuarterTurns) : motion ^ toInt (turns.signed sign) = motion ^ (sign * toInt turns) :=
  zpow_toInt_ofInt four _

theorem zpow_pow_four {motion : Equiv.Perm α} (four : motion ^ 4 = 1) (count : Int) :
    (motion ^ count) ^ 4 = 1 := by
  rw [← zpow_natCast, ← zpow_mul, Int.mul_comm, zpow_mul, zpow_natCast, four, one_zpow]

theorem moves_motion_pow {moves : α → Prop} {step : α → α}
    {back : ∀ a, step (step (step (step a))) = a} (keeps : ∀ a, moves (step a) ↔ moves a)
    (count : Nat) (a : α) : moves ((motion step back ^ count) a) ↔ moves a := by
  induction count with
  | zero => rfl
  | succ count ih =>
    rw [pow_succ', Equiv.Perm.mul_apply, motion_apply, keeps, ih]

/-- A motion of some things only, none of which it takes away from the others. -/
def motionOn (moves : α → Prop) [DecidablePred moves] (step : α → α)
    (back : ∀ a, step (step (step (step a))) = a) (keeps : ∀ a, moves (step a) ↔ moves a) :
    Equiv.Perm α :=
  motion (fun a => if moves a then step a else a) (by
    intro a
    -- What is moved once is moved four times, and what is not stays where it is.
    by_cases member : moves a <;> simp [member, keeps, back])

section Restricted

variable {moves : α → Prop} [DecidablePred moves] {step : α → α}
  {back : ∀ a, step (step (step (step a))) = a} {keeps : ∀ a, moves (step a) ↔ moves a}

theorem motionOn_pow_four : motionOn moves step back keeps ^ 4 = 1 := motion_pow_four ..

theorem motionOn_pow_apply (count : Nat) (a : α) :
    (motionOn moves step back keeps ^ count) a =
      if moves a then (motion step back ^ count) a else a := by
  induction count with
  | zero => simp
  | succ count ih =>
    rw [pow_succ', Equiv.Perm.mul_apply, ih]
    by_cases member : moves a
    · have still : moves ((motion step back ^ count) a) :=
        (moves_motion_pow keeps count a).mpr member
      simp only [motionOn, motion_apply, if_pos member, if_pos still, pow_succ',
        Equiv.Perm.mul_apply]
    · simp only [motionOn, motion_apply, if_neg member]

theorem motionOn_zpow_apply (turns : Int) (a : α) :
    (motionOn moves step back keeps ^ turns) a =
      if moves a then (motion step back ^ turns) a else a := by
  rw [zpow_eq_pow_ofInt motionOn_pow_four, zpow_eq_pow_ofInt (motion_pow_four step back),
    motionOn_pow_apply]

/-- Restrictions of one motion can be made in either order. -/
theorem motionOn_commute {others : α → Prop} [DecidablePred others]
    {keepsOthers : ∀ a, others (step a) ↔ others a} :
    Commute (motionOn moves step back keeps) (motionOn others step back keepsOthers) := by
  apply Equiv.ext
  intro a
  simp only [Equiv.Perm.mul_apply, motionOn, motion_apply]
  -- Neither of them takes anything away from what the other one moves.
  by_cases first : moves a <;> by_cases second : others a <;>
    simp [first, second, keeps, keepsOthers]

end Restricted

end QuarterTurns

namespace Face

/-- The side to which a quarter turn of an axis carries a side. -/
def carried (axis : Axis) (side : Face) : Face :=
  match axis, side with
  | .x, .right => .front
  | .x, .front => .left
  | .x, .left => .back
  | .x, .back => .right
  | .y, .front => .top
  | .y, .top => .back
  | .y, .back => .bottom
  | .y, .bottom => .front
  | .z, .top => .right
  | .z, .right => .bottom
  | .z, .bottom => .left
  | .z, .left => .top
  | _, side => side

/-- A quarter turn of an axis, as a motion of the sides. -/
def quarter (axis : Axis) : Equiv.Perm Face :=
  QuarterTurns.motion (carried axis) (by intro side; cases axis <;> cases side <;> rfl)

theorem quarter_pow_four (axis : Axis) : quarter axis ^ 4 = 1 := QuarterTurns.motion_pow_four ..

end Face

namespace Position

variable {n : Nat}

/-- The layer of an axis that a block lies in. -/
def layer (axis : Axis) (position : Position n) : Fin n :=
  match axis with
  | .x => position.row
  | .y => position.col
  | .z => position.depth.rev

/-- The position to which a quarter turn of an axis carries a block. -/
def carried (axis : Axis) (position : Position n) : Position n :=
  let ⟨depth, row, col⟩ := position
  match axis with
  | .x => ⟨col.rev, row, depth⟩
  | .y => ⟨row.rev, depth, col⟩
  | .z => ⟨depth, col, row.rev⟩

/-- A quarter turn of an axis, as a motion of the blocks. -/
def quarter (axis : Axis) : Equiv.Perm (Position n) :=
  QuarterTurns.motion (carried axis) (by intro position; cases axis <;> simp [carried])

theorem quarter_pow_four (axis : Axis) : (quarter axis : Equiv.Perm (Position n)) ^ 4 = 1 :=
  QuarterTurns.motion_pow_four ..

end Position

namespace Place

variable {n : Nat}

/-- The layer of an axis that a cell lies in. A face at an end of the axis lies in an outer
layer as a whole. -/
def layer (axis : Axis) (place : Place n) : Fin n :=
  let ⟨face, row, col⟩ := place
  let first : Fin n := ⟨0, Nat.zero_lt_of_lt row.isLt⟩
  match axis, face with
  | .x, .top | .y, .left | .z, .back => first
  | .x, .bottom | .y, .right | .z, .front => first.rev
  | .x, _ | .z, .top => row
  | .z, .bottom => row.rev
  | .y, .back | .z, .right => col.rev
  | .y, _ | .z, .left => col

/-- The cell of the same face to which a clockwise turn of the face carries a cell. -/
def spun (place : Place n) : Place n := ⟨place.face, place.col, place.row.rev⟩

/-- The cell to which a quarter turn of an axis carries a cell. -/
def carried (axis : Axis) (place : Place n) : Place n :=
  let ⟨face, row, col⟩ := place
  let side := face.carried axis
  match axis, face with
  -- The face at the last layer of an axis turns clockwise, the one at the first turns back;
  -- only the top lies the other way round.
  | .x, .top | .y, .right | .z, .front => ⟨side, col, row.rev⟩
  | .x, .bottom | .y, .left | .z, .back => ⟨side, col.rev, row⟩
  | .x, _ => ⟨side, row, col⟩
  | .y, .top | .y, .back => ⟨side, row.rev, col.rev⟩
  | .y, _ => ⟨side, row, col⟩
  | .z, _ => ⟨side, col, row.rev⟩

theorem carried_four (axis : Axis) (place : Place n) :
    carried axis (carried axis (carried axis (carried axis place))) = place := by
  obtain ⟨face, row, col⟩ := place
  cases axis <;> cases face <;> simp [carried, Face.carried]

/-- A quarter turn of an axis, as a motion of the cells. -/
def quarter (axis : Axis) : Equiv.Perm (Place n) :=
  QuarterTurns.motion (carried axis) (carried_four axis)

theorem quarter_pow_four (axis : Axis) : (quarter axis : Equiv.Perm (Place n)) ^ 4 = 1 :=
  QuarterTurns.motion_pow_four ..

/-- A face lies at an end of an axis before a turn of the axis just if it does so afterwards. -/
theorem axis_carried (axis : Axis) (place : Place n) :
    (carried axis place).face.axis ≠ axis ↔ place.face.axis ≠ axis := by
  obtain ⟨face, row, col⟩ := place
  cases axis <;> cases face <;> simp [carried, Face.carried, Face.axis]

@[simp] theorem layer_carried (axis : Axis) (place : Place n) :
    (carried axis place).layer axis = place.layer axis := by
  obtain ⟨face, row, col⟩ := place
  cases axis <;> cases face <;> simp [carried, Face.carried, layer]

end Place

/-- Is a layer among the `count` layers from `start` on? -/
def InLayers (start count : Nat) {n : Nat} (layer : Fin n) : Prop :=
  start ≤ layer.val ∧ layer.val < start + count

instance (start count : Nat) {n : Nat} (layer : Fin n) : Decidable (InLayers start count layer) :=
  inferInstanceAs (Decidable (_ ∧ _))

theorem inLayers_all {n : Nat} (layer : Fin n) : InLayers 0 n layer := by
  simp [InLayers]

namespace Place

variable {n : Nat}

/-- A clockwise turn of every face upon itself, as a motion of the cells. -/
def clockwise : Equiv.Perm (Place n) :=
  QuarterTurns.motion spun (by intro place; simp [spun])

theorem clockwise_pow_four : (clockwise : Equiv.Perm (Place n)) ^ 4 = 1 :=
  QuarterTurns.motion_pow_four ..

/-- A clockwise turn of the cells of one face. -/
def spinning (face : Face) : Equiv.Perm (Place n) :=
  QuarterTurns.motionOn (fun place => place.face = face) spun (by intro place; simp [spun])
    (fun _ => Iff.rfl)

theorem spinning_pow_four (face : Face) : (spinning face : Equiv.Perm (Place n)) ^ 4 = 1 :=
  QuarterTurns.motionOn_pow_four

theorem spinning_zpow_on {face : Face} {place : Place n} (on : place.face = face) (turns : Int) :
    (spinning face ^ turns) place = (clockwise ^ turns) place :=
  (QuarterTurns.motionOn_zpow_apply turns place).trans (if_pos on)

theorem spinning_zpow_off {face : Face} {place : Place n} (off : place.face ≠ face)
    (turns : Int) : (spinning face ^ turns) place = place :=
  (QuarterTurns.motionOn_zpow_apply turns place).trans (if_neg off)

/-- A quarter turn of some layers of an axis, as a motion of the cells. -/
def sweep (axis : Axis) (start count : Nat) : Equiv.Perm (Place n) :=
  QuarterTurns.motionOn (fun place => InLayers start count (place.layer axis)) (carried axis)
    (carried_four axis) (fun place => by rw [layer_carried])

theorem sweep_pow_four (axis : Axis) (start count : Nat) :
    (sweep axis start count : Equiv.Perm (Place n)) ^ 4 = 1 :=
  QuarterTurns.motionOn_pow_four

theorem sweep_commute (axis : Axis) (start count start' count' : Nat) :
    Commute (sweep axis start count : Equiv.Perm (Place n)) (sweep axis start' count') :=
  QuarterTurns.motionOn_commute

theorem sweep_zpow_apply (axis : Axis) (start count : Nat) (turns : Int) (place : Place n) :
    (sweep axis start count ^ turns) place =
      if InLayers start count (place.layer axis) then (quarter axis ^ turns) place else place :=
  QuarterTurns.motionOn_zpow_apply turns place

theorem sweep_apply (axis : Axis) (start count : Nat) (place : Place n) :
    sweep axis start count place =
      if InLayers start count (place.layer axis) then carried axis place else place :=
  sweep_zpow_apply axis start count 1 place

/-- A quarter turn of the cells of some layers that lie around the axis. -/
def strips (axis : Axis) (start count : Nat) : Equiv.Perm (Place n) :=
  QuarterTurns.motionOn
    (fun place => place.face.axis ≠ axis ∧ InLayers start count (place.layer axis)) (carried axis)
    (carried_four axis) (fun place => by rw [layer_carried, axis_carried])

theorem strips_pow_four (axis : Axis) (start count : Nat) :
    (strips axis start count : Equiv.Perm (Place n)) ^ 4 = 1 :=
  QuarterTurns.motionOn_pow_four

theorem strips_zpow_apply (axis : Axis) (start count : Nat) (turns : Int) (place : Place n) :
    (strips axis start count ^ turns) place =
      if place.face.axis ≠ axis ∧ InLayers start count (place.layer axis) then
        (quarter axis ^ turns) place
      else place :=
  QuarterTurns.motionOn_zpow_apply turns place

end Place

end Cubing
