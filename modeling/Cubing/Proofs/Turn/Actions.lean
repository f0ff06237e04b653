import Cubing.Action
import Cubing.Proofs.Net.Reading
import Cubing.Proofs.Turn.Layers

/-!
# Actions as motions

Whether an action fits depends on the size of a cube alone (`Action.Fits`), and
so does the motion that it makes (`Action.motion`). Applying an action succeeds
exactly if it fits, and then carries the cube along its motion; a list of actions
makes the motions one after the other. The same is said for nets that can be
read.
-/
namespace Cubing

variable {n : Nat}

namespace Cube

theorem checkSlice_eq_ok_iff {start count : Int} :
    checkSlice n start count = .ok () ↔ 1 ≤ start ∧ 1 ≤ count ∧ start + count ≤ (n : Int) - 1 := by
  simp only [checkSlice]
  split
  · simp only [reduceCtorEq, false_iff]
    omega
  · split
    · simp only [reduceCtorEq, false_iff]
      omega
    · simp only [true_iff]
      omega

theorem turnSlice_eq_ok_iff {cube turned : Cube n} {axis : Axis} {start count : Int}
    {turns : QuarterTurns} :
    cube.turnSlice axis start count turns = .ok turned ↔
      (1 ≤ start ∧ 1 ≤ count ∧ start + count ≤ (n : Int) - 1) ∧
        turned = cube.moved (Place.sweep axis start.toNat count.toNat ^ turns.toInt) := by
  simp only [turnSlice, bind_eq_ok, Except.ok.injEq]
  constructor
  · rintro ⟨_, passed, rfl⟩
    have fits := checkSlice_eq_ok_iff.mp passed
    exact ⟨fits, turnLayers_eq_moved cube axis (by omega) (by omega) turns⟩
  · rintro ⟨fits, rfl⟩
    exact ⟨(), checkSlice_eq_ok_iff.mpr fits,
      turnLayers_eq_moved cube axis (by omega) (by omega) turns⟩

end Cube

namespace Action

/-- Does an action fit a cube of the given size? -/
def Fits (n : Nat) : Action → Prop
  | .turnSlice _ offset count _ =>
    1 ≤ firstLayer n offset ∧ 1 ≤ count ∧ firstLayer n offset + count ≤ (n : Int) - 1
  | _ => True

/-- The motion of the cells that an action makes. -/
def motion (n : Nat) : Action → Equiv.Perm (Place n)
  | .turnFace face turns => Place.sweep face.axis (face.layer n) 1 ^ (face.sign * turns.toInt)
  | .turnSlice axis offset count turns =>
    Place.sweep axis (firstLayer n offset).toNat count.toNat ^ turns.toInt
  | .turnWhole axis turns => Place.sweep axis 0 n ^ turns.toInt
  | .focus face _ =>
    match face.focusTurn with
    | some (axis, turns) => Place.sweep axis 0 n ^ turns
    | none => 1

/-- The motions of actions, the first one first. -/
def motionAll (n : Nat) : List Action → Equiv.Perm (Place n)
  | [] => 1
  | action :: actions => motionAll n actions * action.motion n

theorem motionAll_append (first second : List Action) :
    motionAll n (first ++ second) = motionAll n second * motionAll n first := by
  induction first with
  | nil => rw [List.nil_append, motionAll, mul_one]
  | cons action first ih => rw [List.cons_append, motionAll, ih, motionAll, mul_assoc]

end Action

namespace Cube

theorem refocus_eq_moved (cube : Cube n) (face : Face) (turns : QuarterTurns) :
    cube.refocus face = cube.moved ((Action.focus face turns).motion n) := by
  cases focused : face.focusTurn with
  | none => simp only [refocus, Action.motion, focused, moved_one]
  | some turn =>
    simp only [refocus, Action.motion, focused, turnWhole_eq_moved,
      QuarterTurns.zpow_toInt_ofInt (Place.sweep_pow_four ..)]

/-- An action succeeds if it fits, and then carries the cube along its motion. -/
theorem apply_eq_ok_iff (large : 2 ≤ n) {cube turned : Cube n} {action : Action} :
    cube.apply action = .ok turned ↔ action.Fits n ∧ turned = cube.moved (action.motion n) := by
  cases action with
  | turnFace face turns =>
    simp only [apply, Except.ok.injEq, Action.Fits, Action.motion, true_and,
      turnFace_eq_moved large, eq_comm]
  | turnSlice axis offset count turns =>
    simp only [apply, turnSlice_eq_ok_iff, Action.Fits, Action.motion]
  | turnWhole axis turns =>
    simp only [apply, Except.ok.injEq, Action.Fits, Action.motion, true_and, turnWhole_eq_moved,
      eq_comm]
  | focus face turns =>
    simp only [apply, Except.ok.injEq, Action.Fits, true_and, refocus_eq_moved cube face turns,
      eq_comm]

/-- Actions succeed together if each of them fits. -/
theorem applyAll_eq_ok_iff (large : 2 ≤ n) {cube turned : Cube n} {actions : List Action} :
    cube.applyAll actions = .ok turned ↔
      (∀ action ∈ actions, action.Fits n) ∧ turned = cube.moved (Action.motionAll n actions) := by
  induction actions generalizing cube with
  | nil => simp [applyAll, Action.motionAll, eq_comm]
  | cons action actions ih =>
    -- Whether the later actions fit does not depend on the cube that they come to.
    simp only [applyAll, bind_eq_ok, apply_eq_ok_iff large, ih, List.forall_mem_cons,
      Action.motionAll]
    constructor
    · rintro ⟨_, ⟨fits, rfl⟩, later, rfl⟩
      exact ⟨⟨fits, later⟩, moved_moved ..⟩
    · rintro ⟨⟨fits, later⟩, rfl⟩
      exact ⟨_, ⟨fits, rfl⟩, later, (moved_moved ..).symm⟩

theorem Balanced.applyAll (large : 2 ≤ n) {cube turned : Cube n} (balanced : cube.Balanced)
    {actions : List Action} (applied : cube.applyAll actions = .ok turned) : turned.Balanced := by
  rw [((applyAll_eq_ok_iff large).mp applied).2]
  exact balanced.moved _

end Cube

namespace Net

section Valid

variable {net : Net} {cube : Cube n} (valid : net.read none = .ok ⟨n, cube⟩)
include valid

/-- A net that can be read is that of a cube, and so is each net that a motion makes of it. -/
theorem read_moved (motion : Equiv.Perm (Place n)) :
    (cube.moved motion).toNet.read none = .ok ⟨n, cube.moved motion⟩ := by
  obtain ⟨-, large, balanced, -⟩ := read_eq_ok_iff.mp valid
  exact read_toNet large (balanced.moved motion)

theorem turnFace_eq {value : Value} {face : Face} (named : Face.ofValue value = .ok face)
    (turns : Int) :
    net.turnFace value turns =
      .ok (cube.moved (Place.sweep face.axis (face.layer n) 1 ^ (face.sign * turns))).toNet := by
  obtain ⟨-, large, -, -⟩ := read_eq_ok_iff.mp valid
  rw [← QuarterTurns.zpow_mul_toInt_ofInt (Place.sweep_pow_four ..),
    ← Cube.turnFace_eq_moved large]
  simp only [turnFace, bind_eq_ok]
  exact ⟨_, valid, face, named, rfl⟩

theorem turnSlice_eq_ok_iff {value : Value} {axis : Axis} (named : Axis.ofValue value = .ok axis)
    {start count turns : Int} {turned : Net} :
    net.turnSlice value start count turns = .ok turned ↔
      (1 ≤ start ∧ 1 ≤ count ∧ start + count ≤ (n : Int) - 1) ∧
        turned = (cube.moved (Place.sweep axis start.toNat count.toNat ^ turns)).toNet := by
  rw [← QuarterTurns.zpow_toInt_ofInt (Place.sweep_pow_four ..)]
  simp only [turnSlice, bind_eq_ok]
  constructor
  · rintro ⟨_, readable, _, reads, _, succeeds, ⟨⟩⟩
    rw [valid] at readable
    rw [named] at reads
    cases readable
    cases reads
    obtain ⟨fits, rfl⟩ := Cube.turnSlice_eq_ok_iff.mp succeeds
    exact ⟨fits, rfl⟩
  · rintro ⟨fits, rfl⟩
    exact ⟨_, valid, axis, named, _, Cube.turnSlice_eq_ok_iff.mpr ⟨fits, rfl⟩, rfl⟩

theorem turnWhole_eq {value : Value} {axis : Axis} (named : Axis.ofValue value = .ok axis)
    (turns : Int) :
    net.turnWhole value turns = .ok (cube.moved (Place.sweep axis 0 n ^ turns)).toNet := by
  rw [← QuarterTurns.zpow_toInt_ofInt (Place.sweep_pow_four ..), ← Cube.turnWhole_eq_moved]
  simp only [turnWhole, bind_eq_ok]
  exact ⟨_, valid, axis, named, rfl⟩

end Valid

/-- On a net that can be read, an action does what it does to the cube. -/
theorem apply_toNet {cube : Cube n} (large : 2 ≤ n) (balanced : cube.Balanced) (action : Action) :
    cube.toNet.apply action = (cube.apply action).map Cube.toNet := by
  have readable := read_toNet large balanced
  -- A slice asks for the size before the net is read.
  have sized := size_toNet cube large
  cases action <;> simp [apply, readable, sized, bind, Except.bind] <;>
    cases cube.apply _ <;> rfl

/-- An action on a net that can be read succeeds if it fits the size. -/
theorem apply_eq_ok_iff {net turned : Net} {cube : Cube n}
    (valid : net.read none = .ok ⟨n, cube⟩) {action : Action} :
    net.apply action = .ok turned ↔
      action.Fits n ∧ turned = (cube.moved (action.motion n)).toNet := by
  obtain ⟨rfl, large, balanced, -⟩ := read_eq_ok_iff.mp valid
  rw [apply_toNet large balanced]
  constructor
  · intro applied
    obtain ⟨after, succeeded, rfl⟩ := map_eq_ok.mp applied
    obtain ⟨fits, rfl⟩ := (Cube.apply_eq_ok_iff large).mp succeeded
    exact ⟨fits, rfl⟩
  · rintro ⟨fits, rfl⟩
    exact map_eq_ok.mpr ⟨_, (Cube.apply_eq_ok_iff large).mpr ⟨fits, rfl⟩, rfl⟩

theorem applyAll_toNet {cube : Cube n} (large : 2 ≤ n) (balanced : cube.Balanced)
    (actions : List Action) :
    cube.toNet.applyAll actions = (cube.applyAll actions).map Cube.toNet := by
  induction actions generalizing cube with
  | nil => rfl
  | cons action actions ih =>
    rw [applyAll, apply_toNet large balanced, Cube.applyAll]
    cases applied : cube.apply action with
    | error fault => rfl
    | ok turned =>
      -- The induction goes on with a cube that can be read again.
      have still : turned.Balanced := by
        rw [((Cube.apply_eq_ok_iff large).mp applied).2]
        exact balanced.moved _
      exact ih still

/-- Actions on a net that can be read succeed if each of them fits its size. -/
theorem applyAll_eq_ok_iff {net turned : Net} {cube : Cube n}
    (valid : net.read none = .ok ⟨n, cube⟩) {actions : List Action} :
    net.applyAll actions = .ok turned ↔
      (∀ action ∈ actions, action.Fits n) ∧
        turned = (cube.moved (Action.motionAll n actions)).toNet := by
  obtain ⟨rfl, large, balanced, -⟩ := read_eq_ok_iff.mp valid
  rw [applyAll_toNet large balanced]
  constructor
  · intro applied
    obtain ⟨after, succeeded, rfl⟩ := map_eq_ok.mp applied
    obtain ⟨fits, rfl⟩ := (Cube.applyAll_eq_ok_iff large).mp succeeded
    exact ⟨fits, rfl⟩
  · rintro ⟨fits, rfl⟩
    exact map_eq_ok.mpr ⟨_, (Cube.applyAll_eq_ok_iff large).mpr ⟨fits, rfl⟩, rfl⟩

/-- A list of actions that fits leads back if its motion leads back. -/
theorem applyAll_applyAll {net turned : Net} {cube : Cube n}
    (valid : net.read none = .ok ⟨n, cube⟩) {actions undoing : List Action}
    (applied : net.applyAll actions = .ok turned)
    (fits : ∀ action ∈ undoing, action.Fits n)
    (back : Action.motionAll n undoing * Action.motionAll n actions = 1) :
    turned.applyAll undoing = .ok net := by
  obtain ⟨-, rfl⟩ := (applyAll_eq_ok_iff valid).mp applied
  obtain ⟨rfl, -⟩ := read_eq_ok_iff.mp valid
  refine (applyAll_eq_ok_iff (read_moved valid _)).mpr ⟨fits, ?_⟩
  rw [Cube.moved_moved, back, Cube.moved_one]

end Net

end Cubing
