import Mathlib.GroupTheory.Perm.Support
import Cubing.Proofs.Solid.Corners
import Cubing.Proofs.Turn.Operations

/-!
# Cubes that look solved

When every face shows a single colour, the faces have exchanged their colours.
The corners of a cube that has been turned allow only exchanges that keep three
sides clockwise, and two neighbouring faces decide all others. So the cube is
the solved one, looked at from one of its faces (`Face.view`).
-/
namespace Cubing

variable {n : Nat}

namespace Face

/-- Does an exchange of sides keep three sides clockwise that meet in a corner? -/
def Turning (exchange : Face → Face) : Prop :=
  ∀ first second third, Clockwise first second third →
    Clockwise (exchange first) (exchange second) (exchange third)

/-- Two neighbouring sides decide where all others go. -/
theorem Turning.ext {exchange exchange' : Face → Face} (turning : Turning exchange)
    (turning' : Turning exchange') (front : exchange .front = exchange' .front)
    (top : exchange .top = exchange' .top) : exchange = exchange' := by
  have third {first second third : Face} (clockwise : Clockwise first second third)
      (same : exchange first = exchange' first) (same' : exchange second = exchange' second) :
      exchange third = exchange' third := by
    rw [← (turning _ _ _ clockwise).2, ← (turning' _ _ _ clockwise).2, same, same']
  have right := third (by decide : Clockwise .front .top .right) front top
  have left := third (by decide : Clockwise .top .front .left) top front
  have back := third (by decide : Clockwise .top .left .back) top left
  have bottom := third (by decide : Clockwise .front .right .bottom) front right
  funext side
  cases side <;> assumption

theorem clockwise_quarter_zpow (axis : Axis) (turns : Int) (first second third : Face) :
    Clockwise ((quarter axis ^ turns) first) ((quarter axis ^ turns) second)
      ((quarter axis ^ turns) third) ↔ Clockwise first second third := by
  rw [QuarterTurns.zpow_eq_pow_ofInt (quarter_pow_four axis)]
  induction (QuarterTurns.ofInt turns).val with
  | zero => rfl
  | succ count ih =>
    rw [← ih]
    simp only [pow_succ', Equiv.Perm.mul_apply]
    exact clockwise_carried axis _ _ _

/-- The turn that brings a face to the front and then turns it clockwise, as a motion of the
sides. -/
def view (face : Face) (turns : Nat) : Equiv.Perm Face := quarter .z ^ (turns : Int) * focus face

theorem view_self (face : Face) (turns : Nat) : face.view turns face = .front := by
  rw [view, Equiv.Perm.mul_apply, focus_self]
  exact Equiv.Perm.zpow_apply_eq_self_of_apply_eq_self rfl _

theorem clockwise_view (face : Face) (turns : Nat) (first second third : Face) :
    Clockwise (face.view turns first) (face.view turns second) (face.view turns third) ↔
      Clockwise first second third := by
  simp only [view, Equiv.Perm.mul_apply, clockwise_quarter_zpow, focus]
  split
  · exact clockwise_quarter_zpow ..
  · rfl

theorem turning_view_symm (face : Face) (turns : Nat) : Turning (face.view turns).symm := by
  intro first second third clockwise
  rwa [← clockwise_view face turns, Equiv.apply_symm_apply, Equiv.apply_symm_apply,
    Equiv.apply_symm_apply]

theorem exists_turns_to_top {side : Face} (around : side.axis ≠ .z) :
    ∃ turns < 4, (quarter .z ^ ((turns : Nat) : Int)) side = .top := by
  cases side with
  | top => exact ⟨0, by decide, rfl⟩
  | left => exact ⟨1, by decide, rfl⟩
  | bottom => exact ⟨2, by decide, rfl⟩
  | right => exact ⟨3, by decide, rfl⟩
  | front | back => exact absurd rfl around

/-- Any face can be brought to the front, with any neighbour of it on top. -/
theorem exists_view {face above : Face} (apart : above.axis ≠ face.axis) :
    ∃ turns < 4, face.view turns face = .front ∧ face.view turns above = .top := by
  have around : (face.focus above).axis ≠ .z := by
    revert apart
    cases face <;> cases above <;> decide
  obtain ⟨turns, few, top⟩ := exists_turns_to_top around
  exact ⟨turns, few, face.view_self turns, top⟩

/-- Exchanges that keep three sides clockwise are changes of the point of view. -/
theorem Turning.eq_view {exchange : Face → Face} (turning : Turning exchange) :
    ∃ face, ∃ turns < 4, exchange = (view face turns).symm := by
  have apart := (turning .front .top .right (by decide)).1
  obtain ⟨turns, few, front, top⟩ := exists_view apart
  refine ⟨exchange .front, turns, few, turning.ext (turning_view_symm _ turns) ?_ ?_⟩
  · exact ((Equiv.symm_apply_eq _).mpr front.symm).symm
  · exact ((Equiv.symm_apply_eq _).mpr top.symm).symm

end Face

namespace Cube

/-- A cube is uniform if the colour of a cell depends on its face alone. -/
theorem isUniform_iff {cube : Cube n} :
    cube.isUniform = true ↔
      ∃ colour : Face → Face, ∀ place, cube.get place = colour place.face := by
  simp only [isUniform, List.all_eq_true, decide_eq_true_eq]
  constructor
  · intro uniform
    refine ⟨fun face => (cube.grid face).toList.head?.getD face, fun place => ?_⟩
    have same := uniform place.face place.face.mem_all (cube.get place) (by simp [get])
    simp only [← same, Option.getD_some]
  · rintro ⟨colour, uniform⟩ face - shade member
    have single : ∀ shade ∈ (cube.grid face).toList, shade = colour face := by
      intro shade member
      obtain ⟨position, inside, rfl⟩ := List.getElem_of_mem member
      have cell := uniform (Place.ofOffset face ⟨position, by simpa using inside⟩)
      simp only [get, Place.offset_ofOffset] at cell
      exact cell
    -- The first cell of the face has the same colour as all others.
    cases cells : (cube.grid face).toList with
    | nil =>
      rw [cells] at member
      cases member
    | cons first rest =>
      rw [single shade member, single first (by rw [cells]; exact List.mem_cons_self)]
      rfl

/-- Every corner of a cube in which each face has one colour keeps the faces clockwise. -/
theorem Handed.turning (large : 2 ≤ n) {cube : Cube n} (handed : cube.Handed)
    {colour : Face → Face} (uniform : ∀ place, cube.get place = colour place.face) :
    Face.Turning colour := by
  have shown {position : Position n} {side : Face} (touches : position.Touches side) :
      cube.shown position side = some (colour side) := by
    rw [cube.shown_of_touches touches, uniform]
    cases side <;> rfl
  intro first second third clockwise
  obtain ⟨corner, touches, touches', touches''⟩ := Corner.exists_touches clockwise
  rw [← Corner.touches_position large] at touches touches' touches''
  exact handed _ clockwise (shown touches) (shown touches') (shown touches'')

end Cube

namespace Place

/-- The turn that brings a face to the front and then turns it clockwise, as a motion of the
cells. -/
def view (face : Face) (turns : Nat) : Equiv.Perm (Place n) :=
  quarter .z ^ (turns : Int) * focus face

theorem goesWith_view (face : Face) (turns : Nat) :
    GoesWith (view face turns : Equiv.Perm (Place n)) (face.view turns) :=
  (goesWith_quarter_zpow _ _).mul (goesWith_focus face)

end Place

namespace Cube

theorem get_solved_view (face : Face) (turns : Nat) (place : Place n) :
    ((solved n).moved (Place.view face turns)).get place = (face.view turns).symm place.face := by
  obtain ⟨origin, rfl⟩ := (Place.view face turns).surjective place
  rw [get_moved, get_solved, (Place.goesWith_view face turns).face, Equiv.symm_apply_apply]

/-- A cube without mirror images looks solved just if it is the solved cube, seen from one of its
faces. -/
theorem Handed.isUniform_iff (large : 2 ≤ n) {cube : Cube n} (handed : cube.Handed) :
    cube.isUniform = true ↔
      ∃ face, ∃ turns < 4, cube = (solved n).moved (Place.view face turns) := by
  rw [Cube.isUniform_iff]
  constructor
  · rintro ⟨colour, uniform⟩
    obtain ⟨face, turns, few, rfl⟩ := (handed.turning large uniform).eq_view
    refine ⟨face, turns, few, ext_get fun place => ?_⟩
    rw [uniform, get_solved_view]
  · rintro ⟨face, turns, -, rfl⟩
    exact ⟨_, get_solved_view face turns⟩

end Cube

/-- A face that is brought to the front and then turned clockwise with the whole cube. -/
theorem Net.makes_view (face : Face) (turns : Nat) :
    Makes (fun net => net.refocus (.int face.number) >>= (·.turnWhole (.text "Z") turns))
      (Place.view (n := n) face turns) := by
  have faceNamed : Face.ofValue (.int face.number) = .ok face := by cases face <;> rfl
  exact (makes_refocus faceNamed).bind (makes_turnWhole rfl turns)

/-- A cube that has been turned out of a solved one by any actions looks solved just if it is the
solved cube with some face brought to the front and turned. -/
theorem looks_solved_iff_solved_from_some_face (large : 2 ≤ n) {actions : List Action}
    {result : Net} (applied : (Cube.solved n).toNet.applyAll actions = .ok result) :
    ∃ turned : Cube n, result.read none = .ok ⟨n, turned⟩ ∧
      (turned.isUniform = true ↔
        ∃ face : Face, ∃ turns : Nat, turns < 4 ∧
          ((Cube.solved n).toNet.refocus (.int face.number) >>=
            (·.turnWhole (.text "Z") turns)) = .ok result) := by
  have valid := Cube.read_solved large
  obtain ⟨-, rfl⟩ := (Net.applyAll_eq_ok_iff valid).mp applied
  refine ⟨_, Net.read_moved valid _, ?_⟩
  rw [(Cube.handed_solved.motionAll actions).isUniform_iff large]
  -- Each point of view is what the two turns make of the solved cube.
  have viewed (face : Face) (turns : Nat) := Net.makes_view face turns _ _ valid
  simp only [viewed, Except.ok.injEq, Cube.toNet_injective.eq_iff, eq_comm]

theorem looks_solved_after_turning_both_layers :
    let cube := (Cube.solved 2).turnWhole .y .clockwise
    let actions := [.turnFace .right .clockwise, .turnFace .left .counterClockwise]
    (Cube.solved 2).toNet.applyAll actions = .ok cube.toNet ∧ cube.isUniform = true ∧
      ∃ face : Face, ∃ turns : Nat, turns < 4 ∧
        ((Cube.solved 2).toNet.refocus (.int face.number) >>= (·.turnWhole (.text "Z") turns)) =
          .ok cube.toNet := by
  intro cube actions
  have applied : (Cube.solved 2).toNet.applyAll actions = .ok cube.toNet := by rfl
  have uniform : cube.isUniform = true := by rfl
  have read : cube.toNet.read none = .ok ⟨2, cube⟩ := by rfl
  obtain ⟨turned, readable, solved⟩ :=
    looks_solved_iff_solved_from_some_face (by decide) applied
  cases readable.symm.trans read
  exact ⟨applied, uniform, solved.mp uniform⟩

end Cubing
