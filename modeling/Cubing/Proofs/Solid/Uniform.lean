import Mathlib.Data.Fintype.EquivFin
import Cubing.Proofs.Solid.Slices
import Cubing.Proofs.Solid.Views

/-!
# Turns that show

A cube looks solved when each face has a single colour. A turn of the whole cube
takes faces to faces, so it makes no difference to that, whatever the colours are
(`Place.GoesWith.isUniform_moved_iff`). Any other action carries some strips of an
axis from face to face and leaves others where they are. On a cube that looks
solved all faces have different colours (`Cube.Balanced.colour_injective`), so
two colours meet on a face unless the amount of the turn is zero
(`Cube.isUniform_sweep_iff`).
-/
namespace Cubing

variable {n : Nat}

instance : Fintype Face := ⟨⟨Face.all, by decide⟩, Face.mem_all⟩

theorem Place.GoesWith.isUniform_moved_iff {motion : Equiv.Perm (Place n)}
    {sides : Equiv.Perm Face} (goes : GoesWith motion sides) (cube : Cube n) :
    (cube.moved motion).isUniform = true ↔ cube.isUniform = true := by
  rw [Cube.isUniform_iff, Cube.isUniform_iff]
  constructor
  · rintro ⟨colour, uniform⟩
    refine ⟨fun face => colour (sides face), fun place => ?_⟩
    rw [← cube.get_moved motion, uniform, goes.face]
  · rintro ⟨colour, uniform⟩
    refine ⟨fun face => colour (sides.symm face), fun place => ?_⟩
    obtain ⟨origin, rfl⟩ := motion.surjective place
    simp only [Cube.get_moved, uniform, goes.face, Equiv.symm_apply_apply]

namespace Cube

variable {cube : Cube n} {colour : Face → Face}
  (uniform : ∀ place, cube.get place = colour place.face)
include uniform

/-- Six colours that appear equally often take a face each. -/
theorem Balanced.colour_injective (large : 2 ≤ n) (balanced : cube.Balanced) :
    Function.Injective colour := by
  rw [Finite.injective_iff_surjective]
  intro shade
  have number : cube.cells.count shade = n * n := balanced shade
  have present : shade ∈ cube.cells := by
    rw [← List.count_pos_iff, number]
    exact Nat.mul_pos (by omega) (by omega)
  rw [cells_eq_map_get, List.mem_map] at present
  obtain ⟨place, -, rfl⟩ := present
  exact ⟨place.face, (uniform place).symm⟩

/-- When some layers are swept and others are not, no face keeps a single colour. -/
theorem isUniform_sweep_iff (distinct : Function.Injective colour) {axis : Axis}
    {start count : Nat} {inside outside : Fin n} (swept : InLayers start count inside)
    (unswept : ¬ InLayers start count outside) (turns : Int) :
    (cube.moved (Place.sweep axis start count ^ turns)).isUniform = true ↔
      QuarterTurns.ofInt turns = .still := by
  rw [isUniform_iff]
  constructor
  · rintro ⟨shade, after⟩
    let turned := cube.moved (Place.sweep axis start count ^ turns)
    have cell (layer : Fin n) : Fin (Loop.strip axis layer).length := layer
    have shown (layer : Fin n) (segment : Fin 4) : shade (axis.cycle segment) =
        turned.get ((Loop.strip axis layer).place segment (cell layer)) := by
      rw [after, Loop.face_strip]
    -- A strip that has been carried comes to lie beside one that has stayed on its face.
    have carried : shade (axis.cycle (0 + QuarterTurns.ofInt turns)) = colour (axis.cycle 0) := by
      rw [shown inside, ← Place.sweep_zpow_strip swept, get_moved, uniform, Loop.face_strip]
    have stayed : shade (axis.cycle (0 + QuarterTurns.ofInt turns)) =
        colour (axis.cycle (0 + QuarterTurns.ofInt turns)) := by
      rw [shown outside, get_moved_of_fixed _ (Place.sweep_zpow_off ?_ turns), uniform,
        Loop.face_strip]
      rwa [Loop.layer_strip]
    have same := axis.cycle_injective (distinct (stayed.symm.trans carried))
    exact (Fin.zero_add _).symm.trans same
  · intro still
    refine ⟨colour, fun place => ?_⟩
    rw [QuarterTurns.zpow_eq_pow_ofInt (Place.sweep_pow_four ..), still]
    exact (congrArg (get · place) (moved_one cube)).trans (uniform place)

end Cube

theorem Face.signed_sign_eq_still_iff (face : Face) (turns : QuarterTurns) :
    turns.signed face.sign = .still ↔ turns = .still := by
  revert turns
  cases face <;> decide

namespace Action

/-- The amount of turning of an action. -/
def turns : Action → QuarterTurns
  | .turnFace _ turns | .turnSlice _ _ _ turns | .turnWhole _ turns | .focus _ turns => turns

/-- An action that does not turn the whole cube sweeps some layers of an axis, but not all. -/
theorem exists_sweep (large : 2 ≤ n) {action : Action} (fits : action.Fits n)
    (part : ¬ action.IsWhole) :
    ∃ axis start count, ∃ amount : Int, ∃ inside outside : Fin n,
      action.motion n = Place.sweep axis start count ^ amount ∧
        InLayers start count inside ∧ ¬ InLayers start count outside ∧
        (QuarterTurns.ofInt amount = .still ↔ action.turns = .still) := by
  cases action with
  | turnFace face turns =>
    have outermost : face.layer n < n := by
      rw [Face.layer]
      split <;> omega
    have own : InLayers (face.layer n) 1 ⟨face.layer n, outermost⟩ :=
      ⟨Nat.le_refl _, Nat.lt_succ_self _⟩
    -- Some layer is not that of the face: the first one, or else the second one.
    obtain ⟨outside, other⟩ : ∃ outside : Fin n, ¬ InLayers (face.layer n) 1 outside := by
      by_cases first : face.layer n = 0
      · exact ⟨⟨1, by omega⟩, by simp only [InLayers]; omega⟩
      · exact ⟨⟨0, by omega⟩, by simp only [InLayers]; omega⟩
    exact ⟨face.axis, face.layer n, 1, face.sign * turns.toInt, _, outside, rfl, own, other,
      face.signed_sign_eq_still_iff turns⟩
  | turnSlice axis offset count turns =>
    obtain ⟨inner, nonempty, few⟩ := fits
    let inside : Fin n := ⟨(firstLayer n offset).toNat, by omega⟩
    let outside : Fin n := ⟨0, by omega⟩
    have own : InLayers (firstLayer n offset).toNat count.toNat inside := by
      simp only [InLayers, inside]
      omega
    have other : ¬ InLayers (firstLayer n offset).toNat count.toNat outside := by
      simp only [InLayers, outside]
      omega
    have still : QuarterTurns.ofInt turns.toInt = .still ↔ turns = .still := by
      rw [QuarterTurns.ofInt_toInt]
    exact ⟨axis, _, _, turns.toInt, inside, outside, rfl, own, other, still⟩
  | turnWhole | focus => exact absurd trivial part

end Action

/-- Turning the whole cube or bringing a face to the front makes no difference to whether a cube
looks solved. A cube that looks solved still does so after any other action just if the amount of
the action is zero. -/
theorem only_turns_of_parts_show {net : Net} {cube : Cube n}
    (valid : net.read none = .ok ⟨n, cube⟩) (action : Action) :
    (action.IsWhole → ∃ turned, ∃ after : Cube n, net.apply action = .ok turned ∧
      turned.read none = .ok ⟨n, after⟩ ∧ (after.isUniform = true ↔ cube.isUniform = true)) ∧
    (¬ action.IsWhole → cube.isUniform = true → ∀ turned, net.apply action = .ok turned →
      ∃ after : Cube n, turned.read none = .ok ⟨n, after⟩ ∧
        (after.isUniform = true ↔ action.turns = .still)) := by
  obtain ⟨-, large, balanced, -⟩ := Net.read_eq_ok_iff.mp valid
  refine ⟨fun whole => ?_, fun part looks turned applied => ?_⟩
  · exact ⟨_, _, (Net.apply_eq_ok_iff valid).mpr ⟨whole.fits, rfl⟩, Net.read_moved valid _,
      (Action.goesWith_motion whole).isUniform_moved_iff cube⟩
  · obtain ⟨fits, rfl⟩ := (Net.apply_eq_ok_iff valid).mp applied
    obtain ⟨colour, uniform⟩ := Cube.isUniform_iff.mp looks
    obtain ⟨axis, start, count, amount, inside, outside, motion, swept, unswept, still⟩ :=
      Action.exists_sweep large fits part
    refine ⟨_, Net.read_moved valid _, ?_⟩
    rw [motion, ← still]
    exact Cube.isUniform_sweep_iff uniform (balanced.colour_injective uniform large) swept unswept
      amount

theorem only_turns_of_parts_show_on_solved_from_left :
    let cube := (Cube.solved 3).turnWhole .x .counterClockwise
    let net := cube.toNet
    net.read none = .ok ⟨3, cube⟩ ∧ cube.isUniform = true ∧
      (∃ turned, ∃ after : Cube 3, net.apply (.focus .bottom .still) = .ok turned ∧
        turned.read none = .ok ⟨3, after⟩ ∧ after.isUniform = true) ∧
      ∃ turned, ∃ after : Cube 3, net.apply (.turnSlice .z (-2) 1 .halfway) = .ok turned ∧
        turned.read none = .ok ⟨3, after⟩ ∧ ¬ after.isUniform = true := by
  intro cube net
  have valid : net.read none = .ok ⟨3, cube⟩ := by rfl
  have looks : cube.isUniform = true := by rfl
  obtain ⟨wholes, -⟩ := only_turns_of_parts_show valid (.focus .bottom .still)
  obtain ⟨-, parts⟩ := only_turns_of_parts_show valid (.turnSlice .z (-2) 1 .halfway)
  obtain ⟨turned, after, applied, readable, same⟩ := wholes trivial
  obtain ⟨after', readable', still⟩ := parts id looks _ rfl
  refine ⟨valid, looks, ⟨turned, after, applied, readable, same.mpr looks⟩,
    _, after', rfl, readable', fun looks' => ?_⟩
  exact absurd (still.mp looks') (by decide)

end Cubing
