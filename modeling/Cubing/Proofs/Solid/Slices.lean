import Cubing.Proofs.Solid.Corners
import Cubing.Proofs.Turn.Focus

/-!
# Slices

A layer of an axis cuts one strip out of each of the four faces around the axis
(`Axis.cycle`). Turning inner layers carries their strips from face to face, with
the cells of each strip in order, and changes no other cell (`Cube.Sliced`): the
faces at the ends of the axis stay as they are, and so do the corners.
-/
namespace Cubing

variable {n : Nat}

namespace Axis

/-- The faces around an axis, in the order in which a quarter turn carries them. -/
def cycle (axis : Axis) (segment : Fin 4) : Face :=
  match axis, segment with
  | .x, 0 => .right
  | .x, 1 => .front
  | .x, 2 => .left
  | .x, 3 => .back
  | .y, 0 => .front
  | .y, 1 => .top
  | .y, 2 => .back
  | .y, 3 => .bottom
  | .z, 0 => .top
  | .z, 1 => .right
  | .z, 2 => .bottom
  | .z, 3 => .left

theorem cycle_injective (axis : Axis) : Function.Injective axis.cycle := by
  unfold Function.Injective
  cases axis <;> decide

end Axis

/-- All strips of one segment lie on the same face. -/
theorem Loop.face_strip (axis : Axis) (layer : Fin n) (segment : Fin 4)
    (position : Fin (strip axis layer).length) :
    ((strip axis layer).place segment position).face = axis.cycle segment := by
  cases axis <;> match segment with
  | 0 | 1 | 2 | 3 => rfl

theorem Loop.layer_strip (axis : Axis) (layer : Fin n) (segment : Fin 4)
    (position : Fin (strip axis layer).length) :
    ((strip axis layer).place segment position).layer axis = layer :=
  ((visits_strip_iff axis layer _).mp ⟨segment, position, rfl⟩).2

namespace Place

theorem sweep_zpow_off {axis : Axis} {start count : Nat} {place : Place n}
    (outside : ¬ InLayers start count (place.layer axis)) (turns : Int) :
    (sweep axis start count ^ turns) place = place :=
  (sweep_zpow_apply ..).trans (if_neg outside)

/-- A sweep carries a strip of its layers as many segments on as it makes turns. -/
theorem sweep_zpow_strip {axis : Axis} {start count : Nat} {layer : Fin n}
    (inside : InLayers start count layer) (turns : Int) (segment : Fin 4)
    (position : Fin (Loop.strip axis layer).length) :
    (sweep axis start count ^ turns) ((Loop.strip axis layer).place segment position) =
      (Loop.strip axis layer).place (segment + QuarterTurns.ofInt turns) position := by
  rw [sweep_zpow_apply, Loop.layer_strip, if_pos inside, (Loop.woven_strip axis).place_add,
    QuarterTurns.zpow_eq_pow_ofInt (quarter_pow_four axis)]

end Place

section Inner

variable {start count : Nat} (inner : 1 ≤ start) (fits : start + count + 1 ≤ n)
include inner fits

/-- Inner layers have no cell of the faces at the ends of the axis. -/
theorem Place.not_inLayers_of_end (place : Place n) :
    ¬ InLayers start count (place.layer place.face.axis) := by
  rw [InLayers, place.layer_of_end, Face.layer]
  split <;> omega

/-- Inner layers have no corner. -/
theorem Corner.not_inLayers (large : 2 ≤ n) (axis : Axis) (corner : Corner) :
    ¬ InLayers start count ((corner.position large).layer axis) := by
  rw [InLayers, layer_position, val_outer]
  split <;> omega

end Inner

namespace Cube

theorem get_moved_of_fixed (cube : Cube n) {motion : Equiv.Perm (Place n)} {place : Place n}
    (fixed : motion place = place) : (cube.moved motion).get place = cube.get place := by
  have carried := cube.get_moved motion place
  rwa [fixed] at carried

/-- One cube comes from another by carrying the strips of some layers of an axis around the axis:
the faces at the ends, the cells that lie on no such strip and the corners are as they were, and the
strip of each layer on a face shows the colours that the strip of the same layer showed on the face
so many places before it around the axis. -/
structure Sliced (before after : Cube n) (axis : Axis) (start count : Nat)
    (turns : QuarterTurns) : Prop where
  ends : after.grid axis.ends.1 = before.grid axis.ends.1 ∧
    after.grid axis.ends.2 = before.grid axis.ends.2
  outside : ∀ place : Place n,
    (∀ layer, InLayers start count layer → ¬ (Loop.strip axis layer).Visits place) →
      after.get place = before.get place
  corners : ∀ block : Block n, block.kind = .corner →
    (block ∈ after.blocks ↔ block ∈ before.blocks)
  strips : ∀ layer, InLayers start count layer → ∀ segment position,
    ((Loop.strip axis layer).place segment position).face = axis.cycle segment ∧
      after.get ((Loop.strip axis layer).place (segment + turns) position) =
        before.get ((Loop.strip axis layer).place segment position)

section Inner

variable {start count : Nat} (inner : 1 ≤ start) (fits : start + count + 1 ≤ n)
include inner fits

/-- The corners stay when inner layers are swept. -/
theorem mem_blocks_of_corner (large : 2 ≤ n) (cube : Cube n) (axis : Axis) (turns : Int)
    {block : Block n} (isCorner : block.kind = .corner) (member : block ∈ cube.blocks) :
    block ∈ (cube.moved (Place.sweep axis start count ^ turns)).blocks := by
  obtain ⟨corner, rfl⟩ := (mem_corners_iff large).mp ⟨member, isCorner⟩
  exact (cube.turnedRigidly_moved axis start count turns).kept _ member
    (Corner.not_inLayers inner fits large axis corner)

theorem sliced_moved (large : 2 ≤ n) (cube : Cube n) (axis : Axis) (turns : Int) :
    cube.Sliced (cube.moved (Place.sweep axis start count ^ turns)) axis start count
      (.ofInt turns) where
  ends := by
    have kept {face : Face} (lies : face.axis = axis) :
        (cube.moved (Place.sweep axis start count ^ turns)).grid face = cube.grid face := by
      subst lies
      apply grid_eq_of_get
      intro row col
      exact cube.get_moved_of_fixed
        (Place.sweep_zpow_off (Place.not_inLayers_of_end inner fits ⟨face, row, col⟩) turns)
    exact ⟨kept ((Face.axis_eq_iff _ axis).mpr (.inl rfl)),
      kept ((Face.axis_eq_iff _ axis).mpr (.inr rfl))⟩
  outside := by
    intro place unvisited
    refine cube.get_moved_of_fixed (Place.sweep_zpow_off (fun inside => ?_) turns)
    -- A cell in these layers lies at an end of the axis, or else on a strip.
    by_cases lies : place.face.axis = axis
    · subst lies
      exact place.not_inLayers_of_end inner fits inside
    · exact unvisited _ inside ((Loop.visits_strip_iff axis _ place).mpr ⟨lies, rfl⟩)
  corners := by
    intro block isCorner
    refine ⟨fun member => ?_, cube.mem_blocks_of_corner inner fits large axis turns isCorner⟩
    -- Turned back, the corners stay once more.
    have back := mem_blocks_of_corner inner fits large _ axis (-turns) isCorner member
    rwa [moved_moved, ← zpow_add, Int.add_left_neg, zpow_zero, moved_one] at back
  strips := by
    intro layer inside segment position
    refine ⟨Loop.face_strip axis layer segment position, ?_⟩
    rw [← Place.sweep_zpow_strip inside, get_moved]

end Inner

end Cube

theorem Action.ofRequest_turnSlice {value : Value} {axis : Axis}
    (named : Axis.ofValue value = .ok axis) (offset count turns : Int) :
    ofRequest (.turnSlice value (some offset) (some count) (some (.int turns))) =
      .ok (.turnSlice axis offset count (.ofInt turns)) := by
  simp only [ofRequest, turnsOf, QuarterTurns.ofValue, named]
  rfl

/-- A slice can be turned just if it consists of inner layers, the first of which is counted from
the far end of the axis if its number is negative. It then carries the strips of these layers around
the axis, and changes neither other cells nor corners. -/
theorem slices_carry_strips_of_inner_layers {net : Net} {cube : Cube n}
    (valid : net.read none = .ok ⟨n, cube⟩) {value : Value} {axis : Axis}
    (named : Axis.ofValue value = .ok axis) (offset count turns : Int) :
    let start : Int := if offset < 0 then n + offset else offset
    ∃ action, Action.ofRequest
        (.turnSlice value (some offset) (some count) (some (.int turns))) = .ok action ∧
      ((∃ turned, net.apply action = .ok turned) ↔
        1 ≤ start ∧ 1 ≤ count ∧ start + count ≤ (n : Int) - 1) ∧
      ∀ turned, net.apply action = .ok turned →
        ∃ after : Cube n, turned.read none = .ok ⟨n, after⟩ ∧
          cube.Sliced after axis start.toNat count.toNat (.ofInt turns) := by
  intro start
  obtain ⟨-, large, -⟩ := Net.read_eq_ok_iff.mp valid
  refine ⟨_, Action.ofRequest_turnSlice named offset count turns, ?_, fun turned applied => ?_⟩
  · simp only [Net.apply_eq_ok_iff valid, exists_and_left, exists_eq, and_true]
    rfl
  · obtain ⟨fits, rfl⟩ := (Net.apply_eq_ok_iff valid).mp applied
    have first : Action.firstLayer n offset = start := rfl
    rw [Action.Fits, first] at fits
    refine ⟨_, Net.read_moved valid _, ?_⟩
    rw [Action.motion, first, QuarterTurns.zpow_toInt_ofInt (Place.sweep_pow_four ..)]
    exact Cube.sliced_moved (by omega) (by omega) large cube axis turns

theorem slices_carry_strips_of_inner_layers_from_far_end :
    let cube := (Cube.solved 4).turnFace .front .clockwise
    let net := cube.toNet
    net.read none = .ok ⟨4, cube⟩ ∧
      ∃ action turned after, Action.ofRequest
          (.turnSlice (.text "Y") (some (-3)) (some 2) (some (.int 7))) = .ok action ∧
        net.apply action = .ok turned ∧ turned.read none = .ok ⟨4, after⟩ ∧
        cube.Sliced after .y 1 2 .counterClockwise := by
  intro cube net
  have valid : net.read none = .ok ⟨4, cube⟩ := by rfl
  have named : Axis.ofValue (.text "Y") = .ok .y := rfl
  obtain ⟨action, requested, accepted, slices⟩ :=
    slices_carry_strips_of_inner_layers valid named (-3) 2 7
  obtain ⟨turned, applied⟩ := accepted.mpr (by decide)
  obtain ⟨after, readable, sliced⟩ := slices turned applied
  exact ⟨valid, action, turned, after, requested, applied, readable, sliced⟩

end Cubing
