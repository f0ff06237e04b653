import Mathlib.Algebra.BigOperators.Group.Finset.Basic
import Mathlib.Data.ZMod.Defs
import Cubing.Proofs.Solid.Corners

/-!
# Corner twist

Each corner shows the colour of the top or of the bottom on one of its sides.
How far around the corner that side lies from the top or the bottom of the cube
is the twist of the corner. A quarter turn changes the twists of the corners that
it moves, in a way that depends on the turn and the corners alone
(`Cube.twist_moved`), and these changes cancel in each layer
(`Corner.sum_shift`). So the sum of all twists, modulo three, never changes.
-/
namespace Cubing

variable {n : Nat}

/-- Is a colour that of the top or of the bottom? -/
def Face.isPole : Face → Bool
  | .top | .bottom => true
  | _ => false

/-- The sides at which a corner lies, clockwise as seen from outside, the top or the bottom
first. -/
def Position.side (position : Position n) (step : Fin 3) : Face :=
  let upright : Face := if position.row.val = 0 then .top else .bottom
  let across : Face := if position.col.val = 0 then .left else .right
  let along : Face := if position.depth.val = 0 then .front else .back
  let clockwise := upright.next across = along
  match step with
  | 0 => upright
  | 1 => if clockwise then across else along
  | 2 => if clockwise then along else across

/-- The first of three steps at which something is found. It is taken to be found at the last. -/
def firstStep (found : Fin 3 → Bool) : Fin 3 := if found 0 then 0 else if found 1 then 1 else 2

/-- How many steps clockwise from the top or the bottom side a corner shows the colour of the top or
of the bottom. Steps around a corner count modulo three. -/
def Block.twist (block : Block n) : Fin 3 :=
  firstStep fun step => (block.colour? (block.position.side step)).any Face.isPole

/-- The cube with the cells of one corner carried clockwise around the corner. -/
def Cube.twistCorner (cube : Cube n) (position : Position n) (steps : Fin 3) : Cube n :=
  (List.finRange 3).foldl (fun twisted step =>
    twisted.set (position.cell (position.side (step + steps)))
      (cube.get (position.cell (position.side step)))) cube

theorem firstStep_eq {found : Fin 3 → Bool} {step : Fin 3}
    (only : ∀ other, found other = true ↔ other = step) : firstStep found = step := by
  simp only [firstStep, only]
  match step with
  | 0 | 1 | 2 => rfl

/-- Of three colours that follow one another clockwise just one is that of the top or the bottom. -/
theorem Face.Clockwise.exists_pole {colour : Fin 3 → Face}
    (clockwise : Clockwise (colour 0) (colour 1) (colour 2)) :
    ∃ step, ∀ other, (colour other).isPole = true ↔ other = step := by
  have found (first second third : Face) (clockwise : Clockwise first second third) :
      ∃ step : Fin 3, (first.isPole = true ↔ 0 = step) ∧ (second.isPole = true ↔ 1 = step) ∧
        (third.isPole = true ↔ 2 = step) := by
    obtain ⟨apart, rfl⟩ := clockwise
    revert apart
    cases first <;> cases second <;> decide
  obtain ⟨step, first, second, third⟩ := found _ _ _ clockwise
  refine ⟨step, fun other => ?_⟩
  match other with
  | 0 => exact first
  | 1 => exact second
  | 2 => exact third

namespace Corner

variable (corner : Corner)

theorem touches_side (step : Fin 3) : corner.Touches (corner.side step) := by
  revert corner step
  decide

theorem exists_side {side : Face} (touches : corner.Touches side) :
    ∃ step, corner.side step = side := by
  revert corner
  cases side <;> decide

theorem side_injective : Function.Injective corner.side := by
  revert corner
  unfold Function.Injective
  decide

theorem clockwise_sides : Face.Clockwise (corner.side 0) (corner.side 1) (corner.side 2) := by
  revert corner
  decide

theorem isPole_side (step : Fin 3) : (corner.side step).isPole = true ↔ step = 0 := by
  revert corner step
  decide

/-- How far a quarter turn carries the first side of a corner around the corner to which it takes
the corner. -/
def shift (axis : Axis) : Fin 3 :=
  firstStep fun step => (corner.carried axis).side step = (corner.side 0).carried axis

/-- The other sides are carried as far around the corner as the first one. -/
theorem side_carried (axis : Axis) (step : Fin 3) :
    (corner.carried axis).side (step + shift corner axis) = (corner.side step).carried axis := by
  revert corner step
  cases axis <;> decide

/-- In each layer of an axis the shifts of a quarter turn cancel. -/
theorem sum_shift (axis : Axis) (turned : Fin 2 → Bool) :
    (∑ corner : Corner, if turned (corner.layer axis) then shift corner axis else 0) = 0 := by
  have layers (first last : Bool) : (∑ corner : Corner,
      if (if corner.layer axis = 0 then first else last) then shift corner axis else 0) = 0 := by
    cases axis <;> revert first last <;> decide
  refine Eq.trans (Finset.sum_congr rfl fun corner _ => ?_) (layers (turned 0) (turned 1))
  match corner.layer axis with
  | 0 | 1 => rfl

variable {corner} (large : 2 ≤ n)

theorem side_position (step : Fin 3) : (position large corner).side step = corner.side step := by
  have nearest (last : Fin 2) : (outer large last).val = 0 ↔ last.val = 0 := by
    rw [val_outer]
    split <;> omega
  obtain ⟨depth, row, col⟩ := corner
  simp only [Position.side, position, nearest]

end Corner

theorem Position.face_cell (position : Position n) (side : Face) :
    (position.cell side).face = side := by
  cases side <;> rfl

/-- A cell belongs to one block alone. -/
theorem Position.eq_of_cell_eq {position position' : Position n} {side side' : Face}
    (touches : position.Touches side) (touches' : position'.Touches side')
    (same : position.cell side = position'.cell side') : position = position' := by
  obtain ⟨depth, row, col⟩ := position
  obtain ⟨depth', row', col'⟩ := position'
  cases side <;> cases side' <;>
    simp_all [Touches, cell, Fin.ext_iff] <;> omega

namespace Cube

variable (large : 2 ≤ n) (cube : Cube n)

/-- The colour on a side of a corner. -/
def cornerColour (corner : Corner) (step : Fin 3) : Face :=
  cube.get ((corner.position large).cell (corner.side step))

theorem shown_side (corner : Corner) (step : Fin 3) :
    cube.shown (corner.position large) (corner.side step) =
      some (cube.cornerColour large corner step) :=
  cube.shown_of_touches ((Corner.touches_position large corner _).mpr (corner.touches_side step))

/-- The twist of a corner. -/
def twist (corner : Corner) : Fin 3 :=
  firstStep fun step => (cube.cornerColour large corner step).isPole

theorem twist_cornerBlock (corner : Corner) :
    (cube.cornerBlock large corner).twist = cube.twist large corner := by
  simp only [Block.twist, cornerBlock, Corner.side_position, shown_side, Option.any_some, twist]

variable {cube}

theorem Handed.clockwise_cornerColour (handed : cube.Handed) (corner : Corner) :
    Face.Clockwise (cube.cornerColour large corner 0) (cube.cornerColour large corner 1)
      (cube.cornerColour large corner 2) :=
  handed _ corner.clockwise_sides (cube.shown_side large corner 0)
    (cube.shown_side large corner 1) (cube.shown_side large corner 2)

theorem Handed.isPole_iff (handed : cube.Handed) (corner : Corner) (step : Fin 3) :
    (cube.cornerColour large corner step).isPole = true ↔ step = cube.twist large corner := by
  obtain ⟨found, only⟩ := (handed.clockwise_cornerColour large corner).exists_pole
  rw [only, twist, firstStep_eq only]

theorem Handed.existsUnique_pole (handed : cube.Handed) (corner : Corner) :
    ∃! side, ((cube.cornerBlock large corner).colour? side).any Face.isPole = true := by
  refine ⟨corner.side (cube.twist large corner), ?_, fun side pole => ?_⟩
  · simp only [cornerBlock, shown_side, Option.any_some]
    exact (handed.isPole_iff large corner _).mpr rfl
  · simp only [cornerBlock] at pole
    -- A side that shows a colour is a side of the corner.
    obtain ⟨colour, shows, -⟩ := (Option.any_eq_true ..).mp pole
    have touches := cube.isSome_shown (corner.position large) side
    rw [shows, Option.isSome_some, eq_comm, decide_eq_true_eq, Corner.touches_position] at touches
    obtain ⟨step, rfl⟩ := corner.exists_side touches
    rw [shown_side, Option.any_some, handed.isPole_iff large] at pole
    rw [pole]

/-- The twists of the blocks are those of the eight corners. -/
theorem sum_twist_blocks (cube : Cube n) :
    ((cube.blocks.filter fun block => block.kind = .corner).map Block.twist).sum =
      ∑ corner, cube.twist large corner := by
  rw [((cube.corners_perm large).map Block.twist).sum_eq, List.map_map]
  refine congrArg List.sum (List.map_congr_left fun corner _ => ?_)
  exact cube.twist_cornerBlock large corner

section Sweep

variable {axis : Axis} {start count : Nat} {corner : Corner}

theorem cornerColour_moved_carried
    (inside : InLayers start count ((corner.position large).layer axis)) (step : Fin 3) :
    (cube.moved (Place.sweep axis start count)).cornerColour large (corner.carried axis)
        (step + Corner.shift corner axis) = cube.cornerColour large corner step := by
  have carried := cube.shown_moved_carried inside (corner.side step)
  rw [Corner.position_carried, ← Corner.side_carried, shown_side, shown_side] at carried
  exact Option.some.inj carried

theorem cornerColour_moved_kept
    (outside : ¬ InLayers start count ((corner.position large).layer axis)) (step : Fin 3) :
    (cube.moved (Place.sweep axis start count)).cornerColour large corner step =
      cube.cornerColour large corner step := by
  have kept := cube.shown_moved_kept outside (corner.side step)
  rw [shown_side, shown_side] at kept
  exact Option.some.inj kept

/-- A quarter turn adds its shift to the twist of a corner. -/
theorem Handed.twist_moved_carried (handed : cube.Handed)
    (inside : InLayers start count ((corner.position large).layer axis)) :
    (cube.moved (Place.sweep axis start count)).twist large (corner.carried axis) =
      cube.twist large corner + Corner.shift corner axis := by
  symm
  rw [← (handed.moved axis start count).isPole_iff large, cornerColour_moved_carried large inside,
    handed.isPole_iff large]

theorem twist_moved_kept
    (outside : ¬ InLayers start count ((corner.position large).layer axis)) :
    (cube.moved (Place.sweep axis start count)).twist large corner = cube.twist large corner := by
  simp only [twist, cornerColour_moved_kept large outside]

end Sweep

/-- The quarter turn of some layers, as a motion of the corners. -/
def sweptCorners (axis : Axis) (start count : Nat) : Equiv.Perm Corner :=
  QuarterTurns.motionOn
    (fun corner => InLayers start count ((Corner.position large corner).layer axis))
    (Position.carried axis) (Position.quarter axis).left_inv
    (fun corner => by rw [← Corner.position_carried, Position.layer_carried])

/-- A quarter turn of any layers leaves the sum of the twists as it is. -/
theorem Handed.sum_twist_moved (handed : cube.Handed) (axis : Axis) (start count : Nat) :
    (∑ corner, (cube.moved (Place.sweep axis start count)).twist large corner) =
      ∑ corner, cube.twist large corner := by
  have turned (corner : Corner) :
      (cube.moved (Place.sweep axis start count)).twist large
          (sweptCorners large axis start count corner) =
        cube.twist large corner +
          if decide (InLayers start count (Corner.outer large (corner.layer axis))) = true then
            Corner.shift corner axis
          else 0 := by
    simp only [decide_eq_true_eq, ← Corner.layer_position, sweptCorners, QuarterTurns.motionOn,
      QuarterTurns.motion_apply]
    by_cases inside : InLayers start count ((Corner.position large corner).layer axis)
    · rw [if_pos inside, if_pos inside, handed.twist_moved_carried large inside]
    · rw [if_neg inside, if_neg inside, twist_moved_kept large inside, add_zero]
  have cancel := Corner.sum_shift axis fun last =>
    decide (InLayers start count (Corner.outer large last))
  calc (∑ corner, (cube.moved (Place.sweep axis start count)).twist large corner)
    _ = ∑ corner, (cube.moved (Place.sweep axis start count)).twist large
          (sweptCorners large axis start count corner) := (Equiv.sum_comp _ _).symm
    _ = _ := Finset.sum_congr rfl fun corner _ => turned corner
    _ = _ := Finset.sum_add_distrib
    _ = ∑ corner, cube.twist large corner := by rw [cancel, add_zero]

theorem cornerColour_solved (corner : Corner) (step : Fin 3) :
    (solved n).cornerColour large corner step = corner.side step := by
  rw [cornerColour, get_solved]
  cases corner.side step <;> rfl

theorem twist_solved (corner : Corner) : (solved n).twist large corner = 0 := by
  apply firstStep_eq
  intro other
  rw [cornerColour_solved, Corner.isPole_side]

theorem sum_twist_motionAll (actions : List Action) :
    (∑ corner, ((solved n).moved (Action.motionAll n actions)).twist large corner) = 0 := by
  -- The twists are conserved as long as there are no mirror images, so the two go together.
  have kept := kept_by_motionAll
    (P := fun cube : Cube n => cube.Handed ∧ (∑ corner, cube.twist large corner) = 0)
    (fun cube axis start count both =>
      ⟨both.1.moved axis start count, (both.1.sum_twist_moved large axis start count).trans both.2⟩)
    ⟨handed_solved, Finset.sum_eq_zero fun corner _ => twist_solved large corner⟩ actions
  exact kept.2

section TwistCorner

variable (corner : Corner) (steps : Fin 3)

/-- The twisted corner shows on each side what it has shown on an earlier side. -/
theorem cornerColour_twistCorner (step : Fin 3) :
    (cube.twistCorner (corner.position large) steps).cornerColour large corner (step + steps) =
      cube.cornerColour large corner step := by
  simp only [cornerColour, twistCorner, Corner.side_position]
  refine get_foldl_set (List.finRange 3)
    (fun step => (corner.position large).cell (corner.side (step + steps))) _ ?_ cube step
    (List.mem_finRange step)
  intro first second same
  have sides := congrArg Place.face same
  rw [Position.face_cell, Position.face_cell] at sides
  exact add_right_cancel (corner.side_injective sides)

theorem cornerColour_twistCorner_other {other : Corner} (apart : other ≠ corner) (step : Fin 3) :
    (cube.twistCorner (corner.position large) steps).cornerColour large other step =
      cube.cornerColour large other step := by
  simp only [cornerColour, twistCorner, Corner.side_position]
  apply get_foldl_set_off
  intro moved _ same
  have touches := (Corner.touches_position large corner _).mpr (corner.touches_side (moved + steps))
  have touches' := (Corner.touches_position large other _).mpr (other.touches_side step)
  exact apart (Corner.position_injective large (Position.eq_of_cell_eq touches touches' same)).symm

/-- With one corner twisted the sum of the twists is how far it has been twisted. -/
theorem sum_twist_twistCorner :
    (∑ other, ((solved n).twistCorner (corner.position large) steps).twist large other) =
      steps := by
  rw [Finset.sum_eq_single corner]
  · apply firstStep_eq
    intro step
    rw [← sub_add_cancel step steps, cornerColour_twistCorner, cornerColour_solved,
      Corner.isPole_side, sub_eq_zero, sub_add_cancel]
  · intro other _ apart
    rw [← twist_solved large other]
    simp only [twist, cornerColour_twistCorner_other large corner steps apart]
  · intro missing
    exact absurd (Finset.mem_univ corner) missing

end TwistCorner

end Cube

/-- Whatever actions turn a solved cube, each of its eight corners shows the colour of the top or of
the bottom on one side, and the twists of the corners cancel modulo three. So the cube never becomes
one in which a single corner is twisted. -/
theorem corner_twists_cancel (large : 2 ≤ n) {actions : List Action} {result : Net}
    (applied : (Cube.solved n).toNet.applyAll actions = .ok result) :
    ∃ turned : Cube n, result.read none = .ok ⟨n, turned⟩ ∧
      (turned.blocks.filter fun block => block.kind = .corner).length = 8 ∧
      (∀ block ∈ turned.blocks, block.kind = .corner →
        ∃! side, (block.colour? side).any Face.isPole = true) ∧
      ((turned.blocks.filter fun block => block.kind = .corner).map Block.twist).sum = 0 ∧
      ∀ block ∈ (Cube.solved n).blocks, block.kind = .corner → ∀ steps ≠ 0,
        result ≠ ((Cube.solved n).twistCorner block.position steps).toNet := by
  have valid := Cube.read_solved large
  obtain ⟨-, rfl⟩ := (Net.applyAll_eq_ok_iff valid).mp applied
  have handed := Cube.handed_solved.motionAll (n := n) actions
  have conserved := Cube.sum_twist_motionAll large actions
  refine ⟨_, Net.read_moved valid _, ?_, fun block member isCorner => ?_, ?_,
    fun block member isCorner steps twisted same => ?_⟩
  · rw [(Cube.corners_perm large _).length_eq, List.length_map]
    rfl
  · obtain ⟨corner, rfl⟩ := (Cube.mem_corners_iff large).mp ⟨member, isCorner⟩
    exact handed.existsUnique_pole large corner
  · rw [Cube.sum_twist_blocks large, conserved]
  · obtain ⟨corner, rfl⟩ := (Cube.mem_corners_iff large).mp ⟨member, isCorner⟩
    rw [Cube.toNet_injective same, Cube.cornerBlock, Cube.sum_twist_twistCorner] at conserved
    exact twisted conserved

theorem corner_twists_cancel_after_two_turns :
    let cube := ((Cube.solved 2).turnFace .front .clockwise).turnFace .right .clockwise
    let actions := [.turnFace .front .clockwise, .turnFace .right .clockwise]
    (Cube.solved 2).toNet.applyAll actions = .ok cube.toNet ∧
      (∃ block ∈ cube.blocks, block.kind = .corner ∧ block.twist ≠ 0) ∧
      ((cube.blocks.filter fun block => block.kind = .corner).map Block.twist).sum = 0 ∧
      ∀ block ∈ (Cube.solved 2).blocks, block.kind = .corner →
        cube.toNet ≠ ((Cube.solved 2).twistCorner block.position 1).toNet := by
  intro cube actions
  have applied : (Cube.solved 2).toNet.applyAll actions = .ok cube.toNet := by rfl
  have twisted : ∃ block ∈ cube.blocks, block.kind = .corner ∧ block.twist ≠ 0 := by decide
  have read : cube.toNet.read none = .ok ⟨2, cube⟩ := by rfl
  obtain ⟨turned, readable, -, -, cancel, apart⟩ := corner_twists_cancel (by decide) applied
  cases readable.symm.trans read
  exact ⟨applied, twisted, cancel, fun block member isCorner =>
    apart block member isCorner 1 (by decide)⟩

end Cubing
