import Cubing.Proofs.Turn.Actions

/-!
# Turns move blocks as wholes

The cells of a cube are numbered face by face, and its blocks by depth, row and
column. The two countings describe the same solid: turning some layers of an
axis takes every block of these layers, with all the cells it shows, to the
position where a rotation of the solid takes it, and leaves every other block as
it is (`Cube.TurnedRigidly`). This holds for every way of turning a net.
-/
namespace Cubing

variable {n : Nat}

namespace Position

/-- Does a block lie at a side? -/
def Touches (position : Position n) : Face → Prop
  | .left => position.col.val = 0
  | .front => position.depth.val = 0
  | .right => position.col.val + 1 = n
  | .back => position.depth.val + 1 = n
  | .top => position.row.val = 0
  | .bottom => position.row.val + 1 = n

/-- The cell of a side in front of which a block lies, nearer to it or farther away. -/
def cell (position : Position n) : Face → Place n
  | .left => ⟨.left, position.row, position.depth.rev⟩
  | .front => ⟨.front, position.row, position.col⟩
  | .right => ⟨.right, position.row, position.depth⟩
  | .back => ⟨.back, position.row, position.col.rev⟩
  | .top => ⟨.top, position.depth.rev, position.col⟩
  | .bottom => ⟨.bottom, position.depth, position.col⟩

theorem place?_eq_some_iff {position : Position n} {side : Face} {place : Place n} :
    position.place? side = some place ↔ position.Touches side ∧ position.cell side = place := by
  obtain ⟨depth, row, col⟩ := position
  cases side <;> simp [place?, Touches, cell]

theorem touches_carried (axis : Axis) (position : Position n) (side : Face) :
    (position.carried axis).Touches (side.carried axis) ↔ position.Touches side := by
  obtain ⟨depth, row, col⟩ := position
  cases axis <;> cases side <;> simp only [carried, Face.carried, Touches, Fin.val_rev] <;> omega

theorem cell_carried (axis : Axis) (position : Position n) (side : Face) :
    (position.carried axis).cell (side.carried axis) = Place.carried axis (position.cell side) := by
  obtain ⟨depth, row, col⟩ := position
  cases axis <;> cases side <;> simp [carried, Face.carried, cell, Place.carried]

/-- A block and the cells it shows are carried along together. -/
theorem place?_carried (axis : Axis) (position : Position n) (side : Face) :
    (position.carried axis).place? (side.carried axis) =
      (position.place? side).map (Place.carried axis) := by
  apply Option.ext
  intro place
  rw [place?_eq_some_iff, touches_carried, cell_carried, Option.map_eq_some_iff]
  constructor
  · rintro ⟨touches, rfl⟩
    exact ⟨_, place?_eq_some_iff.mpr ⟨touches, rfl⟩, rfl⟩
  · rintro ⟨_, shown, rfl⟩
    obtain ⟨touches, rfl⟩ := place?_eq_some_iff.mp shown
    exact ⟨touches, rfl⟩

theorem layer_of_place? {axis : Axis} {position : Position n} {side : Face} {place : Place n}
    (shown : position.place? side = some place) : place.layer axis = position.layer axis := by
  obtain ⟨touches, rfl⟩ := place?_eq_some_iff.mp shown
  cases axis <;> cases side <;>
    simp_all [Touches, cell, Place.layer, layer, Fin.ext_iff] <;> omega

theorem place?_quarter_zpow (axis : Axis) (turns : Int) (position : Position n) (side : Face) :
    ((quarter axis ^ turns) position).place? ((Face.quarter axis ^ turns) side) =
      (position.place? side).map (Place.quarter axis ^ turns) := by
  rw [QuarterTurns.zpow_eq_pow_ofInt (quarter_pow_four axis),
    QuarterTurns.zpow_eq_pow_ofInt (Face.quarter_pow_four axis),
    QuarterTurns.zpow_eq_pow_ofInt (Place.quarter_pow_four axis)]
  -- The induction is on the quarter turns; each of them carries block, side and cell together.
  induction (QuarterTurns.ofInt turns).val with
  | zero => simp
  | succ count ih =>
    simp only [pow_succ', Equiv.Perm.mul_apply]
    have step := place?_carried axis ((quarter axis ^ count) position)
      ((Face.quarter axis ^ count) side)
    rw [ih, Option.map_map] at step
    exact step

end Position

namespace Cube

theorem block?_eq_some_iff {cube : Cube n} {position : Position n} {block : Block n} :
    cube.block? position = some block ↔
      BlockKind.ofVisible?
          (Face.all.filterMap fun side => (position.place? side).map cube.get).length =
        some block.kind ∧
      block.position = position ∧
      block.colour? = fun side => (position.place? side).map cube.get := by
  obtain ⟨kind, place, colour?⟩ := block
  simp only [block?, Option.map_eq_some_iff, Block.mk.injEq]
  constructor
  · rintro ⟨_, visible, rfl, rfl, rfl⟩
    exact ⟨visible, rfl, rfl⟩
  · rintro ⟨visible, rfl, rfl⟩
    exact ⟨kind, visible, rfl, rfl, rfl⟩

theorem mem_blocks_iff {cube : Cube n} {block : Block n} :
    block ∈ cube.blocks ↔ cube.block? block.position = some block := by
  simp only [blocks, List.mem_filterMap]
  constructor
  · rintro ⟨position, _, present⟩
    rwa [(block?_eq_some_iff.mp present).2.1]
  · intro present
    refine ⟨block.position, ?_, present⟩
    simp only [Position.all, List.mem_flatMap, List.mem_map, List.mem_finRange, true_and]
    exact ⟨_, _, _, rfl⟩

end Cube

theorem length_filterMap_sides {α : Type} (motion : Equiv.Perm Face) (f : Face → Option α) :
    (Face.all.filterMap fun side => f (motion side)).length = (Face.all.filterMap f).length := by
  have shuffled := map_perm_of_complete (by decide) Face.mem_all motion
  have lengths := (shuffled.filterMap f).length_eq
  rwa [List.filterMap_map] at lengths

namespace Cube

/-- One cube comes from another by turning layers of an axis as a solid: every block of these
layers is found where the rotation takes it, of the same kind and showing on each side what it
showed on the side before, and the other blocks are as they were. -/
structure TurnedRigidly (before after : Cube n) (axis : Axis) (start count : Nat) (turns : Int) :
    Prop where
  turned : ∀ block ∈ before.blocks, InLayers start count (block.position.layer axis) →
    ∃ image, after.block? ((Position.quarter axis ^ turns) block.position) = some image ∧
      image ∈ after.blocks ∧ image.kind = block.kind ∧
      ∀ side, image.colour? ((Face.quarter axis ^ turns) side) = block.colour? side
  kept : ∀ block ∈ before.blocks, ¬ InLayers start count (block.position.layer axis) →
    block ∈ after.blocks

section Sweep

variable (cube : Cube n) {axis : Axis} {start count : Nat} (turns : Int) {position : Position n}

/-- A block in the layers that are swept shows, on the turned side, what it showed before. -/
theorem shown_of_swept (inside : InLayers start count (position.layer axis)) (side : Face) :
    (((Position.quarter axis ^ turns) position).place? ((Face.quarter axis ^ turns) side)).map
        (cube.moved (Place.sweep axis start count ^ turns)).get =
      (position.place? side).map cube.get := by
  rw [Position.place?_quarter_zpow, Option.map_map]
  cases sighted : position.place? side with
  | none => rfl
  | some place =>
    -- The cell lies in the same layer as the block, so it is swept along.
    have swept := Place.sweep_zpow_apply axis start count turns place
    rw [Position.layer_of_place? sighted, if_pos inside] at swept
    simp only [Option.map_some, Function.comp_apply, ← swept, get_moved]

theorem shown_of_unswept (outside : ¬ InLayers start count (position.layer axis)) (side : Face) :
    (position.place? side).map (cube.moved (Place.sweep axis start count ^ turns)).get =
      (position.place? side).map cube.get := by
  cases sighted : position.place? side with
  | none => rfl
  | some place =>
    have swept := Place.sweep_zpow_apply axis start count turns place
    rw [Position.layer_of_place? sighted, if_neg outside] at swept
    have same := cube.get_moved (Place.sweep axis start count ^ turns) place
    rw [swept] at same
    rw [Option.map_some, Option.map_some, same]

end Sweep

/-- Sweeping layers of an axis turns them as a solid. -/
theorem turnedRigidly_moved (cube : Cube n) (axis : Axis) (start count : Nat) (turns : Int) :
    cube.TurnedRigidly (cube.moved (Place.sweep axis start count ^ turns)) axis start count
      turns where
  turned := by
    intro block member inside
    rw [mem_blocks_iff, block?_eq_some_iff] at member
    obtain ⟨visible, -, colours⟩ := member
    have shown := cube.shown_of_swept turns inside
    let image : Block n := ⟨block.kind, (Position.quarter axis ^ turns) block.position,
      fun side => (((Position.quarter axis ^ turns) block.position).place? side).map
        (cube.moved (Place.sweep axis start count ^ turns)).get⟩
    have present : (cube.moved (Place.sweep axis start count ^ turns)).block? image.position =
        some image := by
      rw [block?_eq_some_iff]
      refine ⟨?_, rfl, rfl⟩
      -- As many sides show a cell as before, so the kind is the same.
      rw [← visible, ← length_filterMap_sides (Face.quarter axis ^ turns)]
      simp only [image, shown]
    refine ⟨image, present, mem_blocks_iff.mpr present, rfl, fun side => ?_⟩
    rw [colours]
    exact shown side
  kept := by
    intro block member outside
    rw [mem_blocks_iff] at member ⊢
    rw [← member]
    simp only [block?, cube.shown_of_unswept turns outside]

end Cube

/-- Every way of turning a net that can be read turns layers of the cube as a solid: all layers of
an axis, some inner layers, or the layer of a face in the sense of the face. -/
theorem turns_move_blocks_rigidly {net : Net} {cube : Cube n}
    (valid : net.read none = .ok ⟨n, cube⟩) (turns : Int) :
    (∀ value axis, Axis.ofValue value = .ok axis →
      ∃ moved turned, net.turnWhole value turns = .ok moved ∧
        moved.read none = .ok ⟨n, turned⟩ ∧ cube.TurnedRigidly turned axis 0 n turns) ∧
    (∀ value axis start count, Axis.ofValue value = .ok axis →
      ((∃ moved, net.turnSlice value start count turns = .ok moved) ↔
        1 ≤ start ∧ 1 ≤ count ∧ start + count ≤ (n : Int) - 1) ∧
      ∀ moved, net.turnSlice value start count turns = .ok moved →
        ∃ turned, moved.read none = .ok ⟨n, turned⟩ ∧
          cube.TurnedRigidly turned axis start.toNat count.toNat turns) ∧
    (∀ value face, Face.ofValue value = .ok face →
      ∃ moved turned, net.turnFace value turns = .ok moved ∧
        moved.read none = .ok ⟨n, turned⟩ ∧
        cube.TurnedRigidly turned face.axis (face.layer n) 1 (face.sign * turns)) := by
  refine ⟨fun value axis named => ?_, fun value axis start count named => ⟨?_, ?_⟩,
    fun value face named => ?_⟩
  · exact ⟨_, _, Net.turnWhole_eq valid named turns, Net.read_moved valid _,
      cube.turnedRigidly_moved ..⟩
  · simp only [Net.turnSlice_eq_ok_iff valid named, exists_and_left, exists_eq, and_true]
  · intro moved succeeds
    obtain ⟨-, rfl⟩ := (Net.turnSlice_eq_ok_iff valid named).mp succeeds
    exact ⟨_, Net.read_moved valid _, cube.turnedRigidly_moved ..⟩
  · exact ⟨_, _, Net.turnFace_eq valid named turns, Net.read_moved valid _,
      cube.turnedRigidly_moved ..⟩

theorem turns_move_blocks_rigidly_of_front_turned :
    let cube := (Cube.solved 3).turnFace .front .clockwise
    cube.toNet.read none = .ok ⟨3, cube⟩ ∧
      (∃ moved turned, cube.toNet.turnWhole (.text "Y") 7 = .ok moved ∧
        moved.read none = .ok ⟨3, turned⟩ ∧ cube.TurnedRigidly turned .y 0 3 7) ∧
      (∃ moved turned, cube.toNet.turnSlice (.text "Y") 1 1 7 = .ok moved ∧
        moved.read none = .ok ⟨3, turned⟩ ∧ cube.TurnedRigidly turned .y 1 1 7) ∧
      ∃ moved turned, cube.toNet.turnFace (.text "back") 7 = .ok moved ∧
        moved.read none = .ok ⟨3, turned⟩ ∧ cube.TurnedRigidly turned .z 0 1 (-1 * 7) := by
  intro cube
  have valid : cube.toNet.read none = .ok ⟨3, cube⟩ := by rfl
  obtain ⟨wholes, slices, faces⟩ := turns_move_blocks_rigidly valid 7
  obtain ⟨accepted, turned⟩ := slices (.text "Y") .y 1 1 rfl
  obtain ⟨moved, succeeds⟩ := accepted.mpr (by decide)
  obtain ⟨result, readable, rigid⟩ := turned moved succeeds
  exact ⟨valid, wholes (.text "Y") .y rfl, ⟨moved, result, succeeds, readable, rigid⟩,
    faces (.text "back") .back rfl⟩

end Cubing
