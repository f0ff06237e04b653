import Mathlib.Algebra.BigOperators.Fin
import Mathlib.Data.Fintype.BigOperators
import Mathlib.SetTheory.Cardinal.Finite
import Mathlib.Tactic.Ring
import Cubing.Proofs.Net.Visiting
import Cubing.Proofs.Solid.Twist

/-!
# The blocks of a cube

A traversal of the blocks hands out each block on the outside of the cube once, in
the order of depth, row and column. A block lies at as many sides as it has lines
that are the first or the last of the cube (`Position.sides`), which tells its kind
and how many there are of each kind (`Position.sum_sides`). The blocks share the
cells out among them: a block reads a cell on each side that it shows, and every
cell is read once (`Cube.cell_bijective`).
-/
namespace Cubing

variable {n : Nat}

namespace Position

/-- By depth, then by row, then by column. -/
def Before (first second : Position n) : Prop :=
  first.depth < second.depth ∨ first.depth = second.depth ∧
    (first.row < second.row ∨ first.row = second.row ∧ first.col < second.col)

theorem pairwise_all : (all n).Pairwise Before := by
  rw [all, List.pairwise_flatMap]
  refine ⟨fun depth _ => ?_, ?_⟩
  · rw [List.pairwise_flatMap]
    refine ⟨fun row _ => ?_, ?_⟩
    · rw [List.pairwise_map]
      exact (List.pairwise_lt_finRange n).imp fun earlier => .inr ⟨rfl, .inr ⟨rfl, earlier⟩⟩
    · refine (List.pairwise_lt_finRange n).imp fun earlier first inFirst second inSecond => ?_
      simp only [List.mem_map] at inFirst inSecond
      obtain ⟨_, _, rfl⟩ := inFirst
      obtain ⟨_, _, rfl⟩ := inSecond
      exact .inr ⟨rfl, .inl earlier⟩
  · refine (List.pairwise_lt_finRange n).imp fun earlier first inFirst second inSecond => ?_
    simp only [List.mem_flatMap, List.mem_map] at inFirst inSecond
    obtain ⟨_, _, _, _, rfl⟩ := inFirst
    obtain ⟨_, _, _, _, rfl⟩ := inSecond
    exact .inl earlier

/-- Does a block lie on the outside of the cube? -/
def IsOuter (position : Position n) : Prop :=
  ∃ line ∈ [position.depth, position.row, position.col], line.val = 0 ∨ line.val = n - 1

/-- One for the first and the last line of a cube, zero for the others. -/
def outward (line : Fin n) : Nat := if line.val = 0 ∨ line.val = n - 1 then 1 else 0

/-- The number of sides at which a block lies. -/
def sides (position : Position n) : Nat :=
  outward position.depth + outward position.row + outward position.col

theorem Touches.isOuter {position : Position n} {side : Face} (touches : position.Touches side) :
    position.IsOuter := by
  simp only [IsOuter, List.exists_mem_cons_iff]
  cases side <;> simp only [Touches] at touches <;> omega

theorem sides_eq_zero_iff (position : Position n) : position.sides = 0 ↔ ¬ position.IsOuter := by
  simp only [sides, outward, IsOuter, List.exists_mem_cons_iff, List.not_mem_nil]
  split <;> split <;> split <;> simp_all

theorem sides_le (position : Position n) : position.sides ≤ 3 := by
  simp only [sides, outward]
  split <;> split <;> split <;> decide

theorem outward_eq_add (large : 2 ≤ n) {line : Fin n} {first last : Prop} [Decidable first]
    [Decidable last] (isFirst : first ↔ line.val = 0) (isLast : last ↔ line.val + 1 = n) :
    outward line = (if first then 1 else 0) + if last then 1 else 0 := by
  -- The first and the last line are different ones.
  simp only [outward, isFirst, isLast]
  split <;> split <;> split <;> omega

/-- A block lies at a side for each of its lines that is the first or the last. -/
theorem countP_touches (large : 2 ≤ n) (position : Position n) :
    (Face.all.countP fun side => decide (position.Touches side)) = position.sides := by
  have depth : outward position.depth =
      (if position.Touches .front then 1 else 0) + if position.Touches .back then 1 else 0 :=
    outward_eq_add large Iff.rfl Iff.rfl
  have row : outward position.row =
      (if position.Touches .top then 1 else 0) + if position.Touches .bottom then 1 else 0 :=
    outward_eq_add large Iff.rfl Iff.rfl
  have col : outward position.col =
      (if position.Touches .left then 1 else 0) + if position.Touches .right then 1 else 0 :=
    outward_eq_add large Iff.rfl Iff.rfl
  simp only [Face.all, List.countP_cons, List.countP_nil, decide_eq_true_eq]
  rw [sides, depth, row, col]
  omega

section Counting

variable (large : 2 ≤ n) (f : Nat → Nat)
include large

theorem sum_outward : ∑ line : Fin n, f (outward line) = 2 * f 1 + (n - 2) * f 0 := by
  obtain ⟨between, rfl⟩ := Nat.exists_eq_add_of_le' large
  have first : outward (0 : Fin (between + 2)) = 1 := by simp [outward]
  have last : outward (Fin.last between).succ = 1 := by simp [outward]
  have inner (line : Fin between) : outward line.castSucc.succ = 0 := by
    simp only [outward, Fin.val_succ, Fin.val_castSucc]
    rw [if_neg (by omega)]
  rw [Fin.sum_univ_succ, Fin.sum_univ_castSucc]
  simp only [first, last, inner, Finset.sum_const, Finset.card_univ, Fintype.card_fin,
    smul_eq_mul, Nat.add_sub_cancel]
  omega

/-- The three lines of a block. -/
def lines : Position n ≃ Fin n × Fin n × Fin n where
  toFun position := (position.depth, position.row, position.col)
  invFun lines := ⟨lines.1, lines.2.1, lines.2.2⟩
  left_inv _ := rfl
  right_inv _ := rfl

/-- How many blocks lie at three sides, at two, at one and at none. -/
theorem sum_sides :
    ∑ position : Position n, f position.sides =
      8 * f 3 + 12 * (n - 2) * f 2 + 6 * ((n - 2) * (n - 2)) * f 1 +
        (n - 2) * ((n - 2) * (n - 2)) * f 0 := by
  have col (others : Nat) := sum_outward large fun col => f (others + col)
  have row (depth : Nat) := sum_outward large fun row =>
    2 * f (depth + row + 1) + (n - 2) * f (depth + row)
  have depth := sum_outward large fun depth =>
    2 * (2 * f (depth + 2) + (n - 2) * f (depth + 1)) +
      (n - 2) * (2 * f (depth + 1) + (n - 2) * f depth)
  calc
    _ = ∑ depth : Fin n, ∑ row : Fin n, ∑ col : Fin n,
          f (outward depth + outward row + outward col) := by
      rw [← Equiv.sum_comp lines.symm]
      simp only [Fintype.sum_prod_type]
      rfl
    _ = ∑ depth : Fin n,
          (2 * (2 * f (outward depth + 2) + (n - 2) * f (outward depth + 1)) +
            (n - 2) * (2 * f (outward depth + 1) + (n - 2) * f (outward depth))) := by
      simp only [col, Nat.add_zero, row]
    _ = _ := by
      rw [depth]
      ring

end Counting

end Position

theorem BlockKind.sides_injective : Function.Injective sides := by
  intro kind kind' same
  cases kind <;> cases kind' <;> first | rfl | exact absurd same (by decide)

namespace Cube

theorem length_shown (large : 2 ≤ n) (cube : Cube n) (position : Position n) :
    (Face.all.filterMap (cube.shown position)).length = position.sides := by
  simp only [List.length_filterMap_eq_countP, isSome_shown, position.countP_touches large]

/-- The block at a position is of the kind that lies at as many sides. -/
theorem block?_eq_some_iff_sides (large : 2 ≤ n) {cube : Cube n} {position : Position n}
    {block : Block n} :
    cube.block? position = some block ↔ position.sides = block.kind.sides ∧
      block.position = position ∧ block.colour? = cube.shown position := by
  rw [block?_eq_some_iff, BlockKind.ofVisible?_eq_some_iff]
  exact and_congr_left fun _ => by rw [← cube.length_shown large position]; rfl

/-- No block is left out but those inside the cube. -/
theorem block?_eq_none_iff (large : 2 ≤ n) (cube : Cube n) (position : Position n) :
    cube.block? position = none ↔ ¬ position.IsOuter := by
  rw [← position.sides_eq_zero_iff]
  constructor
  · intro absent
    by_contra shows
    have few := position.sides_le
    obtain ⟨kind, number⟩ : ∃ kind : BlockKind, position.sides = kind.sides := by
      obtain one | two | three : position.sides = 1 ∨ position.sides = 2 ∨ position.sides = 3 := by
        omega
      · exact ⟨.center, one⟩
      · exact ⟨.edge, two⟩
      · exact ⟨.corner, three⟩
    have present : cube.block? position = some ⟨kind, position, cube.shown position⟩ :=
      (block?_eq_some_iff_sides large).mpr ⟨number, rfl, rfl⟩
    exact nomatch absent.symm.trans present
  · intro hidden
    rw [Option.eq_none_iff_forall_ne_some]
    intro block present
    rw [block?_eq_some_iff_sides large, hidden] at present
    cases kind : block.kind <;> simp [kind, BlockKind.sides] at present

theorem mem_map_position_iff (large : 2 ≤ n) (cube : Cube n) (position : Position n) :
    position ∈ cube.blocks.map Block.position ↔ position.IsOuter := by
  rw [← not_iff_not (b := position.IsOuter), ← cube.block?_eq_none_iff large,
    Option.eq_none_iff_forall_ne_some, List.mem_map]
  simp only [mem_blocks_iff]
  constructor
  · intro missing block present
    obtain ⟨-, located, -⟩ := block?_eq_some_iff.mp present
    exact missing ⟨block, by rwa [located], located⟩
  · rintro absent ⟨block, present, rfl⟩
    exact absent block present

/-- The sides on which a block shows a colour are as many as its kind says. -/
theorem countP_colour? (large : 2 ≤ n) {cube : Cube n} {block : Block n}
    (member : block ∈ cube.blocks) :
    (Face.all.countP fun side => (block.colour? side).isSome) = block.kind.sides := by
  obtain ⟨number, -, colours⟩ := (block?_eq_some_iff_sides large).mp (mem_blocks_iff.mp member)
  rw [← number, ← block.position.countP_touches large]
  simp only [colours, isSome_shown]

theorem pairwise_blocks (cube : Cube n) :
    cube.blocks.Pairwise fun block later => block.position.Before later.position := by
  rw [blocks, List.pairwise_filterMap]
  refine Position.pairwise_all.imp fun before block here later there => ?_
  rwa [(block?_eq_some_iff.mp here).2.1, (block?_eq_some_iff.mp there).2.1]

/-- How many blocks are of a kind is found by counting the positions that lie at as many sides. -/
theorem countP_kind (large : 2 ≤ n) (cube : Cube n) (kind : BlockKind) :
    (cube.blocks.countP fun block => block.kind = kind) =
      match kind with
      | .corner => 8
      | .edge => 12 * (n - 2)
      | .center => 6 * ((n - 2) * (n - 2)) := by
  have positions : (cube.blocks.countP fun block => block.kind = kind) =
      (Position.all n).countP fun position => position.sides = kind.sides := by
    rw [blocks, List.countP_filterMap]
    refine List.countP_congr fun position _ => ?_
    cases found : cube.block? position with
    | none =>
      have hidden := (cube.block?_eq_none_iff large position).mp found
      rw [position.sides_eq_zero_iff.mpr hidden]
      cases kind <;> simp [BlockKind.sides]
    | some block =>
      obtain ⟨number, -, -⟩ := (block?_eq_some_iff_sides large).mp found
      rw [number, Option.map_some, Option.getD_some, decide_eq_true_eq, decide_eq_true_eq,
        BlockKind.sides_injective.eq_iff]
  calc
    _ = ∑ position : Position n, if position.sides = kind.sides then 1 else 0 := by
      rw [positions, ← Finset.card_filter, List.countP_eq_length_filter]
      rfl
    _ = _ := Position.sum_sides large fun sides => if sides = kind.sides then 1 else 0
    _ = _ := by cases kind <;> simp [BlockKind.sides]

end Cube

/-- The block that shows a cell. -/
def Place.position (cell : Place n) : Position n :=
  have inhabited : 0 < n := by have := cell.row.isLt; omega
  let first : Fin n := ⟨0, inhabited⟩
  match cell with
  | ⟨.left, row, col⟩ => ⟨col.rev, row, first⟩
  | ⟨.front, row, col⟩ => ⟨first, row, col⟩
  | ⟨.right, row, col⟩ => ⟨col, row, first.rev⟩
  | ⟨.back, row, col⟩ => ⟨first.rev, row, col.rev⟩
  | ⟨.top, row, col⟩ => ⟨row.rev, first, col⟩
  | ⟨.bottom, row, col⟩ => ⟨row, first.rev, col⟩

theorem Place.touches_position (cell : Place n) : cell.position.Touches cell.face := by
  obtain ⟨face, row, col⟩ := cell
  have := row.isLt
  cases face <;> simp only [position, Position.Touches, Fin.val_rev] <;> omega

theorem Place.cell_position (cell : Place n) : cell.position.cell cell.face = cell := by
  obtain ⟨face, row, col⟩ := cell
  cases face <;> simp only [position, Position.cell, Fin.rev_rev]

theorem Place.card_eq : Nat.card (Place n) = 6 * (n * n) := by
  let cells : Fintype (Place n) := ⟨⟨Place.all n, Place.nodup_all⟩, Place.mem_all⟩
  rw [Nat.card_eq_fintype_card]
  show (Place.all n).length = 6 * (n * n)
  simp only [Place.all, List.length_flatMap, List.length_map, List.length_finRange,
    List.map_const', List.sum_replicate, smul_eq_mul]
  rfl

/-- A side on which a block of a cube shows a colour. -/
structure Cube.Showing (cube : Cube n) where
  block : Block n
  side : Face
  member : block ∈ cube.blocks
  visible : (block.colour? side).isSome = true

namespace Cube.Showing

variable {cube : Cube n}

/-- The cell that a block reads on a side. -/
def cell (showing : cube.Showing) : Place n := showing.block.position.cell showing.side

theorem touches (showing : cube.Showing) : showing.block.position.Touches showing.side := by
  obtain ⟨-, -, colours⟩ := block?_eq_some_iff.mp (mem_blocks_iff.mp showing.member)
  have visible := showing.visible
  rw [colours] at visible
  exact of_decide_eq_true ((cube.isSome_shown _ _).symm.trans visible)

theorem place?_eq_some (showing : cube.Showing) :
    showing.block.position.place? showing.side = some showing.cell :=
  Position.place?_eq_some_iff.mpr ⟨showing.touches, rfl⟩

theorem colour?_eq_some (showing : cube.Showing) :
    showing.block.colour? showing.side = some (cube.get showing.cell) := by
  obtain ⟨-, -, colours⟩ := block?_eq_some_iff.mp (mem_blocks_iff.mp showing.member)
  rw [colours]
  exact cube.shown_of_touches showing.touches

/-- No cell is shown twice. -/
theorem cell_injective : Function.Injective (cell : cube.Showing → Place n) := by
  intro showing showing' same
  have located := Position.eq_of_cell_eq showing.touches showing'.touches same
  have sides : showing.side = showing'.side := by
    rw [← showing.block.position.face_cell showing.side,
      ← showing'.block.position.face_cell showing'.side]
    exact congrArg Place.face same
  -- There is one block at each position.
  have present := mem_blocks_iff.mp showing.member
  rw [located, mem_blocks_iff.mp showing'.member] at present
  obtain ⟨block, side, member, visible⟩ := showing
  obtain ⟨block', side', member', visible'⟩ := showing'
  obtain rfl : side = side' := sides
  obtain rfl : block' = block := Option.some.inj present
  rfl

/-- Every cell is shown. -/
theorem cell_surjective (large : 2 ≤ n) : Function.Surjective (cell : cube.Showing → Place n) := by
  intro place
  have shown := cube.shown_of_touches place.touches_position
  have outer := place.touches_position.isOuter
  obtain ⟨block, member, located⟩ := List.mem_map.mp ((cube.mem_map_position_iff large _).mpr outer)
  obtain ⟨-, -, colours⟩ := block?_eq_some_iff.mp (mem_blocks_iff.mp member)
  have visible : (block.colour? place.face).isSome = true := by
    rw [colours, located]
    exact Option.isSome_of_eq_some shown
  refine ⟨⟨block, place.face, member, visible⟩, ?_⟩
  show block.position.cell place.face = place
  rw [located, place.cell_position]

theorem card_eq (large : 2 ≤ n) (cube : Cube n) : Nat.card cube.Showing = 6 * (n * n) := by
  rw [Nat.card_eq_of_bijective _ ⟨cell_injective, cell_surjective large⟩, Place.card_eq]

end Cube.Showing

/-- The blocks of a cube make up its outside, and show all of its cells. -/
structure Cube.Covered (cube : Cube n) : Prop where
  order : cube.blocks.Pairwise fun block later => block.position.Before later.position
  outside : ∀ position, position ∈ cube.blocks.map Block.position ↔ position.IsOuter
  /-- What has no block has nothing to show. -/
  inside : ∀ position side, cube.block? position = none → position.place? side = none
  kind : ∀ block ∈ cube.blocks,
    (Face.all.countP fun side => (block.colour? side).isSome) = block.kind.sides
  corners : (cube.blocks.countP fun block => block.kind = .corner) = 8
  edges : (cube.blocks.countP fun block => block.kind = .edge) = 12 * (n - 2)
  centers : (cube.blocks.countP fun block => block.kind = .center) = 6 * ((n - 2) * (n - 2))
  reads : ∀ showing : cube.Showing, showing.cell.face = showing.side ∧
    showing.block.position.place? showing.side = some showing.cell ∧
    showing.block.colour? showing.side = some (cube.get showing.cell)
  once : Function.Bijective (Showing.cell : cube.Showing → Place n)
  number : Nat.card cube.Showing = 6 * (n * n)

theorem Cube.covered (large : 2 ≤ n) (cube : Cube n) : cube.Covered where
  order := cube.pairwise_blocks
  outside := cube.mem_map_position_iff large
  inside position side absent := by
    rw [Option.eq_none_iff_forall_ne_some]
    intro cell shows
    have touches := (Position.place?_eq_some_iff.mp shows).1
    exact (cube.block?_eq_none_iff large position).mp absent touches.isOuter
  kind _ member := countP_colour? large member
  corners := cube.countP_kind large .corner
  edges := cube.countP_kind large .edge
  centers := cube.countP_kind large .center
  reads showing :=
    ⟨Position.face_cell _ _, showing.place?_eq_some, showing.colour?_eq_some⟩
  once := ⟨Showing.cell_injective, Showing.cell_surjective large⟩
  number := Showing.card_eq large cube

/-- A traversal of the blocks is never broken off. It hands out the blocks on the outside of the
cube, and these show every cell once, on the side of its own face. -/
theorem blocks_show_every_cell_once {net : Net} {cube : Cube n}
    (valid : net.read none = .ok ⟨n, cube⟩) :
    net.blocks.observe none = (cube.blocks.map fun block => ⟨n, block⟩, .ok .goOn) ∧
      cube.Covered := by
  obtain ⟨-, large, -⟩ := Net.read_eq_ok_iff.mp valid
  refine ⟨?_, cube.covered large⟩
  rw [Net.observe_blocks, valid]

theorem blocks_show_every_cell_once_with_front_turned :
    let cube := (Cube.solved 4).turnFace .front .clockwise
    let net := cube.toNet
    net.read none = .ok ⟨4, cube⟩ ∧
      net.blocks.observe none = (cube.blocks.map fun block => ⟨4, block⟩, .ok .goOn) ∧
      cube.Covered := by
  intro cube net
  have valid : net.read none = .ok ⟨4, cube⟩ := by rfl
  exact ⟨valid, blocks_show_every_cell_once valid⟩

end Cubing
