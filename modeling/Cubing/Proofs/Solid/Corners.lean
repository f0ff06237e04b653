import Mathlib.Data.Fintype.Basic
import Cubing.Proofs.Solid.Handedness

/-!
# Corners

Whatever the size of a cube, its corners are those of a cube of size two, drawn
apart (`Corner.position`), and they lie at the same sides and turn in the same
way. The corners are the blocks that show three cells (`Cube.corners_perm`).
-/
namespace Cubing

variable {n : Nat}

namespace Position

theorem mem_all (position : Position n) : position ∈ all n := by
  simp only [all, List.mem_flatMap, List.mem_map, List.mem_finRange, true_and]
  exact ⟨_, _, _, rfl⟩

/-- Lists that can be told apart by a key put one after the other repeat nothing. -/
theorem nodup_flatMap_of_key {α : Type} {f : Fin n → List α} (key : α → Fin n)
    (each : ∀ i, (f i).Nodup) (keyed : ∀ i, ∀ a ∈ f i, key a = i) :
    ((List.finRange n).flatMap f).Nodup := by
  rw [List.nodup_flatMap]
  refine ⟨fun i _ => each i, (List.nodup_finRange n).imp ?_⟩
  intro i j different a first second
  exact different ((keyed i a first).symm.trans (keyed j a second))

theorem nodup_all : (all n).Nodup := by
  refine nodup_flatMap_of_key Position.depth (fun depth => ?_) ?_
  · refine nodup_flatMap_of_key Position.row (fun row => ?_) ?_
    · exact (List.nodup_finRange n).map fun _ _ same => (Position.mk.inj same).2.2
    · simp
  · intro depth position member
    simp only [List.mem_flatMap, List.mem_map] at member
    obtain ⟨_, _, _, _, rfl⟩ := member
    rfl

instance : Fintype (Position n) := ⟨⟨all n, nodup_all⟩, mem_all⟩

instance (position : Position n) (side : Face) : Decidable (position.Touches side) :=
  match side with
  | .left | .front | .right | .back | .top | .bottom => inferInstanceAs (Decidable (_ = _))

end Position

/-- A corner of a cube of any size, named by its position in a cube of size two. -/
abbrev Corner := Position 2

namespace Corner

/-- The first or the last layer of an axis. -/
def outer (large : 2 ≤ n) (last : Fin 2) : Fin n :=
  if last = 0 then ⟨0, by omega⟩ else ⟨n - 1, by omega⟩

theorem val_outer (large : 2 ≤ n) (last : Fin 2) :
    (outer large last).val = if last.val = 0 then 0 else n - 1 := by
  match last with
  | 0 => rfl
  | 1 => rfl

theorem outer_rev (large : 2 ≤ n) (last : Fin 2) :
    outer large last.rev = (outer large last).rev := by
  apply Fin.ext
  rw [Fin.val_rev, val_outer, val_outer, Fin.val_rev]
  have := last.isLt
  split <;> split <;> omega

/-- The position of a corner in a cube of some size. -/
def position (large : 2 ≤ n) (corner : Corner) : Position n :=
  ⟨outer large corner.depth, outer large corner.row, outer large corner.col⟩

variable (large : 2 ≤ n)

theorem position_injective : Function.Injective (position large) := by
  intro first second same
  have apart (last last' : Fin 2) (equal : outer large last = outer large last') :
      last = last' := by
    have values := congrArg Fin.val equal
    rw [val_outer, val_outer] at values
    have := last.isLt
    have := last'.isLt
    apply Fin.ext
    split at values <;> split at values <;> omega
  obtain ⟨depth, row, col⟩ := first
  obtain ⟨depth', row', col'⟩ := second
  simp only [position, Position.mk.injEq] at same
  rw [apart _ _ same.1, apart _ _ same.2.1, apart _ _ same.2.2]

theorem position_carried (axis : Axis) (corner : Corner) :
    (position large corner).carried axis = position large (corner.carried axis) := by
  obtain ⟨depth, row, col⟩ := corner
  cases axis <;> simp only [position, Position.carried, outer_rev]

theorem layer_position (axis : Axis) (corner : Corner) :
    (position large corner).layer axis = outer large (corner.layer axis) := by
  obtain ⟨depth, row, col⟩ := corner
  cases axis <;> simp only [position, Position.layer, outer_rev]

theorem touches_position (corner : Corner) (side : Face) :
    (position large corner).Touches side ↔ corner.Touches side := by
  obtain ⟨depth, row, col⟩ := corner
  have := depth.isLt
  have := row.isLt
  have := col.isLt
  cases side <;> simp only [position, Position.Touches, val_outer] <;> split <;> omega

/-- Three sides that meet in a corner meet in one of the eight corners. -/
theorem exists_touches {first second third : Face}
    (clockwise : Face.Clockwise first second third) :
    ∃ corner : Corner, corner.Touches first ∧ corner.Touches second ∧ corner.Touches third := by
  obtain ⟨apart, rfl⟩ := clockwise
  revert apart
  cases first <;> cases second <;> decide

/-- The blocks that lie at an end of each axis are those in the corners. -/
theorem exists_position_iff (position : Position n) :
    (∃ corner, Corner.position large corner = position) ↔
      (position.Touches .top ∨ position.Touches .bottom) ∧
      (position.Touches .left ∨ position.Touches .right) ∧
      (position.Touches .front ∨ position.Touches .back) := by
  have ends (line : Fin n) :
      (∃ last, outer large last = line) ↔ line.val = 0 ∨ line.val + 1 = n := by
    constructor
    · rintro ⟨last, rfl⟩
      rw [val_outer]
      split <;> omega
    · rintro (first | last)
      · exact ⟨0, Fin.ext first.symm⟩
      · exact ⟨1, Fin.ext (by rw [val_outer]; simp; omega)⟩
  simp only [Position.Touches, ← ends]
  constructor
  · rintro ⟨⟨depth, row, col⟩, rfl⟩
    exact ⟨⟨row, rfl⟩, ⟨col, rfl⟩, ⟨depth, rfl⟩⟩
  · obtain ⟨depth, row, col⟩ := position
    rintro ⟨⟨row, rfl⟩, ⟨col, rfl⟩, ⟨depth, rfl⟩⟩
    exact ⟨⟨depth, row, col⟩, rfl⟩

end Corner

/-- The number of cells that a block of a kind shows. -/
def BlockKind.sides : BlockKind → Nat
  | .center => 1
  | .edge => 2
  | .corner => 3

theorem BlockKind.ofVisible?_eq_some_iff {visible : Nat} {kind : BlockKind} :
    ofVisible? visible = some kind ↔ visible = kind.sides := by
  match visible with
  | 0 | 1 | 2 | 3 | _ + 4 => cases kind <;> simp [ofVisible?, sides]

namespace Cube

theorem isSome_shown (cube : Cube n) (position : Position n) (side : Face) :
    (cube.shown position side).isSome = decide (position.Touches side) := by
  obtain ⟨depth, row, col⟩ := position
  cases side <;> simp only [shown, Position.place?, Position.Touches] <;> split <;> simp_all

/-- Only the blocks in the corners show three cells. -/
theorem visible_eq_three_iff (large : 2 ≤ n) (cube : Cube n) (position : Position n) :
    (Face.all.filterMap (cube.shown position)).length = 3 ↔
      ∃ corner, Corner.position large corner = position := by
  rw [Corner.exists_position_iff, List.length_filterMap_eq_countP]
  -- Both ends of an axis are never the same, so a block shows at most one cell for each axis.
  have vertical : ¬ (position.Touches .top ∧ position.Touches .bottom) := by
    simp only [Position.Touches]
    omega
  have across : ¬ (position.Touches .left ∧ position.Touches .right) := by
    simp only [Position.Touches]
    omega
  have along : ¬ (position.Touches .front ∧ position.Touches .back) := by
    simp only [Position.Touches]
    omega
  simp only [isSome_shown, Face.all, List.countP_cons, List.countP_nil, decide_eq_true_eq]
  grind

/-- The block in a corner. -/
def cornerBlock (large : 2 ≤ n) (cube : Cube n) (corner : Corner) : Block n :=
  ⟨.corner, Corner.position large corner, cube.shown (Corner.position large corner)⟩

theorem mem_corners_iff (large : 2 ≤ n) {cube : Cube n} {block : Block n} :
    block ∈ cube.blocks ∧ block.kind = .corner ↔
      ∃ corner, cube.cornerBlock large corner = block := by
  rw [mem_blocks_iff, block?_eq_some_iff]
  constructor
  · rintro ⟨⟨visible, -, colours⟩, isCorner⟩
    rw [isCorner, BlockKind.ofVisible?_eq_some_iff] at visible
    obtain ⟨corner, located⟩ := (visible_eq_three_iff large cube block.position).mp visible
    obtain ⟨kind, position, colour?⟩ := block
    simp only at isCorner located colours
    subst isCorner located colours
    exact ⟨corner, rfl⟩
  · rintro ⟨corner, rfl⟩
    have visible := (visible_eq_three_iff large cube (corner.position large)).mpr ⟨corner, rfl⟩
    exact ⟨⟨BlockKind.ofVisible?_eq_some_iff.mpr visible, rfl, rfl⟩, rfl⟩

theorem nodup_blocks (cube : Cube n) : cube.blocks.Nodup := by
  refine Position.nodup_all.filterMap fun first second block here there => ?_
  rw [← (block?_eq_some_iff.mp here).2.1, ← (block?_eq_some_iff.mp there).2.1]

/-- The corners of a cube, in some order. -/
theorem corners_perm (large : 2 ≤ n) (cube : Cube n) :
    (cube.blocks.filter fun block => block.kind = .corner).Perm
      ((Position.all 2).map (cube.cornerBlock large)) := by
  rw [List.perm_ext_iff_of_nodup (cube.nodup_blocks.filter _)]
  · intro block
    simp only [List.mem_filter, decide_eq_true_eq, mem_corners_iff large, List.mem_map,
      Position.mem_all, true_and]
  · refine Position.nodup_all.map fun first second same => ?_
    exact Corner.position_injective large (congrArg Block.position same)

end Cube

end Cubing
