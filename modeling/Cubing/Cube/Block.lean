import Cubing.Cube.Basic

/-!
# Blocks

The cube seen as a solid: `n * n * n` blocks, of which those on the outside show
one to three cells. A block is placed by its depth from the front, its row from
the top and its column from the left, and shows a cell on each face that it
lies at.
-/
namespace Cubing

/-- The position of a block inside a cube of size `n`. -/
structure Position (n : Nat) where
  depth : Fin n
  row : Fin n
  col : Fin n
deriving DecidableEq, Repr

namespace Position

variable {n : Nat}

/-- The cell that a block shows on a side, if it lies at that side. -/
def place? (position : Position n) (side : Face) : Option (Place n) :=
  let ⟨depth, row, col⟩ := position
  match side with
  | .left => if col.val = 0 then some ⟨.left, row, depth.rev⟩ else none
  | .front => if depth.val = 0 then some ⟨.front, row, col⟩ else none
  | .right => if col.val + 1 = n then some ⟨.right, row, depth⟩ else none
  | .back => if depth.val + 1 = n then some ⟨.back, row, col.rev⟩ else none
  | .top => if row.val = 0 then some ⟨.top, depth.rev, col⟩ else none
  | .bottom => if row.val + 1 = n then some ⟨.bottom, depth, col⟩ else none

/-- All positions, by depth, then by row, then by column. -/
def all (n : Nat) : List (Position n) :=
  (List.finRange n).flatMap fun depth =>
    (List.finRange n).flatMap fun row =>
      (List.finRange n).map fun col => ⟨depth, row, col⟩

end Position

/-- The kinds of blocks, by the number of cells they show. -/
inductive BlockKind where
  | center
  | edge
  | corner
deriving DecidableEq, Repr

namespace BlockKind

def name : BlockKind → String
  | .center => "Center"
  | .edge => "Edge"
  | .corner => "Corner"

/-- The kind of a block that shows so many cells. A block inside the cube shows none. -/
def ofVisible? : Nat → Option BlockKind
  | 1 => some .center
  | 2 => some .edge
  | 3 => some .corner
  | _ => none

end BlockKind

/-- A block on the outside of a cube, with the colour it shows on each side. -/
structure Block (n : Nat) where
  kind : BlockKind
  position : Position n
  colour? : Face → Option Face

namespace Cube

variable {n : Nat}

/-- The block at a position, unless it lies inside the cube. -/
def block? (cube : Cube n) (position : Position n) : Option (Block n) :=
  let colour? side := (position.place? side).map cube.get
  let visible := (Face.all.filterMap colour?).length
  (BlockKind.ofVisible? visible).map fun kind => ⟨kind, position, colour?⟩

/-- The blocks on the outside, by depth, then by row, then by column. -/
def blocks (cube : Cube n) : List (Block n) := (Position.all n).filterMap cube.block?

end Cube

end Cubing
