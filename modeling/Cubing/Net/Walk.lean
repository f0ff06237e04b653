import Cubing.Argument
import Cubing.Cube.Block
import Cubing.Net.Basic
import Cubing.Traversal

/-!
# Looking at nets

Traversals of the faces of a net, of the cells of a grid and of the blocks of a
cube, and single cells of a cube. Faces and cells are taken from the net as it
is, so a traversal of a net that is too short fails when it gets there; blocks
are those of a cube, so the net is read first.
-/
namespace Cubing.Net

/-- Pairs the faces with the grids in order; there must be a grid for every face. -/
def pairFaces : List Face → Net → Traversal (Face × List Value)
  | [], _ => .finished
  | _ :: _, [] => .failed .endsEarly
  | face :: faces, grid :: net => .next (face, grid) (pairFaces faces net)

/-- The faces of a net in the order of their numbers. -/
def faces (net : Net) : Traversal (Face × List Value) := pairFaces Face.all net

/-- A cell of a loose grid, by row and column. -/
structure Cell where
  row : Nat
  col : Nat
  value : Value

/-- The cells of a grid of a given size from some row and column on, in reading order. -/
def cellsFrom (size : Nat) : List Value → (row col : Nat) → Traversal Cell
  | [], row, _ => if size ≤ row then .finished else .failed .endsEarly
  | value :: rest, row, col =>
    if size ≤ row then .finished
    else
      .next ⟨row, col, value⟩
        (if col + 1 < size then cellsFrom size rest row (col + 1)
        else cellsFrom size rest (row + 1) 0)

/-- The cells of a grid of a given size, row by row. A grid of no size has no cells. -/
def cells (grid : List Value) (size : Int) : Traversal Cell := cellsFrom size.toNat grid 0 0

/-- The blocks of the cube that a net is. -/
def blocks (net : Net) : Traversal ((n : Nat) × Block n) :=
  match net.read none with
  | .error fault => .failed fault
  | .ok ⟨n, cube⟩ => .ofList (cube.blocks.map fun block => ⟨n, block⟩)

end Cubing.Net

namespace Cubing

/-- Reads a row or column number of a cube of size `n`. -/
def lineOf? (n : Nat) (line : Int) : Option (Fin n) :=
  if h : 0 ≤ line ∧ line < n then some ⟨line.toNat, by omega⟩ else none

/-- The colour of a cell, given by its face, row and column. -/
def Cube.cellAt {n : Nat} (cube : Cube n) (face : Value) (row col : Int) : Except Fault Face := do
  let face ← Face.ofValue face
  match lineOf? n row, lineOf? n col with
  | none, _ => .error (.reported (.rowOutOfRange n row))
  | some _, none => .error (.reported (.columnOutOfRange n col))
  | some row, some col => .ok (cube.get ⟨face, row, col⟩)

def Net.cellAt (net : Net) (face : Value) (row col : Int) : Except Fault Face := do
  let ⟨_, cube⟩ ← net.read none
  cube.cellAt face row col

end Cubing
