import Cubing.Cube.Basic
import Cubing.Fault

/-!
# Nets

A net is a cube unfolded: a list of grids, each a list of cells, as they come
from outside, with nothing known about their number or their values. Reading a
net checks it: six square grids of one size, the numbers of the six colours in
every cell, and each colour as often as a face has cells. What is read is a cube
of known size.
-/
namespace Cubing

/-- Grids of cells, of any number, length and content. -/
abbrev Net := List (List Value)

structure SizedCube where
  size : Nat
  cube : Cube size

/-- The cells of a cube, face by face and row by row. -/
def Cube.toNet {n : Nat} (cube : Cube n) : Net :=
  Face.all.map fun face => (cube.grid face).toList.map fun colour => .int colour.number

namespace Net

/-- The greatest number whose square is at most `n`. -/
def squareRoot : Nat → Nat
  | 0 => 0
  | n + 1 =>
    let root := squareRoot n
    if (root + 1) * (root + 1) ≤ n + 1 then root + 1 else root

def minSize : Nat := 2

/-- The size of the cube that the first grid belongs to. -/
def size : Net → Except Fault Nat
  | [] => .error .noFaces
  | first :: _ =>
    let cells := first.length
    let root := squareRoot cells
    if root * root = cells ∧ minSize ≤ root then .ok root else .error (.notSquare cells)

/-- Reads a cell of the grid of a face. -/
def readCell (face : Face) : Value → Except Fault Face
  | .int number =>
    match Face.ofNumber? number with
    | some colour => .ok colour
    | none => .error (.reported (.cellOutOfRange face number))
  | value => .error (.reported (.cellNotInteger face value))

/-- Reads the cells of a grid in order, up to the first that holds no colour. -/
def readCells (face : Face) :
    (cells : List Value) → Except Fault { colours : List Face // colours.length = cells.length }
  | [] => .ok ⟨[], rfl⟩
  | cell :: cells =>
    match readCell face cell with
    | .error fault => .error fault
    | .ok colour =>
      match readCells face cells with
      | .error fault => .error fault
      | .ok ⟨colours, length⟩ => .ok ⟨colour :: colours, by simp [length]⟩

/-- Reads the grid of a face of a cube of size `n`. -/
def readGrid (n : Nat) (face : Face) (cells : List Value) : Except Fault (Grid n) :=
  if fits : cells.length = n * n then
    match readCells face cells with
    | .error fault => .error fault
    | .ok ⟨colours, length⟩ => .ok ⟨colours.toArray, by simp [length, fits]⟩
  else .error (.cellCount face (n * n) cells.length)

/-- Checks that every colour appears as often as a face has cells. -/
def checkCounts {n : Nat} (cube : Cube n) : Except Fault Unit :=
  match Face.all.find? fun colour => cube.count colour ≠ n * n with
  | some colour => .error (.colourCount colour (n * n) (cube.count colour))
  | none => .ok ()

/-- Checks that a size is the one asked for, if one is. -/
def checkSize (size : Nat) : Option Int → Except Fault Unit
  | some expected =>
    if (size : Int) = expected then .ok () else .error (.reported (.sizeDiffers expected size))
  | none => .ok ()

/-- Reads a net as a cube, of a given size if one is asked for. -/
def read (net : Net) (expected : Option Int) : Except Fault SizedCube :=
  match net with
  | [left, front, right, back, top, bottom] => do
    -- Nothing about the cells is looked at before the size of the whole is settled.
    let n ← size net
    checkSize n expected
    let left ← readGrid n .left left
    let front ← readGrid n .front front
    let right ← readGrid n .right right
    let back ← readGrid n .back back
    let top ← readGrid n .top top
    let bottom ← readGrid n .bottom bottom
    let cube : Cube n := ⟨left, front, right, back, top, bottom⟩
    checkCounts cube
    .ok ⟨n, cube⟩
  | _ => .error (.faceCount net.length)

/-- Checks that a net is a cube and gives its size. -/
def validate (net : Net) (expected : Option Int) : Except Fault Nat :=
  (·.size) <$> net.read expected

/-- The net of a solved cube, if the size is an integer of at least 2. -/
def solvedOfSize : Value → Except Fault SizedCube
  | .int size =>
    if 2 ≤ size then .ok ⟨size.toNat, .solved size.toNat⟩
    else .error (.reported (.badSize (.int size)))
  | value => .error (.reported (.badSize value))

end Net

end Cubing
