/-!
# Faces

The six faces of the cube, laid out as a cross: Top above Front, Bottom below
Front, and Left, Front, Right, Back as a horizontal band. A face also serves
as a colour, namely the one it shows on a solved cube, and its number is the
value by which that colour is written down.
-/
namespace Cubing

/-- A face of the cube, and equally the colour of that face on a solved cube. -/
inductive Face where
  | left
  | front
  | right
  | back
  | top
  | bottom
deriving DecidableEq, Repr

namespace Face

/-- The faces in the order of their numbers. -/
def all : List Face := [.left, .front, .right, .back, .top, .bottom]

/-- Numbers run from 1 to 6. -/
def number : Face → Nat
  | .left => 1
  | .front => 2
  | .right => 3
  | .back => 4
  | .top => 5
  | .bottom => 6

/-- Where the grid of a face stands among the six grids. -/
def index (face : Face) : Nat := face.number - 1

def name : Face → String
  | .left => "Left"
  | .front => "Front"
  | .right => "Right"
  | .back => "Back"
  | .top => "Top"
  | .bottom => "Bottom"

def ofNumber? (number : Int) : Option Face :=
  all.find? fun face => (face.number : Int) = number

theorem mem_all (face : Face) : face ∈ all := by
  cases face <;> decide

theorem ofNumber?_number (face : Face) : ofNumber? face.number = some face := by
  cases face <;> decide

theorem number_of_ofNumber? {number : Int} {face : Face} (h : ofNumber? number = some face) :
    number = face.number := by
  have found := List.find?_some h
  simpa using (of_decide_eq_true found).symm

def opposite : Face → Face
  | .left => .right
  | .right => .left
  | .front => .back
  | .back => .front
  | .top => .bottom
  | .bottom => .top

end Face

end Cubing
