import Cubing.Face

/-!
# Coloured cubes

A cube of size `n` shows `n * n` cells on each of its six faces. `Place n` names
a cell by its face, its row from the top and its column from the left of that
face, and `Cube n` gives every place a colour. Any colouring is a `Cube`; which
colourings a puzzle can have is the business of `Cube.Balanced`.

A cube is stored face by face and row by row. Two cubes are equal when they have
the same colour at every place (`Cube.ext_get`), and the operations are described
by the colour they give each place.
-/
namespace Cubing

/-- A cell of a cube of size `n`. -/
structure Place (n : Nat) where
  face : Face
  row : Fin n
  col : Fin n
deriving DecidableEq, Repr

/-- The colours of one face, row by row. -/
abbrev Grid (n : Nat) := Vector Face (n * n)

namespace Place

variable {n : Nat}

/-- Where a cell stands in the grid of its face. -/
def offset (place : Place n) : Nat := place.row * n + place.col

theorem offset_lt (place : Place n) : place.offset < n * n := by
  have row : place.row.val + 1 ≤ n := place.row.isLt
  have col := place.col.isLt
  have rows : (place.row.val + 1) * n ≤ n * n := Nat.mul_le_mul_right n row
  rw [Nat.add_mul] at rows
  simp only [offset]
  omega

/-- The cell of a face at a position of its grid. -/
def ofOffset (face : Face) (offset : Fin (n * n)) : Place n :=
  ⟨face, ⟨offset / n, Nat.div_lt_of_lt_mul offset.isLt⟩,
    ⟨offset % n, Nat.mod_lt _ (Nat.pos_of_mul_pos_left (Nat.zero_lt_of_lt offset.isLt))⟩⟩

theorem ofOffset_offset (place : Place n) :
    ofOffset place.face ⟨place.offset, place.offset_lt⟩ = place := by
  obtain ⟨face, row, col⟩ := place
  have size : 0 < n := Nat.zero_lt_of_lt col.isLt
  simp only [ofOffset, offset, mk.injEq, true_and]
  constructor
  · apply Fin.ext
    rw [Fin.val_mk, Nat.mul_comm, Nat.mul_add_div size, Nat.div_eq_of_lt col.isLt, Nat.add_zero]
  · apply Fin.ext
    rw [Fin.val_mk, Nat.mul_comm, Nat.mul_add_mod, Nat.mod_eq_of_lt col.isLt]

theorem offset_ofOffset (face : Face) (position : Fin (n * n)) :
    (ofOffset face position).offset = position := by
  simp only [ofOffset, offset]
  rw [Nat.mul_comm]
  exact Nat.div_add_mod _ _

theorem offset_injective {first second : Place n} (faces : first.face = second.face)
    (h : first.offset = second.offset) : first = second := by
  rw [← ofOffset_offset first, ← ofOffset_offset second]
  simp only [faces, h]

end Place

/-- The colours of the six faces of a cube of size `n`. -/
structure Cube (n : Nat) where
  left : Grid n
  front : Grid n
  right : Grid n
  back : Grid n
  top : Grid n
  bottom : Grid n
deriving DecidableEq

namespace Cube

variable {n : Nat}

def grid (cube : Cube n) : Face → Grid n
  | .left => cube.left
  | .front => cube.front
  | .right => cube.right
  | .back => cube.back
  | .top => cube.top
  | .bottom => cube.bottom

def withGrid (cube : Cube n) (face : Face) (grid : Grid n) : Cube n :=
  match face with
  | .left => { cube with left := grid }
  | .front => { cube with front := grid }
  | .right => { cube with right := grid }
  | .back => { cube with back := grid }
  | .top => { cube with top := grid }
  | .bottom => { cube with bottom := grid }

def ofGrids (grids : Face → Grid n) : Cube n :=
  ⟨grids .left, grids .front, grids .right, grids .back, grids .top, grids .bottom⟩

def get (cube : Cube n) (place : Place n) : Face :=
  have inside := place.offset_lt
  (cube.grid place.face)[place.offset]

def set (cube : Cube n) (place : Place n) (colour : Face) : Cube n :=
  cube.withGrid place.face ((cube.grid place.face).set place.offset colour place.offset_lt)

/-- The cube with the given colour at each place. -/
def ofFn (colour : Place n → Face) : Cube n :=
  ofGrids fun face => Vector.ofFn fun position => colour (Place.ofOffset face position)

/-- Each face of a solved cube shows its own colour. -/
def solved (n : Nat) : Cube n := ofGrids fun face => Vector.replicate (n * n) face

def isUniform (cube : Cube n) : Bool :=
  Face.all.all fun face =>
    -- A grid without cells has no head and nothing to compare with it.
    let cells := (cube.grid face).toList
    cells.all fun colour => some colour = cells.head?

/-- The colours of all cells, face by face and row by row. -/
def cells (cube : Cube n) : List Face := Face.all.flatMap fun face => (cube.grid face).toList

def count (cube : Cube n) (colour : Face) : Nat := cube.cells.count colour

/-- Every colour appears as often as a face has cells. -/
def Balanced (cube : Cube n) : Prop := ∀ colour, cube.count colour = n * n

@[simp] theorem grid_ofGrids (grids : Face → Grid n) (face : Face) :
    (ofGrids grids).grid face = grids face := by
  cases face <;> rfl

@[simp] theorem grid_withGrid (cube : Cube n) (face other : Face) (grid : Grid n) :
    (cube.withGrid face grid).grid other = if face = other then grid else cube.grid other := by
  cases face <;> cases other <;> rfl

@[simp] theorem get_ofFn (colour : Place n → Face) (place : Place n) :
    (ofFn colour).get place = colour place := by
  simp only [get, ofFn, grid_ofGrids, Vector.getElem_ofFn]
  rw [Place.ofOffset_offset]

@[simp] theorem get_solved (place : Place n) : (solved n).get place = place.face := by
  simp [get, solved]

theorem get_set (cube : Cube n) (place other : Place n) (colour : Face) :
    (cube.set place colour).get other = if place = other then colour else cube.get other := by
  simp only [get, set, grid_withGrid]
  by_cases same : place = other
  · subst same
    simp
  · by_cases faces : place.face = other.face
    · have offsets : place.offset ≠ other.offset :=
        fun h => same (Place.offset_injective faces h)
      simp [same, faces, offsets]
    · simp [same, faces]

theorem grid_ext {first second : Cube n} (h : ∀ face, first.grid face = second.grid face) :
    first = second := by
  have left := h .left
  have front := h .front
  have right := h .right
  have back := h .back
  have top := h .top
  have bottom := h .bottom
  cases first
  cases second
  simp_all [grid]

/-- Cubes with the same colour at every place are equal. -/
theorem ext_get {first second : Cube n} (h : ∀ place, first.get place = second.get place) :
    first = second := by
  apply grid_ext
  intro face
  apply Vector.ext
  intro i hi
  have := h (Place.ofOffset face ⟨i, hi⟩)
  simp only [get, Place.offset_ofOffset] at this
  exact this

end Cube

end Cubing
