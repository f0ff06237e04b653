import Mathlib.Data.List.Basic
import Mathlib.Data.List.FinRange
import Cubing.Net.Walk

/-!
# Rows

Lists that are made of rows of one length, such as the grid of a face or the lines of all faces. An
item is found by its row and its place in the row (`getElem?_flatMap`), and what is found at every
row and column is all that there is (`eq_rows`). So a grid is what stands on the cells of a face
(`Face.gridOf`).
-/
namespace Cubing

section Lists

variable {α β : Type}

theorem getElem?_flatMap {rows : List α} {f : α → List β} {width : Nat}
    (even : ∀ row ∈ rows, (f row).length = width) (i : Nat) {k : Nat} (inside : k < width) :
    (rows.flatMap f)[i * width + k]? = rows[i]?.bind fun row => (f row)[k]? := by
  induction rows generalizing i with
  | nil => rfl
  | cons row rows ih =>
    obtain ⟨first, later⟩ := List.forall_mem_cons.mp even
    rw [List.flatMap_cons]
    cases i with
    | zero =>
      rw [Nat.zero_mul, Nat.zero_add, List.getElem?_append_left (first ▸ inside)]
      rfl
    | succ i =>
      have behind : (i + 1) * width + k = (f row).length + (i * width + k) := by
        rw [Nat.succ_mul, first]
        omega
      rw [behind, List.getElem?_append_right (Nat.le_add_right _ _), Nat.add_sub_cancel_left,
        ih later, List.getElem?_cons_succ]

/-- A square list is known from what stands at each row and column. -/
theorem eq_rows {n : Nat} {items : List β} {f : Fin n → Fin n → β}
    (length : items.length = n * n)
    (stands : ∀ row col : Fin n, items[row.val * n + col.val]? = some (f row col)) :
    items = (List.finRange n).flatMap fun row => (List.finRange n).map (f row) := by
  have even : ∀ row ∈ List.finRange n, ((List.finRange n).map (f row)).length = n := by simp
  apply List.ext_getElem?
  intro position
  by_cases inside : position < n * n
  · have size : 0 < n := Nat.pos_of_mul_pos_left (Nat.zero_lt_of_lt inside)
    obtain ⟨row, col, rfl⟩ : ∃ row col : Fin n, position = row.val * n + col.val :=
      ⟨⟨position / n, Nat.div_lt_of_lt_mul inside⟩, ⟨position % n, Nat.mod_lt _ size⟩,
        (Nat.div_add_mod' ..).symm⟩
    rw [stands, getElem?_flatMap even _ col.isLt]
    simp
  · have length' : ((List.finRange n).flatMap fun row => (List.finRange n).map (f row)).length =
        n * n := by
      simp
    rw [List.getElem?_eq_none (by omega), List.getElem?_eq_none (by omega)]

end Lists

section Grids

variable {n : Nat} {α : Type}

/-- What stands on the cells of a face, row by row. -/
def Face.gridOf (face : Face) (value : Place n → α) : List α :=
  (List.finRange n).flatMap fun row => (List.finRange n).map fun col => value ⟨face, row, col⟩

theorem Face.length_gridOf (face : Face) (value : Place n → α) :
    (face.gridOf value).length = n * n := by
  simp [gridOf]

theorem Face.getElem?_gridOf (face : Face) (value : Place n → α) (row col : Fin n) :
    (face.gridOf value)[row.val * n + col.val]? = some (value ⟨face, row, col⟩) := by
  rw [gridOf, getElem?_flatMap (by simp) _ col.isLt]
  simp

/-- In a square list something stands on every cell. -/
theorem Face.exists_gridOf (face : Face) {grid : List α} (length : grid.length = n * n) :
    ∃ value : Place n → α, grid = face.gridOf value := by
  have inside (place : Place n) : place.offset < grid.length := length ▸ place.offset_lt
  exact ⟨fun place => grid.get ⟨place.offset, inside place⟩,
    eq_rows length fun row col => List.getElem?_eq_getElem (inside ⟨face, row, col⟩)⟩

theorem Cube.getElem?_grid (cube : Cube n) (face : Face) (row col : Fin n) :
    (cube.grid face).toList[row.val * n + col.val]? = some (cube.get ⟨face, row, col⟩) := by
  have inside := (Place.mk face row col).offset_lt
  rw [get, Vector.getElem?_toList]
  exact Vector.getElem?_eq_getElem inside

theorem Cube.toList_grid (cube : Cube n) (face : Face) :
    (cube.grid face).toList = face.gridOf cube.get :=
  eq_rows Vector.length_toList (cube.getElem?_grid face)

end Grids

end Cubing
