import Mathlib.Data.List.Nodup
import Cubing.Proofs.Turn.Motion

/-!
# Cubes carried along

Turning a cube carries its colours along a motion of the cells. The colours as
such stay the same, so a cube that has every colour as often as a face has cells
keeps this property (`Balanced.moved`).
-/
namespace Cubing

variable {n : Nat}

/-- A list without repetition in which nothing is missing is only put into another order. -/
theorem map_perm_of_complete {α : Type} {all : List α} (nodup : all.Nodup)
    (complete : ∀ a, a ∈ all) (motion : Equiv.Perm α) : (all.map motion).Perm all := by
  rw [List.perm_ext_iff_of_nodup (nodup.map motion.injective) nodup]
  intro a
  simp only [complete, iff_true, List.mem_map, true_and]
  exact motion.surjective a

/-- All cells, face by face and row by row. -/
def Place.all (n : Nat) : List (Place n) :=
  Face.all.flatMap fun face => (List.finRange (n * n)).map (Place.ofOffset face)

theorem Place.mem_all (place : Place n) : place ∈ Place.all n := by
  simp only [Place.all, List.mem_flatMap, List.mem_map, List.mem_finRange, true_and]
  exact ⟨place.face, Face.mem_all _, ⟨place.offset, place.offset_lt⟩, place.ofOffset_offset⟩

theorem Place.nodup_all : (Place.all n).Nodup := by
  rw [Place.all, List.nodup_flatMap]
  constructor
  -- Cells of one face differ in their offsets, cells of two faces in their faces.
  · intro face _
    refine (List.nodup_finRange _).map fun first second same => ?_
    have offsets := congrArg Place.offset same
    rw [Place.offset_ofOffset, Place.offset_ofOffset] at offsets
    exact Fin.ext offsets
  · refine List.Pairwise.imp ?_ (by decide : Face.all.Nodup)
    intro first second different place inFirst inSecond
    simp only [List.mem_map] at inFirst inSecond
    obtain ⟨_, _, rfl⟩ := inFirst
    obtain ⟨_, _, same⟩ := inSecond
    exact different (congrArg Place.face same).symm

namespace Cube

theorem cells_eq_map_get (cube : Cube n) : cube.cells = (Place.all n).map cube.get := by
  rw [cells, Place.all, List.map_flatMap]
  congr 1
  funext face
  apply List.ext_getElem
  · simp
  · intro i inGrid inPlaces
    -- The cell at a position of the grid is the place with this offset.
    have cells : i < n * n := by simpa using inGrid
    have position := Place.offset_ofOffset face ⟨i, cells⟩
    simp only [Vector.getElem_toList, List.getElem_map, List.getElem_finRange, get]
    simp only [Fin.cast_mk, position]
    rfl

/-- The cube whose colours have been carried along a motion of the cells. -/
def moved (cube : Cube n) (motion : Equiv.Perm (Place n)) : Cube n :=
  ofFn fun place => cube.get (motion.symm place)

@[simp] theorem get_moved (cube : Cube n) (motion : Equiv.Perm (Place n)) (place : Place n) :
    (cube.moved motion).get (motion place) = cube.get place := by
  rw [moved, get_ofFn, Equiv.symm_apply_apply]

/-- A cube is another one moved if every cell shows the colour of the cell it came from. -/
theorem eq_moved {cube turned : Cube n} {motion : Equiv.Perm (Place n)}
    (carried : ∀ place, turned.get (motion place) = cube.get place) :
    turned = cube.moved motion := by
  apply ext_get
  intro place
  obtain ⟨origin, rfl⟩ := motion.surjective place
  rw [carried, get_moved]

@[simp] theorem moved_one (cube : Cube n) : cube.moved 1 = cube :=
  (eq_moved fun _ => rfl).symm

theorem moved_moved (cube : Cube n) (first second : Equiv.Perm (Place n)) :
    (cube.moved first).moved second = cube.moved (second * first) := by
  apply eq_moved
  intro place
  rw [Equiv.Perm.mul_apply, get_moved, get_moved]

theorem cells_moved_perm (cube : Cube n) (motion : Equiv.Perm (Place n)) :
    (cube.moved motion).cells.Perm cube.cells := by
  rw [cells_eq_map_get, cells_eq_map_get]
  have shuffled := map_perm_of_complete Place.nodup_all Place.mem_all motion
  have colours := (shuffled.map (cube.moved motion).get).symm
  simpa only [List.map_map, Function.comp_def, get_moved] using colours

theorem Balanced.moved {cube : Cube n} (balanced : cube.Balanced)
    (motion : Equiv.Perm (Place n)) : (cube.moved motion).Balanced := by
  intro colour
  rw [← balanced colour]
  exact (cube.cells_moved_perm motion).count_eq colour

end Cube

end Cubing
