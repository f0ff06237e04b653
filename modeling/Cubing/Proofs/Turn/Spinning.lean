import Cubing.Proofs.Net.Rows
import Cubing.Proofs.Turn.InPlace
import Cubing.Proofs.Turn.Layers

/-!
# Spinning a grid

A face is spun ring by ring, and the rings together turn its grid as a whole: what stands in a row
afterwards has stood in a column before, from below (`Face.gridOf_spun`). This holds for whatever
stands on the cells of the face, so it holds for the grids of a cube as well as for a net that is
spun where it lies, cell by cell.
-/
namespace Cubing

variable {n : Nat} {α : Type}

/-- A square grid that is turned by a quarter clockwise. -/
def quarterTurned (n : Nat) (grid : List α) : List α :=
  (List.finRange n).flatMap fun row =>
    (List.finRange n).filterMap fun col => grid[col.rev.val * n + row.val]?

namespace Face

theorem gridOf_congr {face : Face} {value value' : Place n → α}
    (same : ∀ row col, value ⟨face, row, col⟩ = value' ⟨face, row, col⟩) :
    face.gridOf value = face.gridOf value' := by
  simp only [gridOf, same]

theorem quarterTurned_gridOf (face : Face) (value : Place n → α) :
    quarterTurned n (face.gridOf value) = face.gridOf (value ∘ Place.clockwise.symm) := by
  have origin (row col : Fin n) :
      Place.clockwise.symm ⟨face, row, col⟩ = ⟨face, col.rev, row⟩ := by
    simp [Place.clockwise, Place.spun]
  simp only [quarterTurned, getElem?_gridOf]
  simp only [gridOf, Function.comp_apply, origin, List.filterMap_eq_map']

theorem iterate_quarterTurned_gridOf (face : Face) (value : Place n → α) (count : Nat) :
    (quarterTurned n)^[count] (face.gridOf value) =
      face.gridOf (value ∘ (Place.clockwise ^ count).symm) := by
  induction count with
  | zero => rfl
  | succ count ih =>
    rw [Function.iterate_succ_apply', ih, quarterTurned_gridOf, pow_succ']
    rfl

/-- The rings of a face together turn its grid as a whole. -/
theorem gridOf_spun (face : Face) (turns : QuarterTurns) (value : Place n → α) :
    face.gridOf (face.spun turns value) = (quarterTurned n)^[turns.val] (face.gridOf value) := by
  rw [iterate_quarterTurned_gridOf]
  apply gridOf_congr
  intro row col
  -- What stands here now has stood on the cell that a turn of the face carries here.
  let origin : Place n := (Place.clockwise ^ turns.val).symm ⟨face, row, col⟩
  have reached : (Place.clockwise ^ turns.val) origin = ⟨face, row, col⟩ :=
    Equiv.apply_symm_apply ..
  have on : origin.face = face := by rw [← Place.face_clockwise_pow turns.val, reached]
  have spun := face.spun_apply turns value origin
  rwa [Place.spinning_zpow_on on, QuarterTurns.toInt, zpow_natCast, reached] at spun

theorem gridOf_spun_of_ne {face other : Face} (apart : other ≠ face) (turns : QuarterTurns)
    (value : Place n → α) : other.gridOf (face.spun turns value) = other.gridOf value := by
  apply gridOf_congr
  intro row col
  have spun := face.spun_apply turns value ⟨other, row, col⟩
  rwa [Place.spinning_zpow_off apart] at spun

theorem gridOf_update (value : Place n → α) (place : Place n) (written : α) :
    place.face.gridOf (Function.update value place written) =
      (place.face.gridOf value).set place.offset written := by
  refine (eq_rows (by rw [List.length_set, length_gridOf]) fun row col => ?_).symm
  have inside : place.offset < (place.face.gridOf value).length := by
    rw [length_gridOf]
    exact place.offset_lt
  rw [List.getElem?_set, getElem?_gridOf, Function.update_apply]
  by_cases same : Place.mk place.face row col = place
  · have stored : place.offset = row.val * n + col.val := (congrArg Place.offset same).symm
    rw [if_pos same, if_pos stored, if_pos inside]
  · have apart : place.offset ≠ row.val * n + col.val :=
      fun offsets => same (Place.offset_injective rfl offsets.symm)
    rw [if_neg same, if_neg apart]

end Face

section InPlace

theorem Place.locate?_gridOf {net : Net} (place : Place n) (present : place.face.index < net.length)
    (value : Place n → Value) :
    Net.locate? (net.set place.face.index (place.face.gridOf value)) place.address =
      some (place.face.gridOf value, place.offset) := by
  have position : (place.offset : Int).toNat? = some place.offset := rfl
  simp [Net.locate?, Place.address, present, position, place.face.length_gridOf, place.offset_lt]

/-- The cells of one face count, and nothing else in the net is touched. -/
def Face.layout (n : Nat) (face : Face) {net : Net} (present : face.index < net.length) :
    Net.Layout n Value where
  net value := net.set face.index (face.gridOf value)
  cell := id
  Counts place := place.face = face
  fetch value place on := by
    subst on
    rw [Net.fetch, place.locate?_gridOf present]
    have stands := place.face.getElem?_gridOf value place.row place.col
    simp only [Option.bind_some, Place.offset, stands, id]
  store value place written on := by
    subst on
    rw [Net.store, place.locate?_gridOf present]
    simp only [Place.address, List.set_set, id, Face.gridOf_update]

/-- Any grid of a net can be spun, whatever stands in it and in the others. -/
theorem Net.spin_eq {net : Net} {face : Face} {grid : List Value}
    (here : net[face.index]? = some grid) (length : grid.length = n * n) (turns : QuarterTurns) :
    net.spin face n turns = .ok (net.set face.index ((quarterTurned n)^[turns.val] grid)) := by
  obtain ⟨present, same⟩ := List.getElem?_eq_some_iff.mp here
  obtain ⟨value, rfl⟩ := face.exists_gridOf length
  have spun := (face.layout n present).spin (fun _ on => on) turns value
  rw [← face.gridOf_spun]
  -- The grid shows what stands on the face, so laying it out changes nothing.
  have laid : (face.layout n present).net value = net :=
    (congrArg (net.set face.index) same.symm).trans (List.set_getElem_self present)
  rw [laid] at spun
  exact spun

theorem Cube.toList_grid_spin (cube : Cube n) (face other : Face) (turns : QuarterTurns) :
    ((cube.spin face turns).grid other).toList =
      if other = face then (quarterTurned n)^[turns.val] (cube.grid face).toList
      else (cube.grid other).toList := by
  simp only [toList_grid, get_spin]
  split
  next same => rw [same, face.gridOf_spun]
  next apart => exact Face.gridOf_spun_of_ne apart turns cube.get

end InPlace

section Quarters

variable {grid : List α} (length : grid.length = n * n)
include length

theorem length_quarterTurned : (quarterTurned n grid).length = n * n := by
  obtain ⟨value, rfl⟩ := Face.front.exists_gridOf length
  rw [Face.quarterTurned_gridOf, Face.length_gridOf]

theorem getElem?_quarterTurned (row col : Fin n) :
    (quarterTurned n grid)[row.val * n + col.val]? = grid[col.rev.val * n + row.val]? := by
  obtain ⟨value, rfl⟩ := Face.front.exists_gridOf length
  rw [Face.quarterTurned_gridOf, Face.getElem?_gridOf, Face.getElem?_gridOf]
  simp [Place.clockwise, Place.spun]

/-- A grid of odd size has a cell in the middle, which stays where it is. -/
theorem centre_quarterTurned {centre : Nat} (odd : n = 2 * centre + 1) (count : Nat) :
    ((quarterTurned n)^[count] grid)[centre * n + centre]? = grid[centre * n + centre]? := by
  induction count generalizing grid with
  | zero => rfl
  | succ count ih =>
    let middle : Fin n := ⟨centre, by omega⟩
    have fixed : middle.rev = middle := Fin.ext (by simp only [Fin.val_rev, middle]; omega)
    have stays := getElem?_quarterTurned length middle middle
    rw [fixed] at stays
    rw [Function.iterate_succ_apply, ih (length_quarterTurned length)]
    exact stays

end Quarters

/-- A face that is spun ring by ring has its grid turned as a whole, by as many quarters as the
turns leave modulo four, and the other grids stay. This holds for every cube, and for every net in
which the grid of the face has the right size, whatever stands in it. -/
theorem spinning_turns_the_grid (n : Nat) (face : Face) (turns : Int) :
    (∀ (cube : Cube n) (other : Face),
      ((cube.spin face (.ofInt turns)).grid other).toList =
        if other = face then (quarterTurned n)^[(turns % 4).toNat] (cube.grid face).toList
        else (cube.grid other).toList) ∧
    (∀ (net : Net) (grid : List Value), net[face.index]? = some grid → grid.length = n * n →
      net.spin face n (.ofInt turns) =
        .ok (net.set face.index ((quarterTurned n)^[(turns % 4).toNat] grid))) ∧
    ∀ (α : Type) (grid : List α), grid.length = n * n →
      (quarterTurned n grid).length = n * n ∧
      (∀ row col : Fin n, (quarterTurned n grid)[row.val * n + col.val]? =
        grid[(n - 1 - col.val) * n + row.val]?) ∧
      ∀ centre, n = 2 * centre + 1 → ∀ count : Nat,
        ((quarterTurned n)^[count] grid)[centre * n + centre]? = grid[centre * n + centre]? := by
  refine ⟨fun cube other => cube.toList_grid_spin face other _,
    fun net grid here length => Net.spin_eq here length _, fun α grid length =>
    ⟨length_quarterTurned length, fun row col => ?_, fun centre odd =>
      centre_quarterTurned length odd⟩⟩
  have below : n - 1 - col.val = col.rev.val := by
    rw [Fin.val_rev]
    omega
  rw [below]
  exact getElem?_quarterTurned length row col

/-- Turned back by a quarter; of the other grids one is missing and none is square. -/
theorem spinning_turns_the_grid_of_right :
    let row (first : Int) : List Value := [.int first, .int (first + 1), .int (first + 2)]
    let grid := row 1 ++ row 4 ++ row 7
    let net : Net := [[], [.none], grid, row 0, row 0]
    grid.length = 3 * 3 ∧ (quarterTurned 3 grid).length = 3 * 3 ∧
      net.spin .right 3 (.ofInt (-1)) =
        .ok [[], [.none], [3, 6, 9, 2, 5, 8, 1, 4, 7].map .int, row 0, row 0] := by
  intro row grid net
  obtain ⟨-, spun, turned⟩ := spinning_turns_the_grid 3 .right (-1)
  have back : (quarterTurned 3)^[((-1 : Int) % 4).toNat] grid =
      [3, 6, 9, 2, 5, 8, 1, 4, 7].map .int := by rfl
  refine ⟨rfl, (turned Value grid rfl).1, ?_⟩
  rw [spun net grid rfl rfl, back]
  rfl

end Cubing
