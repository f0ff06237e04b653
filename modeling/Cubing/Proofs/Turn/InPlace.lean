import Mathlib.Data.List.FinRange
import Mathlib.Tactic.Ring
import Cubing.Net.Turn
import Cubing.Proofs.Net.Reading
import Cubing.Proofs.Turn.Loops

/-!
# Turning a net in place

A net can be turned where it lies, cell by cell: a cell is addressed by the number
of its grid and an integer position in it, and the positions along rings and strips
are computed from the size alone. Nothing about an address says that there is such
a cell, so cells are fetched and stored with a check, and a position below zero is
refused as well as one behind the end.

Where the cells of a loop can be fetched and stored (`Net.Layout`), whatever stands on
them is carried around it (`Net.Layout.cycle`). On the net of a cube no check ever fails:
the positions that are computed are those of the cells of the loops (`ringSide_eq`,
`stripSide_eq`), so what is done in place is what is done to the cube (`spin_toNet`,
`carry_toNet`).
-/
namespace Cubing

/-- A cell by the number of its grid and its position there. Either may be out of range. -/
structure Address where
  grid : Nat
  position : Int

def Place.address {n : Nat} (place : Place n) : Address := ⟨place.face.index, place.offset⟩

def Face.cell (colour : Face) : Value := .int colour.number

namespace Net

/-- The grid that an address names, and the position there if there is such a cell. -/
def locate? (net : Net) (address : Address) : Option (List Value × Nat) := do
  let grid ← net[address.grid]?
  let position ← address.position.toNat?
  if position < grid.length then some (grid, position) else none

def fetch (net : Net) (address : Address) : Except Fault Value :=
  match (net.locate? address).bind fun (grid, position) => grid[position]? with
  | some cell => .ok cell
  | none => .error .endsEarly

def store (net : Net) (address : Address) (cell : Value) : Except Fault Net :=
  match net.locate? address with
  | some (grid, position) => .ok (net.set address.grid (grid.set position cell))
  | none => .error .endsEarly

def storeAll (net : Net) (moves : List (Address × Value)) : Except Fault Net :=
  moves.foldlM (fun net move => net.store move.1 move.2) net

/-- Moves the cells of each of four segments, in order, to the segment some quarter turns on. -/
def cycle (net : Net) (segments : Fin 4 → List Address) (turns : QuarterTurns) :
    Except Fault Net :=
  if turns = 0 then .ok net
  else do
    -- All cells are fetched before the first one is stored.
    let cells ← (List.finRange 4).mapM fun side => (segments side).mapM net.fetch
    net.storeAll (((List.finRange 4).zip cells).flatMap fun (side, cells) =>
      (segments (side + turns)).zip cells)

/-- The cell some steps along a side of a ring: top, right, bottom or left. -/
def ringAddress (face : Face) (size layer : Int) (side : Fin 4) (step : Int) : Address :=
  let far := size - 1 - layer
  match side with
  | 0 => ⟨face.index, layer * size + layer + step⟩
  | 1 => ⟨face.index, (layer + step) * size + far⟩
  | 2 => ⟨face.index, far * size + far - step⟩
  | 3 => ⟨face.index, (far - step) * size + layer⟩

/-- The cell some steps along one of the four strips that a layer of an axis cuts out. -/
def stripAddress (axis : Axis) (size layer : Int) (side : Fin 4) (step : Int) : Address :=
  let last := size - 1
  match axis, side with
  | .x, 0 => ⟨Face.right.index, layer * size + step⟩
  | .x, 1 => ⟨Face.front.index, layer * size + step⟩
  | .x, 2 => ⟨Face.left.index, layer * size + step⟩
  | .x, 3 => ⟨Face.back.index, layer * size + step⟩
  | .y, 0 => ⟨Face.front.index, step * size + layer⟩
  | .y, 1 => ⟨Face.top.index, step * size + layer⟩
  | .y, 2 => ⟨Face.back.index, (last - step) * size + last - layer⟩
  | .y, 3 => ⟨Face.bottom.index, step * size + layer⟩
  | .z, 0 => ⟨Face.top.index, layer * size + step⟩
  | .z, 1 => ⟨Face.right.index, step * size + last - layer⟩
  | .z, 2 => ⟨Face.bottom.index, (last - layer) * size + last - step⟩
  | .z, 3 => ⟨Face.left.index, (last - step) * size + layer⟩

def ringSide (face : Face) (size layer : Int) (side : Fin 4) : List Address :=
  (List.range (size - 1 - 2 * layer).toNat).map fun step : Nat =>
    ringAddress face size layer side step

def stripSide (axis : Axis) (size layer : Int) (side : Fin 4) : List Address :=
  (List.range size.toNat).map fun step : Nat => stripAddress axis size layer side step

/-- Spins the grid of a face ring by ring. -/
def spin (net : Net) (face : Face) (size : Nat) (turns : QuarterTurns) : Except Fault Net :=
  (List.range (size / 2)).foldlM
    (fun net (layer : Nat) => net.cycle (ringSide face size layer) turns) net

/-- The integers from `start` up to but without `stop`. -/
def interval (start stop : Int) : List Int :=
  (List.range (stop - start).toNat).map fun step : Nat => start + step

/-- Carries the strips of the layers from `start` up to but without `stop`. -/
def carry (net : Net) (axis : Axis) (size : Nat) (start stop : Int) (turns : QuarterTurns) :
    Except Fault Net :=
  (interval start stop).foldlM (fun net layer => net.cycle (stripSide axis size layer) turns) net

end Net

variable {n : Nat}

section Cells

theorem Cube.getElem?_toNet (cube : Cube n) (face : Face) :
    cube.toNet[face.index]? = some ((cube.grid face).toList.map Face.cell) := by
  cases face <;> rfl

theorem Cube.toNet_withGrid (cube : Cube n) (face : Face) (grid : Grid n) :
    (cube.withGrid face grid).toNet = cube.toNet.set face.index (grid.toList.map Face.cell) := by
  cases face <;> rfl

theorem Net.locate?_toNet (cube : Cube n) (place : Place n) :
    cube.toNet.locate? place.address =
      some ((cube.grid place.face).toList.map Face.cell, place.offset) := by
  have position : (place.offset : Int).toNat? = some place.offset := rfl
  simp [locate?, Place.address, cube.getElem?_toNet, position, place.offset_lt]

theorem Net.fetch_toNet (cube : Cube n) (place : Place n) :
    cube.toNet.fetch place.address = .ok (cube.get place).cell := by
  simp [fetch, locate?_toNet, Cube.get, place.offset_lt]

theorem Net.store_toNet (cube : Cube n) (place : Place n) (colour : Face) :
    cube.toNet.store place.address colour.cell = .ok (cube.set place colour).toNet := by
  simp only [store, locate?_toNet]
  rw [Cube.set, Cube.toNet_withGrid, Vector.toList_set, List.map_set]
  rfl

end Cells

section Layouts

/-- Nets in which something stands on the cells of a cube. The cells that count are fetched from
their addresses, and stored there. -/
structure Net.Layout (n : Nat) (α : Type) where
  net : (Place n → α) → Net
  cell : α → Value
  Counts : Place n → Prop
  fetch : ∀ value place, Counts place → (net value).fetch place.address = .ok (cell (value place))
  store : ∀ value place a, Counts place →
    (net value).store place.address (cell a) = .ok (net (Function.update value place a))

/-- All cells of a cube count. -/
def Cube.layout (n : Nat) : Net.Layout n Face where
  net colour := (ofFn colour).toNet
  cell := Face.cell
  Counts _ := True
  fetch colour place _ := by rw [Net.fetch_toNet, get_ofFn]
  store colour place a _ := by
    rw [Net.store_toNet]
    have set : (ofFn colour).set place a = ofFn (Function.update colour place a) := by
      apply ext_get
      intro other
      rw [get_set_eq, get_ofFn, funext (get_ofFn colour)]
    rw [set]

namespace Net.Layout

variable {α ι : Type} (layout : Layout n α)

theorem storeAll (slots : List ι) (target : ι → Place n) (written : ι → α)
    (counts : ∀ slot, layout.Counts (target slot)) (value : Place n → α) :
    (layout.net value).storeAll
        (slots.map fun slot => ((target slot).address, layout.cell (written slot))) =
      .ok (layout.net (slots.foldl
        (fun value slot => Function.update value (target slot) (written slot)) value)) := by
  induction slots generalizing value with
  | nil => rfl
  | cons slot slots ih =>
    rw [List.map_cons, List.foldl_cons, Net.storeAll, List.foldlM_cons,
      layout.store _ _ _ (counts slot)]
    exact ih (Function.update value (target slot) (written slot))

theorem cycle (loop : Loop n) (counts : ∀ side step, layout.Counts (loop.place side step))
    {segments : Fin 4 → List Address}
    (along : ∀ side, segments side =
      (List.finRange loop.length).map fun step => (loop.place side step).address)
    (turns : QuarterTurns) (value : Place n → α) :
    (layout.net value).cycle segments turns = .ok (layout.net (loop.advanced turns value)) := by
  let cells (side : Fin 4) : List Value :=
    (List.finRange loop.length).map fun step => layout.cell (value (loop.place side step))
  -- What is fetched from the sides is what stands on their cells.
  have fetched : ((List.finRange 4).mapM fun side =>
      (segments side).mapM (layout.net value).fetch) = .ok ((List.finRange 4).map cells) := by
    have side (side : Fin 4) :
        (segments side).mapM (layout.net value).fetch = .ok (cells side) := by
      rw [along, List.mapM_map]
      simp only [Function.comp_def, layout.fetch value _ (counts side _)]
      exact List.mapM_pure
    simp only [side]
    exact List.mapM_pure
  -- What is stored is the same, some sides further on.
  have moves : (((List.finRange 4).zip ((List.finRange 4).map cells)).flatMap
      fun (side, cells) => (segments (side + turns)).zip cells) =
      loop.slots.map fun slot => ((loop.place (slot.1 + turns) slot.2).address,
        layout.cell (value (loop.place slot.1 slot.2))) := by
    rw [← List.map_prod_left_eq_zip, List.flatMap_map, Loop.slots, List.map_flatMap]
    simp only [along, cells, List.zip_map', List.map_map, Function.comp_def]
  rw [Net.cycle]
  split
  next still => rw [still, Loop.advanced_zero]
  next =>
    simp only [fetched]
    exact (congrArg _ moves).trans (layout.storeAll _ _ _ (fun _ => counts _ _) value)

end Net.Layout

end Layouts

section Loops

theorem Cube.net_layout_get (cube : Cube n) : (layout n).net cube.get = cube.toNet :=
  congrArg toNet (ext_get (get_ofFn cube.get))

theorem Net.cycle_toNet (cube : Cube n) (loop : Loop n) {segments : Fin 4 → List Address}
    (along : ∀ side, segments side =
      (List.finRange loop.length).map fun step => (loop.place side step).address)
    (turns : QuarterTurns) :
    cube.toNet.cycle segments turns = .ok (cube.advance loop turns).toNet := by
  have cycled := (Cube.layout n).cycle loop (fun _ _ => trivial) along turns cube.get
  rwa [← cube.get_advance_eq, cube.net_layout_get, Cube.net_layout_get] at cycled

/-- Counting from the far end, in integers. -/
theorem cast_val_rev (i : Fin n) : (i.rev.val : Int) = n - 1 - i.val := by
  rw [Fin.val_rev]
  omega

theorem Place.address_eq (place : Place n) :
    place.address = ⟨place.face.index, place.row.val * n + place.col.val⟩ := by
  simp only [address, offset, Nat.cast_add, Nat.cast_mul]

theorem Net.ringAddress_eq (face : Face) (layer : Fin (n / 2)) (side : Fin 4)
    (step : Fin (Loop.ring face layer).length) :
    ringAddress face n layer.val side step.val =
      ((Loop.ring face layer).place side step).address := by
  rw [Place.address_eq]
  match side with
  | 1 => simp only [ringAddress, Loop.ring, cast_val_rev, Nat.cast_add]
  | 0 | 2 | 3 =>
    simp only [ringAddress, Loop.ring, cast_val_rev, Nat.cast_add, Address.mk.injEq, true_and]
    ring

theorem Net.stripAddress_eq (axis : Axis) (layer : Fin n) (side : Fin 4)
    (step : Fin (Loop.strip axis layer).length) :
    stripAddress axis n layer.val side step.val =
      ((Loop.strip axis layer).place side step).address := by
  change Fin n at step
  rw [Place.address_eq]
  match axis, side with
  | .x, 0 | .x, 1 | .x, 2 | .x, 3 | .y, 0 | .y, 1 | .y, 3 | .z, 0 | .z, 3 =>
    simp only [stripAddress, Loop.strip, cast_val_rev]
  | .y, 2 | .z, 1 | .z, 2 =>
    simp only [stripAddress, Loop.strip, cast_val_rev, Address.mk.injEq, true_and]
    ring

theorem Net.ringSide_eq (face : Face) (layer : Fin (n / 2)) (side : Fin 4) :
    ringSide face n layer.val side =
      (List.finRange (Loop.ring face layer).length).map fun step =>
        ((Loop.ring face layer).place side step).address := by
  have length : ((n : Int) - 1 - 2 * layer.val).toNat = (Loop.ring face layer).length := by
    simp only [Loop.ring]
    omega
  rw [ringSide, length, ← List.map_coe_finRange_eq_range, List.map_map]
  exact List.map_congr_left fun step _ => ringAddress_eq face layer side step

theorem Net.stripSide_eq (axis : Axis) (layer : Fin n) (side : Fin 4) :
    stripSide axis n layer.val side =
      (List.finRange (Loop.strip axis layer).length).map fun step =>
        ((Loop.strip axis layer).place side step).address := by
  have length : (n : Int).toNat = (Loop.strip axis layer).length := rfl
  rw [stripSide, length, ← List.map_coe_finRange_eq_range, List.map_map]
  exact List.map_congr_left fun step _ => stripAddress_eq axis layer side step

/-- What is done in place step by step is done to what the net shows, step by step. -/
theorem Net.foldlM_eq_ok {σ ι : Type} {net : σ → Net} {step : Net → ι → Except Fault Net}
    {move : σ → ι → σ} (moves : ∀ shown i, step (net shown) i = .ok (net (move shown i)))
    (steps : List ι) (shown : σ) :
    steps.foldlM step (net shown) = .ok (net (steps.foldl move shown)) := by
  induction steps generalizing shown with
  | nil => rfl
  | cons i steps ih =>
    rw [List.foldlM_cons, moves]
    exact ih (move shown i)

theorem Net.foldlM_toNet {ι : Type} {step : Net → ι → Except Fault Net}
    {move : Cube n → ι → Cube n}
    (moves : ∀ cube i, step (Cube.toNet cube) i = .ok (move cube i).toNet) (steps : List ι)
    (cube : Cube n) : steps.foldlM step cube.toNet = .ok (steps.foldl move cube).toNet :=
  foldlM_eq_ok moves steps cube

theorem Net.Layout.spin {α : Type} (layout : Layout n α) {face : Face}
    (counts : ∀ place, place.face = face → layout.Counts place) (turns : QuarterTurns)
    (value : Place n → α) :
    (layout.net value).spin face n turns = .ok (layout.net (face.spun turns value)) := by
  have ring (layer : Fin (n / 2)) (side : Fin 4) (step : Fin (Loop.ring face layer).length) :
      layout.Counts ((Loop.ring face layer).place side step) :=
    counts _ (Loop.face_ring face layer side step)
  rw [Net.spin, ← List.map_coe_finRange_eq_range, List.foldlM_map]
  exact foldlM_eq_ok (fun value layer => layout.cycle (.ring face layer) (ring layer)
    (ringSide_eq face layer) turns value) _ value

end Loops

end Cubing
