import Cubing.Proofs.Solid.Slices
import Cubing.Proofs.Turn.Interchange

/-!
# Strips and rings tile the cube

The strips that the layers of an axis cut out of the faces around it cover each cell of these
faces once and no other cell (`Axis.stripsTile`), and so do the rings of a face with the cells of
the face, except that the middle cell of a face of odd size lies on no ring (`Face.ringsTile`).
This is said of the addresses that are computed from the size, so none of them leads outside the
grids.

Since no two strips and no two rings meet, the layers of a turn can be taken in any order, on a
cube (`Cube.carry_perm`, `Cube.spin_perm`) as well as in place on any net whatever
(`Net.carry_perm`, `Net.spin_perm`).
-/
namespace Cubing

variable {n : Nat} {α β ι : Type}

/-- Are the cells of a list those of a region, each of them listed once? -/
structure Tiles (cells : List α) (region : α → Prop) : Prop where
  once : cells.Nodup
  mem_iff : ∀ cell, cell ∈ cells ↔ region cell

/-- Cells can be renamed, if different ones get different names. -/
theorem Tiles.map {cells : List α} {region : α → Prop} (tiles : Tiles cells region) {f : α → β}
    (injective : Function.Injective f) {image : β → Prop}
    (covers : ∀ b, image b ↔ ∃ a, region a ∧ f a = b) : Tiles (cells.map f) image where
  once := tiles.once.map injective
  mem_iff b := by simp only [List.mem_map, tiles.mem_iff, covers]

namespace Loop

/-- The cells of one of the four segments. -/
def side (loop : Loop n) (segment : Fin 4) : List (Place n) :=
  (List.finRange loop.length).map fun position => loop.place segment position

def cells (loop : Loop n) : List (Place n) := (List.finRange 4).flatMap loop.side

theorem mem_side {loop : Loop n} {segment : Fin 4} {place : Place n} :
    place ∈ loop.side segment ↔ ∃ position, loop.place segment position = place := by
  simp [side]

theorem mem_cells {loop : Loop n} {place : Place n} : place ∈ loop.cells ↔ loop.Visits place := by
  simp [cells, mem_side, Visits]

theorem Simple.nodup_cells {loop : Loop n} (simple : loop.Simple) : loop.cells.Nodup := by
  rw [cells, List.nodup_flatMap]
  constructor
  -- Cells of one segment differ in their positions, cells of two segments in the segment.
  · intro segment _
    refine (List.nodup_finRange _).map fun position position' same => ?_
    have slots : (segment, position) = (segment, position') := simple same
    exact (Prod.mk.inj slots).2
  · refine (List.nodup_finRange 4).imp fun {segment segment'} different place on on' => ?_
    obtain ⟨position, rfl⟩ := mem_side.mp on
    obtain ⟨position', same⟩ := mem_side.mp on'
    have slots : (segment', position') = (segment, position) := simple same
    exact different (Prod.mk.inj slots).1.symm

/-- Loops that never meet cover the cells that they visit once each. -/
theorem Woven.tiles {loops : ι → Loop n} {motion : Equiv.Perm (Place n)}
    (woven : Woven loops motion) {layers : List ι} (nodup : layers.Nodup) :
    Tiles (layers.flatMap fun i => (loops i).cells)
      fun place => ∃ i ∈ layers, (loops i).Visits place where
  once := by
    rw [List.nodup_flatMap]
    refine ⟨fun i _ => (woven.simple i).nodup_cells, nodup.imp fun different place on on' => ?_⟩
    exact different (woven.apart (mem_cells.mp on) (mem_cells.mp on'))
  mem_iff place := by simp only [List.mem_flatMap, mem_cells]

theorem tiles_strip (axis : Axis) :
    Tiles ((List.finRange n).flatMap fun layer => (strip axis layer).cells)
      fun place => place.face.axis ≠ axis := by
  have tiles := (woven_strip (n := n) axis).tiles (List.nodup_finRange n)
  simpa [visits_strip_iff] using tiles

theorem tiles_ring (face : Face) :
    Tiles ((List.finRange (n / 2)).flatMap fun layer => (ring (n := n) face layer).cells)
      fun place => place.face = face ∧ place.depth < n / 2 := by
  have tiles := (woven_ring (n := n) face).tiles (List.nodup_finRange (n / 2))
  refine ⟨tiles.once, fun place => (tiles.mem_iff place).trans ?_⟩
  simp only [visits_ring_iff, List.mem_finRange, true_and]
  constructor
  · rintro ⟨layer, on, depth⟩
    exact ⟨on, depth ▸ layer.isLt⟩
  · rintro ⟨on, inside⟩
    exact ⟨⟨place.depth, inside⟩, on, rfl⟩

end Loop

section Addresses

/-- Is this the address of a cell of the face, on a cube of size `n`? -/
def Address.LiesOn (n : Nat) (face : Face) (address : Address) : Prop :=
  address.grid = face.index ∧ 0 ≤ address.position ∧ address.position < n * n

/-- The middle of a grid of odd size. -/
def Address.IsCentre (n : Nat) (address : Address) : Prop :=
  n % 2 = 1 ∧ address.position = (n / 2 : Nat) * n + (n / 2 : Nat)

theorem Face.index_injective : Function.Injective index := by
  intro first second
  cases first <;> cases second <;> decide

theorem Place.address_injective : Function.Injective (address (n := n)) := by
  intro first second same
  obtain ⟨grids, positions⟩ := Address.mk.inj same
  exact offset_injective (Face.index_injective grids) (Int.ofNat.inj positions)

/-- The addresses on a face are those of its cells. -/
theorem Address.liesOn_iff {face : Face} {address : Address} :
    address.LiesOn n face ↔ ∃ place : Place n, place.face = face ∧ place.address = address := by
  constructor
  · obtain ⟨grid, position⟩ := address
    rintro ⟨rfl, nonneg, inside⟩
    obtain ⟨offset, rfl⟩ := Int.eq_ofNat_of_zero_le nonneg
    have inGrid : offset < n * n := Int.ofNat_lt.mp inside
    refine ⟨Place.ofOffset face ⟨offset, inGrid⟩, rfl, ?_⟩
    rw [Place.address, Place.offset_ofOffset]
    rfl
  · rintro ⟨place, rfl, rfl⟩
    have inside : (place.offset : Int) < n * n := by exact_mod_cast place.offset_lt
    exact ⟨rfl, Int.natCast_nonneg _, inside⟩

/-- The rings come to an end where the middle cell would be. -/
theorem Place.depth_lt_iff (place : Place n) :
    place.depth < n / 2 ↔ ¬ place.address.IsCentre n := by
  obtain ⟨face, row, col⟩ := place
  have middle (odd : n % 2 = 1) : (Place.mk face row col).address.position =
      (n / 2 : Nat) * n + (n / 2 : Nat) ↔ row.val = n / 2 ∧ col.val = n / 2 := by
    let centre : Fin n := ⟨n / 2, by omega⟩
    constructor
    · intro same
      have offsets : (Place.mk face row col).offset = (Place.mk face centre centre).offset :=
        Int.ofNat.inj same
      have cells : Place.mk face row col = Place.mk face centre centre :=
        offset_injective rfl offsets
      exact ⟨congrArg (fun place => place.row.val) cells,
        congrArg (fun place => place.col.val) cells⟩
    · rintro ⟨rows, cols⟩
      simp only [address_eq, rows, cols]
  -- Only where the middle row crosses the middle column is no edge nearer than half the size.
  have deep : (Place.mk face row col).depth < n / 2 ↔
      ¬ (n % 2 = 1 ∧ row.val = n / 2 ∧ col.val = n / 2) := by
    simp only [depth, Fin.val_rev]
    omega
  rw [deep, Address.IsCentre, and_congr_right middle]

/-- Is the face cut by the layers of the axis, lying at neither of its ends? -/
def Axis.Cuts (axis : Axis) (face : Face) : Prop := face ≠ axis.ends.1 ∧ face ≠ axis.ends.2

theorem Axis.cuts_iff {axis : Axis} {face : Face} : axis.Cuts face ↔ face.axis ≠ axis := by
  rw [ne_eq face.axis, face.axis_eq_iff, not_or, Cuts]

theorem Axis.cuts_cycle (axis : Axis) (segment : Fin 4) : axis.Cuts (axis.cycle segment) := by
  rw [cuts_iff]
  revert segment
  cases axis <;> decide

end Addresses

section Sides

/-- The four sides of each layer, from layer 0 on. -/
def Net.allSides (sides : Int → Fin 4 → List Address) (count : Nat) : List (List Address) :=
  (List.range count).flatMap fun layer : Nat => (List.finRange 4).map fun side => sides layer side

theorem Net.length_allSides (sides : Int → Fin 4 → List Address) (count : Nat) :
    (allSides sides count).length = 4 * count := by
  simp [allSides, Nat.mul_comm]

theorem Net.mem_allSides {sides : Int → Fin 4 → List Address} {count : Nat}
    {cells : List Address} :
    cells ∈ allSides sides count ↔ ∃ layer : Fin count, ∃ side, sides layer.val side = cells := by
  simp [allSides, Fin.exists_iff]

/-- The sides of all layers are the cells of the loops that lie there. -/
theorem Net.flatten_allSides {sides : Int → Fin 4 → List Address} {count : Nat}
    {loops : Fin count → Loop n}
    (along : ∀ layer side, sides layer.val side = ((loops layer).side side).map Place.address) :
    (allSides sides count).flatten =
      ((List.finRange count).flatMap fun layer => (loops layer).cells).map Place.address := by
  rw [allSides, ← List.map_coe_finRange_eq_range, List.flatMap_map, ← List.flatMap_id,
    List.flatMap_assoc, List.map_flatMap]
  simp only [List.flatMap_map, id, along, Loop.cells, List.map_flatMap]

theorem Net.stripSide_eq_side (axis : Axis) (layer : Fin n) (side : Fin 4) :
    stripSide axis n layer.val side = ((Loop.strip axis layer).side side).map Place.address := by
  rw [stripSide_eq, Loop.side, List.map_map]
  rfl

theorem Net.ringSide_eq_side (face : Face) (layer : Fin (n / 2)) (side : Fin 4) :
    ringSide face n layer.val side = ((Loop.ring face layer).side side).map Place.address := by
  rw [ringSide_eq, Loop.side, List.map_map]
  rfl

/-- What the strips of an axis are on a cube of size `n`: four for each layer, each of `n` cells
of one face that the axis cuts, the segments of the loop that is carried around the axis, and all
together every cell of these faces, once. -/
structure Axis.StripsTile (axis : Axis) (n : Nat) : Prop where
  count : (Net.allSides (Net.stripSide axis n) n).length = 4 * n
  strip : ∀ strip ∈ Net.allSides (Net.stripSide axis n) n, strip.length = n ∧
    ∃ face, axis.Cuts face ∧ ∀ address ∈ strip, address.LiesOn n face
  loop : ∀ (layer : Fin n) (side : Fin 4),
    Net.stripSide axis n layer.val side = ((Loop.strip axis layer).side side).map Place.address
  tiles : Tiles (Net.allSides (Net.stripSide axis n) n).flatten
    fun address => ∃ face, axis.Cuts face ∧ address.LiesOn n face

/-- What the rings of a face are on a cube of size `n`: four sides of equal length for each, the
segments of the loop that is spun, and all together every cell of the face once, but for the middle
cell of a grid of odd size. -/
structure Face.RingsTile (face : Face) (n : Nat) : Prop where
  sides : ∀ (layer : Nat) (side : Fin 4), layer < n / 2 →
    (Net.ringSide face n layer side).length = n - 1 - 2 * layer ∧
      ∀ address ∈ Net.ringSide face n layer side, address.LiesOn n face
  loop : ∀ (layer : Fin (n / 2)) (side : Fin 4),
    Net.ringSide face n layer.val side = ((Loop.ring face layer).side side).map Place.address
  tiles : Tiles (Net.allSides (Net.ringSide face n) (n / 2)).flatten
    fun address => address.LiesOn n face ∧ ¬ address.IsCentre n

theorem Axis.stripsTile (axis : Axis) (n : Nat) : axis.StripsTile n where
  count := Net.length_allSides _ n
  strip := by
    intro strip member
    obtain ⟨layer, side, rfl⟩ := Net.mem_allSides.mp member
    rw [Net.stripSide_eq_side]
    refine ⟨by simp [Loop.side, Loop.strip], axis.cycle side, axis.cuts_cycle side, ?_⟩
    simp only [List.forall_mem_map, Address.liesOn_iff]
    intro place on
    obtain ⟨position, rfl⟩ := Loop.mem_side.mp on
    exact ⟨_, Loop.face_strip axis layer side position, rfl⟩
  loop := Net.stripSide_eq_side axis
  tiles := by
    rw [Net.flatten_allSides (Net.stripSide_eq_side axis)]
    apply (Loop.tiles_strip axis).map Place.address_injective
    intro address
    simp only [Axis.cuts_iff, Address.liesOn_iff]
    constructor
    · rintro ⟨face, cut, place, rfl, rfl⟩
      exact ⟨place, cut, rfl⟩
    · rintro ⟨place, cut, rfl⟩
      exact ⟨place.face, cut, place, rfl, rfl⟩

theorem Face.ringsTile (face : Face) (n : Nat) : face.RingsTile n where
  sides := by
    intro layer side inside
    rw [Net.ringSide_eq_side face ⟨layer, inside⟩ side]
    refine ⟨by simp [Loop.side, Loop.ring], ?_⟩
    simp only [List.forall_mem_map, Address.liesOn_iff]
    intro place on
    obtain ⟨position, rfl⟩ := Loop.mem_side.mp on
    exact ⟨_, Loop.face_ring face ⟨layer, inside⟩ side position, rfl⟩
  loop := Net.ringSide_eq_side face
  tiles := by
    rw [Net.flatten_allSides (Net.ringSide_eq_side face)]
    apply (Loop.tiles_ring face).map Place.address_injective
    intro address
    rw [Address.liesOn_iff]
    constructor
    · rintro ⟨⟨place, on, rfl⟩, off⟩
      exact ⟨place, ⟨on, place.depth_lt_iff.mpr off⟩, rfl⟩
    · rintro ⟨place, ⟨on, inside⟩, rfl⟩
      exact ⟨⟨place, on, rfl⟩, place.depth_lt_iff.mp inside⟩

end Sides

section Order

/-- Loops that never meet can be advanced in either order, wherever they lie. -/
theorem Loop.Woven.interchange {loops : ι → Loop n} {motion : Equiv.Perm (Place n)}
    (woven : Woven loops motion) {segments : ι → Fin 4 → List Address}
    (along : ∀ i side, segments i side = ((loops i).side side).map Place.address)
    (turns : QuarterTurns) (i j : ι) :
    Interchange (fun net : Net => net.cycle (segments i) turns)
      fun net => net.cycle (segments j) turns := by
  by_cases same : i = j
  · subst same
    exact fun _ => rfl
  · apply Net.cycle_interchange
    intro side side' address on on'
    simp only [along, List.mem_map, Loop.mem_side] at on on'
    obtain ⟨_, ⟨position, rfl⟩, rfl⟩ := on
    obtain ⟨_, ⟨position', rfl⟩, equal⟩ := on'
    -- An address is that of one cell only, and there the two loops would meet.
    have meet := Place.address_injective equal
    exact same (woven.apart ⟨side, position, rfl⟩ ⟨side', position', meet⟩)

/-- The layers from `start` on that are turned lie on the cube. -/
theorem Net.exists_layer {start stop : Int} (first : 0 ≤ start) (last : stop ≤ n) {layer : Int}
    (member : layer ∈ interval start stop) : ∃ layer' : Fin n, (layer'.val : Int) = layer := by
  simp only [interval, List.mem_map, List.mem_range] at member
  obtain ⟨step, inside, rfl⟩ := member
  exact ⟨⟨start.toNat + step, by omega⟩, by simp only [Nat.cast_add]; omega⟩

theorem Net.carry_perm (net : Net) (axis : Axis) {start stop : Int} (first : 0 ≤ start)
    (last : stop ≤ n) (turns : QuarterTurns) {layers : List Int}
    (perm : layers.Perm (interval start stop)) :
    layers.foldlM (fun net layer => net.cycle (stripSide axis n layer) turns) net =
      net.carry axis n start stop turns := by
  refine foldlM_perm perm (fun layer inLayers layer' inLayers' => ?_) net
  obtain ⟨i, rfl⟩ := exists_layer first last (perm.mem_iff.mp inLayers)
  obtain ⟨j, rfl⟩ := exists_layer first last (perm.mem_iff.mp inLayers')
  exact (Loop.woven_strip axis).interchange (stripSide_eq_side axis) turns i j

theorem Net.spin_perm (net : Net) (face : Face) (turns : QuarterTurns) {layers : List Nat}
    (perm : layers.Perm (List.range (n / 2))) :
    layers.foldlM (fun net (layer : Nat) => net.cycle (ringSide face n layer) turns) net =
      net.spin face n turns := by
  refine foldlM_perm perm (fun layer inLayers layer' inLayers' => ?_) net
  have inside := List.mem_range.mp (perm.mem_iff.mp inLayers)
  have inside' := List.mem_range.mp (perm.mem_iff.mp inLayers')
  exact (Loop.woven_ring face).interchange (ringSide_eq_side face) turns ⟨layer, inside⟩
    ⟨layer', inside'⟩

/-- On a cube the loops are advanced as on its net. -/
theorem Loop.Woven.foldl_advance_perm {loops : ι → Loop n} {motion : Equiv.Perm (Place n)}
    (woven : Woven loops motion) (cube : Cube n) (turns : QuarterTurns) {layers layers' : List ι}
    (perm : layers.Perm layers') :
    layers.foldl (fun cube i => cube.advance (loops i) turns) cube =
      layers'.foldl (fun cube i => cube.advance (loops i) turns) cube := by
  let segments (i : ι) (side : Fin 4) : List Address := ((loops i).side side).map Place.address
  have along (i : ι) (side : Fin 4) : segments i side =
      (List.finRange (loops i).length).map fun step => ((loops i).place side step).address := by
    simp only [segments, Loop.side, List.map_map, Function.comp_def]
  have advanced (layers : List ι) :
      layers.foldlM (fun net i => Net.cycle net (segments i) turns) cube.toNet =
        .ok (layers.foldl (fun cube i => cube.advance (loops i) turns) cube).toNet :=
    Net.foldlM_toNet (fun cube i => Net.cycle_toNet cube (loops i) (along i) turns) layers cube
  have nets : layers.foldlM (fun net i => Net.cycle net (segments i) turns) cube.toNet =
      layers'.foldlM (fun net i => Net.cycle net (segments i) turns) cube.toNet :=
    foldlM_perm perm (fun i _ j _ => woven.interchange (fun _ _ => rfl) turns i j) cube.toNet
  rw [advanced, advanced] at nets
  exact Cube.toNet_injective (Except.ok.inj nets)

theorem Cube.carry_perm (cube : Cube n) (axis : Axis) (start count : Nat) (turns : QuarterTurns)
    {layers : List (Fin n)} (perm : layers.Perm (layersFrom n start count)) :
    layers.foldl (fun cube layer => cube.advance (.strip axis layer) turns) cube =
      cube.carry axis start count turns :=
  (Loop.woven_strip axis).foldl_advance_perm cube turns perm

theorem Cube.spin_perm (cube : Cube n) (face : Face) (turns : QuarterTurns)
    {layers : List (Fin (n / 2))} (perm : layers.Perm (List.finRange (n / 2))) :
    layers.foldl (fun cube layer => cube.advance (.ring face layer) turns) cube =
      cube.spin face turns :=
  (Loop.woven_ring face).foldl_advance_perm cube turns perm

end Order

/-- On a cube of any size the strips of an axis tile the faces around it, and the rings of a face
tile the face, up to the middle cell if there is one. The layers of an axis and the rings of a face
can be turned in any order, in place on any net as well as on a cube. -/
theorem strips_and_rings_tile (n : Nat) :
    (∀ axis : Axis, axis.StripsTile n) ∧
    (∀ face : Face, face.RingsTile n) ∧
    (∀ (net : Net) (turns : QuarterTurns),
      (∀ (axis : Axis) (start stop : Int) (layers : List Int), 0 ≤ start → stop ≤ n →
        layers.Perm (Net.interval start stop) →
          layers.foldlM (fun net layer => net.cycle (Net.stripSide axis n layer) turns) net =
            net.carry axis n start stop turns) ∧
      ∀ (face : Face) (layers : List Nat), layers.Perm (List.range (n / 2)) →
        layers.foldlM (fun net (layer : Nat) => net.cycle (Net.ringSide face n layer) turns) net =
          net.spin face n turns) ∧
    ∀ (cube : Cube n) (turns : QuarterTurns),
      (∀ (axis : Axis) (start count : Nat) (layers : List (Fin n)),
        layers.Perm (Cube.layersFrom n start count) →
          layers.foldl (fun cube layer => cube.advance (.strip axis layer) turns) cube =
            cube.carry axis start count turns) ∧
      ∀ (face : Face) (layers : List (Fin (n / 2))), layers.Perm (List.finRange (n / 2)) →
        layers.foldl (fun cube layer => cube.advance (.ring face layer) turns) cube =
          cube.spin face turns := by
  refine ⟨fun axis => axis.stripsTile n, fun face => face.ringsTile n,
    fun net turns => ⟨?_, ?_⟩, fun cube turns => ⟨?_, ?_⟩⟩
  · intro axis start stop layers first last perm
    exact net.carry_perm axis first last turns perm
  · intro face layers perm
    exact net.spin_perm face turns perm
  · intro axis start count layers perm
    exact cube.carry_perm axis start count turns perm
  · intro face layers perm
    exact cube.spin_perm face turns perm

/-- Size 5 has a middle cell on each face, and three inner layers to be taken in another order. -/
theorem strips_and_rings_tile_for_size_five :
    let cube := (Cube.solved 5).turnFace .front .clockwise
    let net : Net := cube.toNet.take 5 ++ [List.replicate 25 .none]
    let centre : Address := ⟨Face.back.index, 12⟩
    let strip := Net.stripSide .z 5 1 2
    (strip.length = 5 ∧ ∃ face, Axis.z.Cuts face ∧ ∀ address ∈ strip, address.LiesOn 5 face) ∧
    (Net.ringSide .back 5 1 3).length = 2 ∧
    centre ∉ (Net.allSides (Net.ringSide .back 5) 2).flatten ∧
    [3, 1, 2].foldlM (fun net layer => net.cycle (Net.stripSide .z 5 layer) .clockwise) net =
      net.carry .z 5 1 4 .clockwise ∧
    [1, 0].foldlM (fun net (layer : Nat) => net.cycle (Net.ringSide .back 5 layer) .halfway) net =
      net.spin .back 5 .halfway ∧
    [3, 1, 2].foldl (fun cube layer => cube.advance (.strip .z layer) .clockwise) cube =
      cube.carry .z 1 3 .clockwise ∧
    [1, 0].foldl (fun cube layer => cube.advance (.ring .back layer) .halfway) cube =
      cube.spin .back .halfway := by
  intro cube net centre strip
  obtain ⟨strips, rings, inPlace, onCube⟩ := strips_and_rings_tile 5
  have member : strip ∈ Net.allSides (Net.stripSide .z 5) 5 :=
    Net.mem_allSides.mpr ⟨1, 2, rfl⟩
  have middle : centre.IsCentre 5 := ⟨rfl, rfl⟩
  exact ⟨(strips .z).strip strip member, ((rings .back).sides 1 3 (by decide)).1,
    fun on => (((rings .back).tiles.mem_iff centre).mp on).2 middle,
    (inPlace net .clockwise).1 .z 1 4 _ (by decide) (by decide) (by decide),
    (inPlace net .halfway).2 .back _ (by decide),
    (onCube cube .clockwise).1 .z 1 3 _ (by decide),
    (onCube cube .halfway).2 .back _ (by decide)⟩

end Cubing
