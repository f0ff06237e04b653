import Mathlib.Data.Fintype.Basic
import Mathlib.Tactic.FinCases
import Cubing.Proofs.Turn.Loops

/-!
# Turns as motions

Each turn of a cube is a motion of its cells: spinning a face moves the cells of
the face, carrying strips moves the cells around the axis, and the two together
make a turn of whole layers (`turnFace_eq_moved`, `turnLayers_eq_moved` and
`turnWhole_eq_moved`). The rings of a face leave out only the middle cell of a
face of odd size, which a turn of the face leaves in place.
-/
namespace Cubing

variable {n : Nat}

namespace Place

/-- How far a cell is from the nearest edge of its face. -/
def depth (place : Place n) : Nat :=
  min (min place.row.val place.col.val) (min place.row.rev.val place.col.rev.val)

end Place

namespace Loop

theorem depth_ring (face : Face) (layer : Fin (n / 2)) (side : Fin 4)
    (position : Fin (ring face layer).length) :
    ((ring face layer).place side position).depth = layer.val := by
  have inside := layer.isLt
  have along : position.val < n - 1 - 2 * layer := position.isLt
  match side with
  | 0 | 1 | 2 | 3 => simp only [ring, Place.depth, Fin.val_rev]; omega

theorem ring_simple (face : Face) (layer : Fin (n / 2)) : (ring face layer).Simple := by
  rintro ⟨side, position⟩ ⟨side', position'⟩ same
  have inside := layer.isLt
  have along : position.val < n - 1 - 2 * layer := position.isLt
  have along' : position'.val < n - 1 - 2 * layer := position'.isLt
  have rows := congrArg (fun place => place.row.val) same
  have cols := congrArg (fun place => place.col.val) same
  have slots : side = side' ∧ position.val = position'.val := by
    -- Each side lies along an edge, from one corner up to but without the next one.
    fin_cases side <;> fin_cases side' <;> simp [ring, Fin.val_rev] at rows cols ⊢ <;> omega
  exact Prod.ext slots.1 (Fin.ext slots.2)

theorem visits_ring_iff (face : Face) (layer : Fin (n / 2)) (place : Place n) :
    (ring face layer).Visits place ↔ place.face = face ∧ place.depth = layer.val := by
  constructor
  · rintro ⟨side, position, rfl⟩
    exact ⟨face_ring face layer side position, depth_ring face layer side position⟩
  · obtain ⟨face', row, col⟩ := place
    rintro ⟨rfl, depth⟩
    have inside := layer.isLt
    simp only [Place.depth, Fin.val_rev] at depth
    -- Each corner belongs to the side that begins there.
    by_cases top : row.val = layer ∧ col.val < n - 1 - layer
    · refine ⟨0, ⟨col - layer, ?_⟩, ?_⟩
      · simp only [ring]; omega
      · simp only [ring, Place.mk.injEq, Fin.ext_iff, true_and]; omega
    · by_cases right : col.val = n - 1 - layer ∧ row.val < n - 1 - layer
      · refine ⟨1, ⟨row - layer, ?_⟩, ?_⟩
        · simp only [ring]; omega
        · simp only [ring, Place.mk.injEq, Fin.ext_iff, Fin.val_rev, true_and]; omega
      · by_cases bottom : row.val = n - 1 - layer ∧ layer.val < col.val
        · refine ⟨2, ⟨n - 1 - col - layer, ?_⟩, ?_⟩
          · simp only [ring]; omega
          · simp only [ring, Place.mk.injEq, Fin.ext_iff, Fin.val_rev, true_and]; omega
        · refine ⟨3, ⟨n - 1 - row - layer, ?_⟩, ?_⟩
          · simp only [ring]; omega
          · simp only [ring, Place.mk.injEq, Fin.ext_iff, Fin.val_rev, true_and]; omega

theorem woven_ring (face : Face) : Woven (ring (n := n) face) Place.clockwise where
  simple := ring_simple face
  apart := by
    intro first second place visits visits'
    rw [visits_ring_iff] at visits visits'
    exact Fin.ext (visits.2.symm.trans visits'.2)
  along := by
    intro layer side position
    match side with
    | 0 | 1 | 2 | 3 => simp [ring, Place.clockwise, Place.spun]

theorem strip_simple (axis : Axis) (layer : Fin n) : (strip axis layer).Simple := by
  rintro ⟨side, position⟩ ⟨side', position'⟩ same
  change Fin n at position position'
  -- The face tells the side, and the row or the column the position.
  cases axis <;> fin_cases side <;> fin_cases side' <;> simp_all [strip]

theorem visits_strip_iff (axis : Axis) (layer : Fin n) (place : Place n) :
    (strip axis layer).Visits place ↔ place.face.axis ≠ axis ∧ place.layer axis = layer := by
  constructor
  · rintro ⟨side, position, rfl⟩
    cases axis <;> fin_cases side <;> simp [strip, Face.axis, Place.layer]
  · obtain ⟨face, row, col⟩ := place
    rintro ⟨around, rfl⟩
    -- Four sides for each axis; a strip runs against the rows or columns of some of them.
    cases axis <;> cases face <;> simp only [Face.axis, ne_eq, not_true_eq_false] at around
    case x.right => exact ⟨0, col, rfl⟩
    case x.front => exact ⟨1, col, rfl⟩
    case x.left => exact ⟨2, col, rfl⟩
    case x.back => exact ⟨3, col, rfl⟩
    case y.front => exact ⟨0, row, rfl⟩
    case y.top => exact ⟨1, row, rfl⟩
    case y.back => exact ⟨2, row.rev, by simp [strip, Place.layer]⟩
    case y.bottom => exact ⟨3, row, rfl⟩
    case z.top => exact ⟨0, col, rfl⟩
    case z.right => exact ⟨1, row, by simp [strip, Place.layer]⟩
    case z.bottom => exact ⟨2, col.rev, by simp [strip, Place.layer]⟩
    case z.left => exact ⟨3, row.rev, by simp [strip, Place.layer]⟩

theorem woven_strip (axis : Axis) : Woven (strip (n := n) axis) (Place.quarter axis) where
  simple := strip_simple axis
  apart := by
    intro first second place visits visits'
    rw [visits_strip_iff] at visits visits'
    exact visits.2.symm.trans visits'.2
  along := by
    intro layer side position
    change Fin n at position
    cases axis <;> fin_cases side <;>
      simp [strip, Place.quarter, Place.carried, Face.carried]

end Loop

/-- Ring by ring, the cells of a face turn like the whole face. -/
theorem Face.spun_apply {α : Type} (face : Face) (turns : QuarterTurns) (value : Place n → α)
    (place : Place n) :
    face.spun turns value ((Place.spinning face ^ turns.toInt) place) = value place := by
  rw [QuarterTurns.toInt, spun]
  by_cases on : place.face = face
  · rw [Place.spinning_zpow_on on, zpow_natCast]
    by_cases ringed : place.depth < n / 2
    · exact (Loop.woven_ring face).foldl_advanced (List.nodup_finRange _) turns value
        (List.mem_finRange ⟨place.depth, ringed⟩)
        ((Loop.visits_ring_iff face _ place).mpr ⟨on, rfl⟩)
    · -- Only the middle cell lies on no ring.
      have fixed : Place.clockwise place = place := by
        obtain ⟨_, row, col⟩ := place
        simp only [Place.depth, Fin.val_rev] at ringed
        simp only [Place.clockwise, QuarterTurns.motion_apply, Place.spun, Place.mk.injEq,
          Fin.ext_iff, Fin.val_rev, true_and]
        omega
      have still (count : Nat) : (Place.clockwise ^ count) place = place := by
        induction count with
        | zero => rfl
        | succ count ih => rw [pow_succ', Equiv.Perm.mul_apply, ih, fixed]
      rw [still, Loop.foldl_advanced_off]
      intro layer _ visits
      have := (Loop.visits_ring_iff face layer place).mp visits
      omega
  · rw [Place.spinning_zpow_off on, Loop.foldl_advanced_off]
    intro layer _ visits
    exact on ((Loop.visits_ring_iff face layer place).mp visits).1

namespace Cube

theorem spin_eq_moved (cube : Cube n) (face : Face) (turns : QuarterTurns) :
    cube.spin face turns = cube.moved (Place.spinning face ^ turns.toInt) := by
  apply eq_moved
  intro place
  rw [get_spin, face.spun_apply]

theorem mem_layersFrom (start count : Nat) (layer : Fin n) :
    layer ∈ layersFrom n start count ↔ InLayers start count layer := by
  simp [layersFrom, InLayers]

theorem nodup_layersFrom (start count : Nat) : (layersFrom n start count).Nodup :=
  (List.nodup_finRange n).filter _

/-- Strip by strip, the cells around an axis turn like the axis. -/
theorem carry_eq_moved (cube : Cube n) (axis : Axis) (start count : Nat) (turns : QuarterTurns) :
    cube.carry axis start count turns =
      cube.moved (Place.strips axis start count ^ turns.toInt) := by
  apply eq_moved
  intro place
  rw [Place.strips_zpow_apply, QuarterTurns.toInt, zpow_natCast, carry, get_foldl_advance_eq]
  by_cases cut : place.face.axis ≠ axis ∧ InLayers start count (place.layer axis)
  · rw [if_pos cut]
    exact (Loop.woven_strip axis).foldl_advanced (nodup_layersFrom start count) turns cube.get
      ((mem_layersFrom start count _).mpr cut.2)
      ((Loop.visits_strip_iff axis _ place).mpr ⟨cut.1, rfl⟩)
  · rw [if_neg cut, Loop.foldl_advanced_off]
    intro layer member visits
    rw [mem_layersFrom] at member
    rw [Loop.visits_strip_iff] at visits
    exact cut ⟨visits.1, visits.2 ▸ member⟩

end Cube

theorem Axis.ends_ne (axis : Axis) : axis.ends.1 ≠ axis.ends.2 := by
  cases axis <;> decide

namespace Face

theorem sign_mul_sign (face : Face) : face.sign * face.sign = 1 := by
  cases face <;> rfl

/-- A cube of some thickness has the faces of an axis in different layers. -/
theorem eq_of_layer_eq (size : 2 ≤ n) {first second : Face} (axes : first.axis = second.axis)
    (layers : first.layer n = second.layer n) : first = second := by
  revert axes layers
  cases first <;> cases second <;> simp [axis, layer, isFar] <;> omega

theorem axis_eq_iff (face : Face) (axis : Axis) :
    face.axis = axis ↔ face = axis.ends.1 ∨ face = axis.ends.2 := by
  cases face <;> cases axis <;> simp [Face.axis, Axis.ends]

end Face

namespace Place

theorem layer_of_end (place : Place n) :
    (place.layer place.face.axis).val = place.face.layer n := by
  obtain ⟨face, row, col⟩ := place
  cases face <;> simp [layer, Face.axis, Face.layer, Face.isFar, Fin.val_rev]

theorem axis_quarter_zpow (axis : Axis) (turns : Int) (place : Place n) :
    ((quarter axis ^ turns) place).face.axis ≠ axis ↔ place.face.axis ≠ axis := by
  rw [QuarterTurns.zpow_eq_pow_ofInt (quarter_pow_four axis)]
  exact @QuarterTurns.moves_motion_pow _ (fun place => place.face.axis ≠ axis) _ _
    (axis_carried axis) _ place

theorem face_clockwise_pow (count : Nat) (place : Place n) :
    ((clockwise ^ count) place).face = place.face := by
  induction count with
  | zero => rfl
  | succ count ih =>
    rw [pow_succ', Equiv.Perm.mul_apply, ← ih]
    rfl

theorem face_clockwise_zpow (turns : Int) (place : Place n) :
    ((clockwise ^ turns) place).face = place.face := by
  rw [QuarterTurns.zpow_eq_pow_ofInt clockwise_pow_four, face_clockwise_pow]

theorem quarter_zpow_sign (place : Place n) :
    (quarter place.face.axis ^ place.face.sign) place = clockwise place := by
  obtain ⟨face, row, col⟩ := place
  cases face <;>
    simp [Face.axis, Face.sign, quarter, clockwise, spun, carried, Face.carried]

/-- At the ends of an axis a turn of the axis is a turn of the face upon itself. -/
theorem quarter_zpow_of_end (place : Place n) (turns : Int) :
    (quarter place.face.axis ^ (place.face.sign * turns)) place = (clockwise ^ turns) place := by
  have four : ((quarter place.face.axis : Equiv.Perm (Place n)) ^ place.face.sign) ^ 4 = 1 :=
    QuarterTurns.zpow_pow_four (quarter_pow_four _) _
  rw [zpow_mul, QuarterTurns.zpow_eq_pow_ofInt four,
    QuarterTurns.zpow_eq_pow_ofInt clockwise_pow_four]
  induction (QuarterTurns.ofInt turns).val with
  | zero => rfl
  | succ count ih =>
    -- The turned cell still lies on the face, so the next quarter turn is one of the face.
    have step := quarter_zpow_sign ((clockwise ^ count) place)
    rw [face_clockwise_pow] at step
    rw [pow_succ', pow_succ', Equiv.Perm.mul_apply, Equiv.Perm.mul_apply, ih, step]

end Place

namespace Cube

/-- Turning a face turns the layer that the face lies in. -/
theorem turnFace_eq_moved (size : 2 ≤ n) (cube : Cube n) (face : Face) (turns : QuarterTurns) :
    cube.turnFace face turns =
      cube.moved (Place.sweep face.axis (face.layer n) 1 ^ (face.sign * turns.toInt)) := by
  rw [turnFace, spin_eq_moved, carry_eq_moved, moved_moved,
    QuarterTurns.zpow_toInt_signed (Place.strips_pow_four ..)]
  congr 1
  apply Equiv.ext
  intro place
  rw [Equiv.Perm.mul_apply, Place.sweep_zpow_apply, Place.strips_zpow_apply]
  -- The cells of the face are spun only, those around the axis are carried only, and those of
  -- the opposite face lie in another layer and stay.
  by_cases on : place.face = face
  · subst on
    have inside : InLayers (place.face.layer n) 1 (place.layer place.face.axis) := by
      simp only [InLayers, place.layer_of_end]
      omega
    rw [Place.spinning_zpow_on rfl, if_pos inside, Place.quarter_zpow_of_end, if_neg]
    rw [Place.face_clockwise_zpow]
    simp
  · rw [Place.spinning_zpow_off on]
    by_cases around : place.face.axis ≠ face.axis
    · simp only [ne_eq, around, not_false_eq_true, true_and]
    · rw [not_not] at around
      rw [if_neg fun cut => cut.1 around, if_neg]
      intro inside
      rw [← around, InLayers, place.layer_of_end] at inside
      exact on (Face.eq_of_layer_eq size around (by omega))

/-- Turning inner layers turns nothing at the ends of the axis. -/
theorem turnLayers_eq_moved (cube : Cube n) (axis : Axis) {start count : Nat} (inner : 1 ≤ start)
    (fits : start + count + 1 ≤ n) (turns : QuarterTurns) :
    cube.turnLayers axis start count turns =
      cube.moved (Place.sweep axis start count ^ turns.toInt) := by
  rw [turnLayers, carry_eq_moved]
  congr 1
  apply Equiv.ext
  intro place
  rw [Place.strips_zpow_apply, Place.sweep_zpow_apply]
  by_cases around : place.face.axis ≠ axis
  · simp only [ne_eq, around, not_false_eq_true, true_and]
  · rw [not_not] at around
    rw [if_neg fun cut => cut.1 around, if_neg]
    intro inside
    -- The faces at the ends lie in the outer layers, and none of these is turned.
    rw [← around, InLayers, place.layer_of_end, Face.layer] at inside
    split at inside <;> omega

theorem turnWhole_eq_moved (cube : Cube n) (axis : Axis) (turns : QuarterTurns) :
    cube.turnWhole axis turns = cube.moved (Place.sweep axis 0 n ^ turns.toInt) := by
  simp only [turnWhole, carry_eq_moved, spin_eq_moved, moved_moved]
  congr 1
  apply Equiv.ext
  intro place
  have inside := inLayers_all (place.layer axis)
  have spins : (Place.clockwise ^ (place.face.sign * turns.toInt)) place =
      (Place.quarter place.face.axis ^ turns.toInt) place := by
    rw [← place.quarter_zpow_of_end, ← Int.mul_assoc, Face.sign_mul_sign, Int.one_mul]
  rw [QuarterTurns.zpow_toInt_signed (Place.spinning_pow_four ..),
    QuarterTurns.zpow_toInt_signed (Place.spinning_pow_four ..), Equiv.Perm.mul_apply,
    Equiv.Perm.mul_apply, Place.strips_zpow_apply, Place.sweep_zpow_apply, if_pos inside]
  by_cases around : place.face.axis ≠ axis
  -- A cell around the axis is carried, and lies at no end afterwards.
  · have landed := (Place.axis_quarter_zpow axis turns.toInt place).mpr around
    rw [ne_eq, Face.axis_eq_iff, not_or] at landed
    rw [if_pos ⟨around, inside⟩, Place.spinning_zpow_off landed.1,
      Place.spinning_zpow_off landed.2]
  -- A cell at an end is not carried, and is spun with its own face.
  · rw [if_neg fun cut => around cut.1]
    rw [not_not] at around
    rw [around] at spins
    rcases (Face.axis_eq_iff place.face axis).mp around with near | far
    · have leaves : ((Place.clockwise ^ (axis.ends.1.sign * turns.toInt)) place).face ≠
          axis.ends.2 := by
        rw [Place.face_clockwise_zpow, near]
        exact axis.ends_ne
      rw [near] at spins
      rw [Place.spinning_zpow_on near, Place.spinning_zpow_off leaves, spins]
    · have misses : place.face ≠ axis.ends.1 := by
        rw [far]
        exact axis.ends_ne.symm
      rw [far] at spins
      rw [Place.spinning_zpow_off misses, Place.spinning_zpow_on far, spins]

end Cube

end Cubing
