import Mathlib.Algebra.Group.Semiconj.Basic
import Cubing.Proofs.Moves.Motions

/-!
# Layers counted from a face

The layers of a cube can be counted from any face, the layer of the face first,
and turned in the sense of that face (`Face.turnFrom`). Turning the whole cube
carries a face to another one, and everything that is said of the layers behind
the face to the layers behind its image (`Face.semiconjBy_turnFrom`). Bringing a
face to the front is such a turn (`Place.focus`). All cells are carried along with
the sides, and where the sides go decides where the cells go
(`Place.GoesWith.unique`).
-/
namespace Cubing

variable {n : Nat}

namespace Place

/-- The number of layers between a face and a cell. -/
def distance (face : Face) (place : Place n) : Fin n :=
  if face.isFar then (place.layer face.axis).rev else place.layer face.axis

/-- A clockwise turn of a face that takes the whole cube along. -/
def around (face : Face) : Equiv.Perm (Place n) := quarter face.axis ^ face.sign

theorem distance_carried (axis : Axis) (face : Face) (place : Place n) :
    (carried axis place).distance (face.carried axis) = place.distance face := by
  obtain ⟨side, row, col⟩ := place
  cases axis <;> cases face <;> cases side <;>
    simp [distance, carried, layer, Face.carried, Face.axis, Face.isFar]

theorem around_carried (axis : Axis) (face : Face) (place : Place n) :
    around (face.carried axis) (carried axis place) = carried axis (around face place) := by
  obtain ⟨side, row, col⟩ := place
  cases axis <;> cases face <;> cases side <;>
    simp [around, quarter, carried, Face.carried, Face.axis, Face.sign]

/-- A turn of all layers is a turn of the whole cube. -/
theorem sweep_all (axis : Axis) : (sweep axis 0 n : Equiv.Perm (Place n)) = quarter axis := by
  apply Equiv.ext
  intro place
  simp [sweep_apply, inLayers_all, quarter]

end Place

namespace Face

/-- A turn of some layers in the sense of a face, from which they are counted. -/
def turnFrom (n : Nat) (face : Face) (start count : Nat) : Equiv.Perm (Place n) :=
  Place.sweep face.axis (if face.isFar then n - (start + count) else start) count ^ face.sign

theorem turnFrom_apply (face : Face) {start count : Nat} (fits : start + count ≤ n)
    (place : Place n) :
    face.turnFrom n start count place =
      if InLayers start count (place.distance face) then Place.around face place else place := by
  -- On a far face the count goes backwards, and the last layer comes first.
  have counted : InLayers (if face.isFar then n - (start + count) else start) count
      (place.layer face.axis) ↔ InLayers start count (place.distance face) := by
    have := (place.layer face.axis).isLt
    simp only [InLayers, Place.distance]
    split
    · rw [Fin.val_rev]
      omega
    · rfl
  rw [turnFrom, Place.sweep_zpow_apply, Place.around]
  simp only [counted]

theorem turnFrom_pow_four (face : Face) (start count : Nat) :
    face.turnFrom n start count ^ 4 = 1 :=
  QuarterTurns.zpow_pow_four (Place.sweep_pow_four ..) _

/-- A quarter turn of the whole cube takes the layers behind a face to those behind its image. -/
theorem semiconjBy_turnFrom (axis : Axis) (face : Face) {start count : Nat}
    (fits : start + count ≤ n) :
    SemiconjBy (Place.quarter axis) (face.turnFrom n start count)
      ((face.carried axis).turnFrom n start count) := by
  apply Equiv.ext
  intro place
  have moved (place : Place n) : Place.quarter axis place = Place.carried axis place := rfl
  rw [Equiv.Perm.mul_apply, Equiv.Perm.mul_apply, turnFrom_apply face fits,
    turnFrom_apply (face.carried axis) fits, moved, moved, Place.distance_carried]
  by_cases inside : InLayers start count (place.distance face)
  · rw [if_pos inside, if_pos inside, Place.around_carried]
  · rw [if_neg inside, if_neg inside]

theorem semiconjBy_turnFrom_zpow (axis : Axis) (amount : Int) (face : Face) {start count : Nat}
    (fits : start + count ≤ n) (turns : Int) :
    SemiconjBy (Place.quarter axis ^ amount) (face.turnFrom n start count ^ turns)
      (((quarter axis ^ amount) face).turnFrom n start count ^ turns) := by
  apply SemiconjBy.zpow_right
  rw [QuarterTurns.zpow_eq_pow_ofInt (Place.quarter_pow_four axis),
    QuarterTurns.zpow_eq_pow_ofInt (quarter_pow_four axis)]
  -- The induction is on the quarter turns; each of them carries the face on to the next one.
  induction (QuarterTurns.ofInt amount).val with
  | zero => exact SemiconjBy.one_left _
  | succ count ih =>
    rw [pow_succ', pow_succ', Equiv.Perm.mul_apply]
    exact (semiconjBy_turnFrom axis _ fits).mul_left ih

/-- The turn that brings a face to the front, as a motion of the sides. -/
def focus (face : Face) : Equiv.Perm Face :=
  match face.focusTurn with
  | some (axis, turns) => quarter axis ^ turns
  | none => 1

theorem focus_self (face : Face) : face.focus face = .front := by
  cases face <;> decide

end Face

/-- The turn that brings a face to the front, as a motion of the cells. -/
def Place.focus (face : Face) : Equiv.Perm (Place n) :=
  match face.focusTurn with
  | some (axis, turns) => quarter axis ^ turns
  | none => 1

namespace Face

/-- When a face comes to the front, the layers behind any face go with that face. -/
theorem semiconjBy_focus (face other : Face) {start count : Nat} (fits : start + count ≤ n)
    (turns : Int) :
    SemiconjBy (Place.focus face) (other.turnFrom n start count ^ turns)
      ((face.focus other).turnFrom n start count ^ turns) := by
  simp only [Place.focus, focus]
  split
  · exact semiconjBy_turnFrom_zpow _ _ other fits turns
  · exact SemiconjBy.one_left _

end Face

namespace Place

/-- A motion of the cells goes with a motion of the sides if a cell comes to lie as far from the
image of a side as it lay from the side. -/
structure GoesWith (motion : Equiv.Perm (Place n)) (sides : Equiv.Perm Face) : Prop where
  face : ∀ place, (motion place).face = sides place.face
  distance : ∀ place side, (motion place).distance (sides side) = place.distance side

theorem goesWith_one : GoesWith (1 : Equiv.Perm (Place n)) 1 := ⟨fun _ => rfl, fun _ _ => rfl⟩

theorem GoesWith.mul {motion motion' : Equiv.Perm (Place n)} {sides sides' : Equiv.Perm Face}
    (goes : GoesWith motion sides) (goes' : GoesWith motion' sides') :
    GoesWith (motion * motion') (sides * sides') where
  face place := (goes.face _).trans (congrArg sides (goes'.face place))
  distance place side := (goes.distance _ _).trans (goes'.distance place side)

theorem goesWith_quarter (axis : Axis) :
    GoesWith (quarter axis : Equiv.Perm (Place n)) (Face.quarter axis) where
  face place := by
    obtain ⟨face, row, col⟩ := place
    cases axis <;> cases face <;> rfl
  distance place side := distance_carried axis side place

theorem goesWith_quarter_zpow (axis : Axis) (turns : Int) :
    GoesWith (quarter axis ^ turns : Equiv.Perm (Place n)) (Face.quarter axis ^ turns) := by
  rw [QuarterTurns.zpow_eq_pow_ofInt (quarter_pow_four axis),
    QuarterTurns.zpow_eq_pow_ofInt (Face.quarter_pow_four axis)]
  induction (QuarterTurns.ofInt turns).val with
  | zero => exact goesWith_one
  | succ count ih =>
    rw [pow_succ', pow_succ']
    exact (goesWith_quarter axis).mul ih

theorem goesWith_focus (face : Face) :
    GoesWith (focus face : Equiv.Perm (Place n)) face.focus := by
  simp only [focus, Face.focus]
  split
  · exact goesWith_quarter_zpow _ _
  · exact goesWith_one

/-- A cell is found by its face and its distances from all sides. -/
theorem ext_distance {place other : Place n} (faces : place.face = other.face)
    (distances : ∀ side, place.distance side = other.distance side) : place = other := by
  obtain ⟨face, row, col⟩ := place
  obtain ⟨_, row', col'⟩ := other
  subst faces
  -- Two of the near faces give the row and the column, or count them from the other end.
  have top := distances .top
  have left := distances .left
  have back := distances .back
  cases face <;> simp_all [distance, layer, Face.axis, Face.isFar]

/-- A motion of the sides has only one motion of the cells that goes with it. -/
theorem GoesWith.unique {motion motion' : Equiv.Perm (Place n)} {sides : Equiv.Perm Face}
    (goes : GoesWith motion sides) (goes' : GoesWith motion' sides) : motion = motion' := by
  apply Equiv.ext
  intro place
  apply ext_distance
  · rw [goes.face, goes'.face]
  · intro side
    obtain ⟨side, rfl⟩ := sides.surjective side
    rw [goes.distance, goes'.distance]

end Place

section Motions

theorem Action.motion_focus (face : Face) (turns : QuarterTurns) :
    (Action.focus face turns).motion n = Place.focus face := by
  cases focused : face.focusTurn with
  | none => simp only [Action.motion, Place.focus, focused]
  | some turn => simp only [Action.motion, Place.focus, focused, Place.sweep_all]

theorem Face.turn_eq_turnFrom (face : Face) : face.turn n = face.turnFrom n 0 1 := by
  rw [turn, turnFrom, layer, Nat.zero_add]

theorem Face.turnBehind_eq_turnFrom (face : Face) {start depth : Int} (inner : 1 ≤ start)
    (nonempty : 1 ≤ depth) (fits : start + depth ≤ (n : Int) - 1) :
    face.turnBehind n start depth = face.turnFrom n start.toNat depth.toNat := by
  have first : (Action.firstLayer n (if face.isFar then -(start + depth) else start)).toNat =
      if face.isFar then n - (start.toNat + depth.toNat) else start.toNat := by
    simp only [Action.firstLayer]
    cases face.isFar <;> simp <;> omega
  simp only [turnBehind, Action.behind, Action.motion, turnFrom, first]
  rw [QuarterTurns.zpow_toInt_ofInt (Place.sweep_pow_four ..), Int.mul_one]

end Motions

end Cubing
