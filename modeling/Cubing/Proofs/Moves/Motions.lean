import Mathlib.Algebra.Group.Commute.Basic
import Cubing.Moves.Actions
import Cubing.Proofs.Moves.Grammar
import Cubing.Proofs.Turn.Actions

/-!
# Moves as motions

Every target has one motion, and its moves are the powers of that motion. Where
a move is two actions, both turn layers of one axis, so that it makes no
difference which of them is made first (`Target.motionAll_actions`). Items make
the motions of their moves one after the other, and groups are powers
(`Item.motionAll_actionsOfAll`). Neither the motion nor the sizes that fit depend
on the places where the items stand in a text.
-/
namespace Cubing

section Lists

variable {n : Nat} {actions : List Action} {times : Nat}

theorem Action.motionAll_replicate :
    motionAll n (List.replicate times actions).flatten = motionAll n actions ^ times := by
  induction times with
  | zero => rfl
  | succ times ih => rw [List.replicate_succ, List.flatten_cons, motionAll_append, ih, pow_succ]

theorem Action.fits_replicate_iff :
    (∀ action ∈ (List.replicate times actions).flatten, action.Fits n) ↔
      (times ≠ 0 → ∀ action ∈ actions, action.Fits n) := by
  simp only [List.mem_flatten, List.mem_replicate]
  -- Repeating never adds an action, but repeating zero times takes all of them away.
  constructor
  · intro fits again action member
    exact fits action ⟨actions, ⟨again, rfl⟩, member⟩
  · rintro fits action ⟨_, ⟨again, rfl⟩, member⟩
    exact fits again action member

end Lists

/-- Layers behind a face fit if there are so many inner layers, from whichever face they are
counted. -/
theorem Action.fits_behind_iff {n : Nat} {face : Face} {start depth : Int} (inner : 1 ≤ start)
    (nonempty : 1 ≤ depth) (turns : Int) :
    (Action.behind face start depth turns).Fits n ↔ start + depth ≤ (n : Int) - 1 := by
  simp only [behind, Fits, firstLayer]
  -- On a far face the count is negative, and the first layer is reckoned from the size.
  cases face.isFar <;> simp only [Bool.false_eq_true, if_false, if_true] <;> split <;> omega

variable (n : Nat)

namespace Face

/-- A clockwise turn of a face, as a motion of the cells. -/
def turn (face : Face) : Equiv.Perm (Place n) :=
  Place.sweep face.axis (face.layer n) 1 ^ face.sign

/-- A turn of layers behind a face, clockwise like the face. -/
def turnBehind (face : Face) (start depth : Int) : Equiv.Perm (Place n) :=
  (Action.behind face start depth 1).motion n

theorem turn_pow_four (face : Face) : face.turn n ^ 4 = 1 :=
  QuarterTurns.zpow_pow_four (Place.sweep_pow_four ..) _

theorem turnBehind_pow_four (face : Face) (start depth : Int) :
    face.turnBehind n start depth ^ 4 = 1 :=
  QuarterTurns.zpow_pow_four (Place.sweep_pow_four ..) _

theorem turnBehind_commute_turn (face : Face) (start depth : Int) :
    Commute (face.turnBehind n start depth) (face.turn n) :=
  Commute.zpow_zpow (Place.sweep_commute ..) _ _

theorem motion_turnFace (face : Face) (turns : QuarterTurns) :
    (Action.turnFace face turns).motion n = face.turn n ^ turns.toInt :=
  zpow_mul ..

theorem motion_behind (face : Face) (start depth turns : Int) :
    (Action.behind face start depth turns).motion n = face.turnBehind n start depth ^ turns := by
  simp only [turnBehind, Action.behind, Action.motion]
  rw [QuarterTurns.zpow_toInt_ofInt (Place.sweep_pow_four ..),
    QuarterTurns.zpow_toInt_ofInt (Place.sweep_pow_four ..), Int.mul_one, zpow_mul]

/-- A turn of a face and of layers behind it is a single motion. -/
theorem motionAll_wide (face : Face) (start depth : Int) (turns : QuarterTurns) :
    Action.motionAll n [.turnFace face turns, .behind face start depth turns.toInt] =
      (face.turnBehind n start depth * face.turn n) ^ turns.toInt := by
  -- Both turn layers of the axis of the face, so the powers can be taken apart.
  rw [(face.turnBehind_commute_turn n start depth).mul_zpow, ← motion_behind, ← motion_turnFace]
  simp only [Action.motionAll, one_mul]

theorem wide_pow_four (face : Face) (start depth : Int) :
    (face.turnBehind n start depth * face.turn n) ^ 4 = 1 := by
  rw [(face.turnBehind_commute_turn n start depth).mul_pow, turnBehind_pow_four, turn_pow_four,
    one_mul]

end Face

namespace Target

/-- The motion of a clockwise move of a target. -/
def motion : Target → Equiv.Perm (Place n)
  | .single face => face.turn n
  | .middle axis => Place.sweep axis 1 1 ^ axis.middleSign
  | .whole axis _ => Place.sweep axis 0 n
  | .wideLetter face | .wide face => face.turnBehind n 1 1 * face.turn n
  | .deepWide digit face => face.turnBehind n 1 digit * face.turn n
  | .subscript face depth => face.turnBehind n 1 depth * face.turn n
  | .innerSlice digit face => face.turnBehind n 1 digit
  | .innerBlock digit face depth => face.turnBehind n digit depth

theorem motion_pow_four (target : Target) : target.motion n ^ 4 = 1 := by
  cases target with
  | single face => exact face.turn_pow_four n
  | middle axis => exact QuarterTurns.zpow_pow_four (Place.sweep_pow_four ..) _
  | whole axis => exact Place.sweep_pow_four ..
  | wideLetter face | wide face | deepWide _ face | subscript face =>
    exact face.wide_pow_four n _ _
  | innerSlice _ face | innerBlock _ face => exact face.turnBehind_pow_four n _ _

/-- The actions of a move make a power of the motion of its target. -/
theorem motionAll_actions (target : Target) (turns : QuarterTurns) :
    Action.motionAll n (target.actions turns) = target.motion n ^ turns.toInt := by
  cases target with
  | single face => exact (one_mul _).trans (face.motion_turnFace n turns)
  | middle axis =>
    refine (one_mul _).trans ?_
    -- The sense of a middle layer is that of the face it is named after.
    rw [Action.motion, QuarterTurns.zpow_toInt_signed (Place.sweep_pow_four ..), zpow_mul]
    rfl
  | whole axis => exact one_mul _
  | wideLetter face | wide face | deepWide _ face | subscript face =>
    exact face.motionAll_wide n _ _ turns
  | innerSlice _ face | innerBlock _ face =>
    exact (one_mul _).trans (face.motion_behind n _ _ turns.toInt)

/-- How far a target is turned makes no difference to whether it fits. -/
theorem fits_actions_iff (target : Target) (turns turns' : QuarterTurns) :
    (∀ action ∈ target.actions turns, action.Fits n) ↔
      ∀ action ∈ target.actions turns', action.Fits n := by
  -- The turns appear in no condition, so both sides are the same.
  cases target <;> simp [actions, Action.behind, Action.Fits]

end Target

namespace Item

mutual

def motion : Item → Equiv.Perm (Place n)
  | .move target modifier _ => target.motion n ^ modifier.turns.toInt
  | .group items times _ => motionOfAll items ^ times

/-- The motions of items, the first one first. -/
def motionOfAll : List Item → Equiv.Perm (Place n)
  | [] => 1
  | item :: items => motionOfAll items * item.motion

end

mutual

theorem motionAll_actions : (item : Item) → Action.motionAll n item.actions = item.motion n
  | .move target modifier _ => target.motionAll_actions n modifier.turns
  | .group items times _ => by
    rw [actions, Action.motionAll_replicate, motionAll_actionsOfAll items, motion]

/-- The actions of items make the motion of the items. -/
theorem motionAll_actionsOfAll :
    (items : List Item) → Action.motionAll n (actionsOfAll items) = motionOfAll n items
  | [] => rfl
  | item :: items => by
    rw [actionsOfAll, Action.motionAll_append, motionAll_actionsOfAll items,
      motionAll_actions item, motionOfAll]

end

theorem motionOfAll_append (first second : List Item) :
    motionOfAll n (first ++ second) = motionOfAll n second * motionOfAll n first := by
  induction first with
  | nil => rw [List.nil_append, motionOfAll, mul_one]
  | cons item first ih => rw [List.cons_append, motionOfAll, ih, motionOfAll, mul_assoc]

theorem actionsOfAll_append (first second : List Item) :
    actionsOfAll (first ++ second) = actionsOfAll first ++ actionsOfAll second := by
  induction first with
  | nil => rfl
  | cons item first ih => rw [List.cons_append, actionsOfAll, ih, actionsOfAll, List.append_assoc]

mutual

theorem actions_unplaced : (item : Item) → item.unplaced.actions = item.actions
  | .move _ _ _ => rfl
  | .group items times _ => by rw [unplaced, actions, actions, actionsOfAll_unplacedAll items]

/-- The places of items make no difference to what they do. -/
theorem actionsOfAll_unplacedAll :
    (items : List Item) → actionsOfAll (unplacedAll items) = actionsOfAll items
  | [] => rfl
  | item :: items => by
    rw [unplacedAll, actionsOfAll, actions_unplaced item, actionsOfAll_unplacedAll items,
      actionsOfAll]

end

end Item

end Cubing
