import Cubing.Proofs.Moves.Motions
import Cubing.Proofs.Moves.Rendering

/-!
# Undoing moves

The inverse of a list of items has the items in reverse order, at every level,
and turns each target as far the other way. Its motion is the inverse motion
(`Item.motionOfAll_inverseAll`), and it fits the same sizes.
-/
namespace Cubing

namespace Modifier

/-- The other sense of rotation. A half turn has none. -/
def inverse : Modifier → Modifier
  | .none => .prime
  | .prime => .none
  | .double => .double

theorem zpow_inverse {α : Type} {motion : Equiv.Perm α} (four : motion ^ 4 = 1)
    (modifier : Modifier) :
    motion ^ modifier.inverse.turns.toInt = (motion ^ modifier.turns.toInt)⁻¹ := by
  -- Together they make a full turn, which no cell notices.
  have total : modifier.inverse.turns.toInt + modifier.turns.toInt = (4 : Nat) := by
    cases modifier <;> rfl
  rw [eq_inv_iff_mul_eq_one, ← zpow_add, total, zpow_natCast, four]

end Modifier

namespace Item

mutual

/-- The item that undoes an item. -/
def inverse : Item → Item
  | .move target modifier position => .move target modifier.inverse position
  | .group items times position => .group (inverseAll items) times position

/-- The items that undo items, the last one first. -/
def inverseAll : List Item → List Item
  | [] => []
  | item :: items => inverseAll items ++ [item.inverse]

end

theorem inverseAll_ne_nil {items : List Item} (nonempty : items ≠ []) :
    inverseAll items ≠ [] := by
  cases items with
  | nil => exact absurd rfl nonempty
  | cons item items => exact List.append_ne_nil_of_right_ne_nil _ (List.cons_ne_nil _ _)

theorem allWellFormed_append {first second : List Item} (wellFormed : AllWellFormed first)
    (wellFormed' : AllWellFormed second) : AllWellFormed (first ++ second) := by
  induction first with
  | nil => exact wellFormed'
  | cons item first ih => exact ⟨wellFormed.1, ih wellFormed.2⟩

mutual

theorem wellFormed_inverse : (item : Item) → item.WellFormed → item.inverse.WellFormed
  | .move _ _ _, wellFormed => wellFormed
  | .group items _ _, ⟨nonempty, least, greatest, wellFormed⟩ =>
    ⟨inverseAll_ne_nil nonempty, least, greatest, allWellFormed_inverseAll items wellFormed⟩

/-- The inverse of items that can be written can be written. -/
theorem allWellFormed_inverseAll :
    (items : List Item) → AllWellFormed items → AllWellFormed (inverseAll items)
  | [], _ => trivial
  | item :: items, ⟨wellFormed, others⟩ =>
    allWellFormed_append (allWellFormed_inverseAll items others)
      ⟨wellFormed_inverse item wellFormed, trivial⟩

end

mutual

theorem fits_inverse_iff (n : Nat) : (item : Item) →
    ((∀ action ∈ item.inverse.actions, action.Fits n) ↔ ∀ action ∈ item.actions, action.Fits n)
  | .move target _ _ => target.fits_actions_iff n _ _
  | .group items _ _ => by
    rw [inverse, actions, actions, Action.fits_replicate_iff, Action.fits_replicate_iff,
      fits_inverseAll_iff n items]

/-- The inverse of items fits the sizes that the items fit. -/
theorem fits_inverseAll_iff (n : Nat) : (items : List Item) →
    ((∀ action ∈ actionsOfAll (inverseAll items), action.Fits n) ↔
      ∀ action ∈ actionsOfAll items, action.Fits n)
  | [] => Iff.rfl
  | item :: items => by
    rw [inverseAll, actionsOfAll_append, actionsOfAll, actionsOfAll, actionsOfAll,
      List.append_nil, List.forall_mem_append, List.forall_mem_append, fits_inverse_iff n item,
      fits_inverseAll_iff n items, and_comm]

end

mutual

theorem motion_inverse (n : Nat) : (item : Item) → item.inverse.motion n = (item.motion n)⁻¹
  | .move target modifier _ => modifier.zpow_inverse (target.motion_pow_four n)
  | .group items _ _ => by rw [inverse, motion, motion, motionOfAll_inverseAll n items, inv_pow]

/-- The inverse of items makes the inverse motion. -/
theorem motionOfAll_inverseAll (n : Nat) :
    (items : List Item) → motionOfAll n (inverseAll items) = (motionOfAll n items)⁻¹
  | [] => inv_one.symm
  | item :: items => by
    rw [inverseAll, motionOfAll_append, motionOfAll, motionOfAll, motionOfAll, one_mul,
      motion_inverse n item, motionOfAll_inverseAll n items, mul_inv_rev]

end

end Item

theorem compileMoves_of_read {text : String} {items : List Item}
    (read : readMoves text = .ok items) : compileMoves text = .ok (Item.actionsOfAll items) := by
  rw [compileMoves, read]
  rfl

/-- However the inverse of a text is laid out, its actions are those of the inverse items. -/
theorem compileMoves_renderAll_inverseAll {text : String} {items : List Item}
    (read : readMoves text = .ok items) (layout : Layout) :
    compileMoves (String.ofList (Item.renderAll layout 0 (Item.inverseAll items))) =
      .ok (Item.actionsOfAll (Item.inverseAll items)) := by
  -- What has been read can be written, and so can its inverse.
  obtain ⟨wellFormed, nonempty⟩ := (readMoves_eq_ok_iff.mp read).wellFormed
  obtain ⟨placed, reads, same⟩ := readMoves_renderAll layout
    (Item.inverseAll_ne_nil (nonempty rfl)) (Item.allWellFormed_inverseAll items wellFormed)
  rw [compileMoves_of_read reads, ← Item.actionsOfAll_unplacedAll placed, same,
    Item.actionsOfAll_unplacedAll]

/-- The inverse of a text can be read, applies to the cubes of the sizes that the text applies to,
and undoes on each of them what the text does, as the text undoes what the inverse does. -/
theorem inverse_text_undoes {text : String} {items : List Item}
    (read : readMoves text = .ok items) (layout : Layout) :
    ∃ actions undoing, compileMoves text = .ok actions ∧
      compileMoves (String.ofList (Item.renderAll layout 0 (Item.inverseAll items))) =
        .ok undoing ∧
      (∀ (net other : Net) (n : Nat), net.validate none = .ok n → other.validate none = .ok n →
        ((∃ turned, net.applyAll actions = .ok turned) ↔
          ∃ turned, other.applyAll undoing = .ok turned)) ∧
      (∀ (net turned : Net) (n : Nat), net.validate none = .ok n →
        net.applyAll actions = .ok turned → turned.applyAll undoing = .ok net) ∧
      ∀ (net turned : Net) (n : Nat), net.validate none = .ok n →
        net.applyAll undoing = .ok turned → turned.applyAll actions = .ok net := by
  refine ⟨_, _, compileMoves_of_read read, compileMoves_renderAll_inverseAll read layout,
    ?_, ?_, ?_⟩
  · intro net other n valid valid'
    obtain ⟨⟨_, cube⟩, readable, rfl⟩ := map_eq_ok.mp valid
    obtain ⟨⟨_, cube'⟩, readable', rfl⟩ := map_eq_ok.mp valid'
    -- On both sides it is only asked whether the actions fit the common size.
    simp only [Net.applyAll_eq_ok_iff readable, Net.applyAll_eq_ok_iff readable',
      Item.fits_inverseAll_iff, exists_eq_right]
  · intro net turned n valid applied
    obtain ⟨⟨_, cube⟩, readable, rfl⟩ := map_eq_ok.mp valid
    have fits := ((Net.applyAll_eq_ok_iff readable).mp applied).1
    refine Net.applyAll_applyAll readable applied ((Item.fits_inverseAll_iff _ items).mpr fits) ?_
    rw [Item.motionAll_actionsOfAll, Item.motionAll_actionsOfAll, Item.motionOfAll_inverseAll,
      inv_mul_cancel]
  · intro net turned n valid applied
    obtain ⟨⟨_, cube⟩, readable, rfl⟩ := map_eq_ok.mp valid
    have fits := ((Net.applyAll_eq_ok_iff readable).mp applied).1
    refine Net.applyAll_applyAll readable applied ((Item.fits_inverseAll_iff _ items).mp fits) ?_
    rw [Item.motionAll_actionsOfAll, Item.motionAll_actionsOfAll, Item.motionOfAll_inverseAll,
      mul_inv_cancel]

theorem inverse_text_undoes_wide_turn :
    ∃ actions undoing turned, compileMoves "r (U' F2)2" = .ok actions ∧
      compileMoves "(F2 U)2 r'" = .ok undoing ∧
      (Cube.solved 3).toNet.validate none = .ok 3 ∧
      (Cube.solved 3).toNet.applyAll actions = .ok turned ∧
      turned.applyAll undoing = .ok (Cube.solved 3).toNet := by
  have read : readMoves "r (U' F2)2" = .ok [.move (.wideLetter .right) .none 0,
      .group [.move (.single .top) .prime 3, .move (.single .front) .double 6] 2 2] := rfl
  obtain ⟨_, _, compiled, inverted, -, undone, -⟩ := inverse_text_undoes read Layout.plain
  cases (compileMoves_of_read read).symm.trans compiled
  exact ⟨_, _, _, compiled, inverted, rfl, rfl, undone _ _ 3 rfl rfl⟩

end Cubing
