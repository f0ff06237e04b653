import Cubing.Proofs.Moves.Undoing

/-!
# Moves that fit

A text of moves can be applied to the cubes of some sizes and fails on all
others. Which sizes these are is decided by the targets of its moves, at any depth
of groups (`Target.Fits`), and it makes no difference from which face layers are
counted. The actions of a text are checked one after the other without a look at
the cube (`Action.checkAll`), so a text that fails does so for one and the same
reason on all cubes of a size.
-/
namespace Cubing

variable {n : Nat}

namespace Action

/-- Checks an action against the size of a cube. Only a slice can fail to fit. -/
def check (n : Nat) : Action → Except Fault Unit
  | .turnSlice _ offset count _ => Cube.checkSlice n (firstLayer n offset) count
  | _ => .ok ()

/-- Checks actions in order, up to the first that does not fit. -/
def checkAll (n : Nat) : List Action → Except Fault Unit
  | [] => .ok ()
  | action :: actions => do
    action.check n
    checkAll n actions

theorem check_eq_ok_iff {action : Action} : action.check n = .ok () ↔ action.Fits n := by
  cases action with
  | turnSlice axis offset count turns => exact Cube.checkSlice_eq_ok_iff
  | turnFace | turnWhole | focus => exact iff_of_true rfl trivial

theorem checkAll_eq_ok_iff {actions : List Action} :
    checkAll n actions = .ok () ↔ ∀ action ∈ actions, action.Fits n := by
  induction actions with
  | nil => exact iff_of_true rfl (fun _ member => absurd member List.not_mem_nil)
  | cons action actions ih =>
    rw [checkAll, bind_eq_ok, List.forall_mem_cons, ← ih, ← check_eq_ok_iff]
    exact Unique.exists_iff

end Action

namespace Cube

/-- An action goes wrong on a cube just as its check does. -/
theorem map_apply (cube : Cube n) (action : Action) :
    (fun _ => ()) <$> cube.apply action = action.check n := by
  cases action with
  | turnSlice axis offset count turns =>
    simp only [apply, turnSlice, Action.check]
    cases checkSlice n (Action.firstLayer n offset) count <;> rfl
  | turnFace | turnWhole | focus => rfl

theorem map_applyAll (cube : Cube n) (actions : List Action) :
    (fun _ => ()) <$> cube.applyAll actions = Action.checkAll n actions := by
  induction actions generalizing cube with
  | nil => rfl
  | cons action actions ih =>
    rw [applyAll, Action.checkAll, ← cube.map_apply]
    cases cube.apply action with
    | error fault => rfl
    -- The later actions are checked without regard to the cube that they come to.
    | ok turned => exact ih turned

end Cube

/-- Actions fail on a net that can be read for a reason that only its size decides. -/
theorem Net.applyAll_eq_error_iff {net : Net} (valid : net.validate none = .ok n)
    {actions : List Action} {fault : Fault} :
    net.applyAll actions = .error fault ↔ Action.checkAll n actions = .error fault := by
  obtain ⟨cube, rfl, large, balanced, -⟩ := Net.validate_eq_ok_iff.mp valid
  rw [applyAll_toNet large balanced, ← cube.map_applyAll]
  cases cube.applyAll actions with
  | error reason => exact ⟨fun | rfl => rfl, fun | rfl => rfl⟩
  | ok turned => exact iff_of_false nofun nofun

theorem Net.exists_applyAll_iff {net : Net} (valid : net.validate none = .ok n)
    {actions : List Action} :
    (∃ turned, net.applyAll actions = .ok turned) ↔ ∀ action ∈ actions, action.Fits n := by
  obtain ⟨⟨_, cube⟩, readable, rfl⟩ := map_eq_ok.mp valid
  simp only [applyAll_eq_ok_iff readable, exists_and_left, exists_eq, and_true]

/-- Actions that are checked alike and make the same motion come out alike. -/
theorem Net.applyAll_congr {net : Net} (valid : net.validate none = .ok n)
    {actions actions' : List Action}
    (checks : Action.checkAll n actions = Action.checkAll n actions')
    (motions : Action.motionAll n actions = Action.motionAll n actions') :
    net.applyAll actions = net.applyAll actions' := by
  obtain ⟨⟨_, cube⟩, readable, rfl⟩ := map_eq_ok.mp valid
  cases outcome : net.applyAll actions with
  | ok turned =>
    obtain ⟨fits, rfl⟩ := (applyAll_eq_ok_iff readable).mp outcome
    rw [← Action.checkAll_eq_ok_iff, checks, Action.checkAll_eq_ok_iff] at fits
    rw [motions]
    exact ((applyAll_eq_ok_iff readable).mpr ⟨fits, rfl⟩).symm
  | error fault =>
    rw [applyAll_eq_error_iff valid, checks] at outcome
    exact ((applyAll_eq_error_iff valid).mpr outcome).symm

namespace Target

/-- Is a target found on cubes of the given size? A face and the whole cube always are. -/
def Fits (n : Nat) : Target → Prop
  | .single _ | .whole _ _ => True
  | .middle _ | .wideLetter _ | .wide _ => 3 ≤ n
  | .deepWide digit _ | .innerSlice digit _ => digit + 2 ≤ n
  | .subscript _ depth => depth + 2 ≤ n
  | .innerBlock digit _ depth => digit + depth + 1 ≤ n

/-- A target that can be written is found where its actions fit. -/
theorem fits_iff {target : Target} (wellFormed : target.WellFormed) (turns : QuarterTurns) :
    (∀ action ∈ target.actions turns, action.Fits n) ↔ target.Fits n := by
  have face (face : Face) : (Action.turnFace face turns).Fits n := trivial
  cases target with
  | single | whole => exact iff_of_true (List.forall_mem_singleton.mpr trivial) trivial
  | middle axis =>
    rw [actions, List.forall_mem_singleton, Fits]
    simp only [Action.Fits, Action.firstLayer]
    omega
  | wideLetter | wide | deepWide | subscript =>
    -- The face itself always fits, so the layers behind it decide.
    simp only [WellFormed] at wellFormed
    rw [actions, List.forall_mem_cons, and_iff_right (face _), List.forall_mem_singleton,
      Action.fits_behind_iff (by omega) (by omega), Fits]
    omega
  | innerSlice | innerBlock =>
    simp only [WellFormed] at wellFormed
    rw [actions, List.forall_mem_singleton, Action.fits_behind_iff (by omega) (by omega), Fits]
    omega

end Target

namespace Item

mutual

/-- The targets of the moves of an item, at any depth. -/
def targets : Item → List Target
  | .move target _ _ => [target]
  | .group items _ _ => targetsOfAll items

def targetsOfAll : List Item → List Target
  | [] => []
  | item :: items => item.targets ++ targetsOfAll items

end

mutual

theorem fits_actions_iff : (item : Item) → item.WellFormed →
    ((∀ action ∈ item.actions, action.Fits n) ↔ ∀ target ∈ item.targets, target.Fits n)
  | .move target modifier _, wellFormed => by
    rw [actions, targets, List.forall_mem_singleton, Target.fits_iff wellFormed]
  | .group items times _, ⟨_, least, _, wellFormed⟩ => by
    -- A group is made once at least, so each of its moves is made.
    have again : times ≠ 0 := by omega
    rw [actions, targets, Action.fits_replicate_iff, fits_actionsOfAll_iff items wellFormed]
    exact forall_prop_of_true again

/-- Items that can be written fit where all their targets are found. -/
theorem fits_actionsOfAll_iff : (items : List Item) → AllWellFormed items →
    ((∀ action ∈ actionsOfAll items, action.Fits n) ↔
      ∀ target ∈ targetsOfAll items, target.Fits n)
  | [], _ => iff_of_true (fun _ member => absurd member List.not_mem_nil)
      (fun _ member => absurd member List.not_mem_nil)
  | item :: items, ⟨wellFormed, others⟩ => by
    rw [actionsOfAll, targetsOfAll, List.forall_mem_append, List.forall_mem_append,
      fits_actions_iff item wellFormed, fits_actionsOfAll_iff items others]

end

end Item

/-- A text of moves can be applied to a cube just if all targets of its moves, at any depth, are
found on cubes of its size. Where one is not, the text fails for the same reason on all cubes of
the size. -/
theorem fitting_depends_on_size_alone {text : String} {items : List Item}
    (read : readMoves text = .ok items) :
    ∃ actions, compileMoves text = .ok actions ∧
      ∀ n,
        (∀ net : Net, net.validate none = .ok n →
          ((∃ turned, net.applyAll actions = .ok turned) ↔
            ∀ target ∈ Item.targetsOfAll items, target.Fits n)) ∧
        ((¬ ∀ target ∈ Item.targetsOfAll items, target.Fits n) →
          ∃ fault, ∀ net : Net, net.validate none = .ok n →
            net.applyAll actions = .error fault) := by
  obtain ⟨wellFormed, -⟩ := (readMoves_eq_ok_iff.mp read).wellFormed
  refine ⟨_, compileMoves_of_read read, fun n => ⟨fun net valid => ?_, fun misfit => ?_⟩⟩
  · rw [Net.exists_applyAll_iff valid, Item.fits_actionsOfAll_iff items wellFormed]
  · rw [← Item.fits_actionsOfAll_iff items wellFormed, ← Action.checkAll_eq_ok_iff] at misfit
    cases checked : Action.checkAll n (Item.actionsOfAll items) with
    | ok => exact absurd checked misfit
    | error fault => exact ⟨fault, fun net valid => (Net.applyAll_eq_error_iff valid).mpr checked⟩

theorem fitting_depends_on_size_alone_for_inner_block :
    let turned := (Cube.solved 4).turnFace .top .clockwise
    ∃ actions, compileMoves "(M 2R_2)3" = .ok actions ∧
      (∃ result, (Cube.solved 5).toNet.applyAll actions = .ok result) ∧
      ∃ fault, (Cube.solved 4).toNet.applyAll actions = .error fault ∧
        turned.toNet.applyAll actions = .error fault := by
  intro turned
  have read : readMoves "(M 2R_2)3" = .ok [.group [.move (.middle .y) .none 1,
      .move (.innerBlock 2 .right 2) .none 3] 3 0] := rfl
  obtain ⟨actions, compiled, decided⟩ := fitting_depends_on_size_alone read
  have fits : ∀ target ∈ [Target.middle .y, .innerBlock 2 .right 2], target.Fits 5 := by
    simp [Target.Fits]
  have misfit : ¬ ∀ target ∈ [Target.middle .y, .innerBlock 2 .right 2], target.Fits 4 := by
    simp [Target.Fits]
  obtain ⟨fault, fails⟩ := (decided 4).2 misfit
  exact ⟨actions, compiled, ((decided 5).1 _ rfl).mpr fits, fault, fails _ rfl, fails _ rfl⟩

end Cubing
