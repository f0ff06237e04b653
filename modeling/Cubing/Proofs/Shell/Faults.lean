import Cubing.Proofs.Moves.Fitting
import Cubing.Proofs.Puzzle.Replay
import Cubing.Proofs.Turn.Safety
import Cubing.Shell.Session

/-!
# Faults and complaints

Two kinds of faults are not caught by the shell. What fails when an argument is read
is of another kind, and so is what fails when actions are applied to a puzzle
(`Shell.catches_of_applyMoves`). Complaints are noted by the shell alone, whether a step
of the puzzle succeeds or fails (`Puzzle.uncomplaining_run`).
-/
namespace Cubing

section Faults

variable {n : Nat}

theorem Cube.failsOnArguments_apply (cube : Cube n) (action : Action) :
    FailsOnArguments [] (cube.apply action) := by
  intro fault failed
  have checked : action.check n = .error fault := by
    rw [← cube.map_apply, failed]
    rfl
  cases action with
  | turnSlice axis offset count turns => exact failsOnArguments_checkSlice _ _ _ checked
  | turnFace | turnWhole | focus => cases checked

theorem Cube.failsOnArguments_applyAll (cube : Cube n) (actions : List Action) :
    FailsOnArguments [] (cube.applyAll actions) := by
  induction actions generalizing cube with
  | nil => exact failsFor_ok _
  | cons action actions ih =>
    exact (cube.failsOnArguments_apply action).bind fun turned _ => ih turned

end Faults

section Complaints

namespace Noted

variable {α β : Type}

/-- Is nothing noted that is a complaint? -/
def Uncomplaining (noted : Noted α) : Prop := ∀ event ∈ noted.events, event.level ≠ .error

theorem uncomplaining_quietly (outcome : Except Fault α) : (quietly outcome).Uncomplaining :=
  fun _ member => absurd member List.not_mem_nil

theorem uncomplaining_note {event : Event} (harmless : decide (event.level = .error) = false) :
    (note event).Uncomplaining := by
  intro other member
  rw [List.mem_singleton.mp member]
  exact of_decide_eq_false harmless

theorem Uncomplaining.map {noted : Noted α} (quiet : noted.Uncomplaining) (f : α → β) :
    (noted.map f).Uncomplaining := quiet

theorem Uncomplaining.bind {noted : Noted α} {later : α → Noted β} (quiet : noted.Uncomplaining)
    (quietLater : ∀ value, (later value).Uncomplaining) : (noted >>= later).Uncomplaining := by
  obtain ⟨events, fault | value⟩ := noted
  · exact quiet
  · exact List.forall_mem_append.mpr ⟨quiet, quietLater value⟩

end Noted

open Noted (uncomplaining_quietly uncomplaining_note)

variable {n : Nat}

theorem Cube.uncomplaining_applyNoted (cube : Cube n) (action : Action) :
    (cube.applyNoted action).Uncomplaining := by
  have whole (axis : Axis) (turns : QuarterTurns) :
      (cube.turnWholeNoted axis turns).Uncomplaining :=
    (uncomplaining_note rfl).bind fun _ => uncomplaining_quietly _
  cases action with
  | turnFace => exact (uncomplaining_note rfl).bind fun _ => uncomplaining_quietly _
  | turnSlice =>
    exact (uncomplaining_quietly _).bind fun _ =>
      (uncomplaining_note rfl).bind fun _ => uncomplaining_quietly _
  | turnWhole => exact whole _ _
  | focus face =>
    refine (uncomplaining_note rfl).bind fun _ => ?_
    split
    · exact whole _ _
    · exact uncomplaining_quietly _

theorem Cube.uncomplaining_applyAllNoted (cube : Cube n) (actions : List Action) :
    (cube.applyAllNoted actions).Uncomplaining := by
  induction actions generalizing cube with
  | nil => exact uncomplaining_quietly _
  | cons action actions ih => exact (cube.uncomplaining_applyNoted action).bind ih

/-- A puzzle does not complain, whether a step succeeds or fails. -/
theorem Puzzle.uncomplaining_run (puzzle : Puzzle) (step : Step) :
    (puzzle.run step).Uncomplaining := by
  cases step with
  | renew => exact ((uncomplaining_note rfl).bind fun _ => uncomplaining_quietly _).map _
  | resize size =>
    refine Noted.Uncomplaining.map ?_ _
    rw [resize]
    split
    · exact (uncomplaining_note rfl).bind fun _ => uncomplaining_quietly _
    · exact (uncomplaining_quietly _).bind fun _ => uncomplaining_quietly _
  | apply request =>
    rw [run]
    split
    · exact ((puzzle.cube.uncomplaining_applyNoted _).map _).map _
    · exact uncomplaining_quietly _
  | applyAll requests =>
    rw [run]
    split
    · exact ((puzzle.cube.uncomplaining_applyAllNoted _).map _).map _
    · exact uncomplaining_quietly _
  | applyMoves text =>
    refine Noted.Uncomplaining.map ?_ _
    rw [applyMoves]
    split
    · exact (uncomplaining_note rfl).bind fun _ =>
        (uncomplaining_note rfl).bind fun _ => uncomplaining_quietly _
    · exact (uncomplaining_note rfl).bind fun _ =>
        ((puzzle.cube.uncomplaining_applyAllNoted _).map _).map _
  | compare rival => cases rival <;> exact uncomplaining_quietly _
  | _ => exact uncomplaining_quietly _

end Complaints

namespace Shell

section Caught

variable {fault : Fault}

theorem catches_of_failsOnArguments {α : Type} {given : List Value} {outcome : Except Fault α}
    (fails : FailsOnArguments given outcome) (failed : outcome = .error fault) :
    catches fault = true := by
  obtain ⟨cause, rfl, argument, -⟩ := fails fault failed
  obtain same | ⟨unwritable, -⟩ := cause.reported_eq_or
  · rw [same]
    cases cause <;> simp only [Fault.OfArgument] at argument <;> rfl
  · rw [unwritable]
    rfl

theorem catches_of_readInt {text : String} (failed : readInt text = .error fault) :
    catches fault = true := by
  rw [readInt] at failed
  split at failed <;> cases failed <;> rfl

theorem catches_of_turnsAt {words : List String} {index : Nat}
    (failed : turnsAt words index = .error fault) : catches fault = true := by
  rw [turnsAt] at failed
  split at failed
  · exact catches_of_readInt failed
  · cases failed

/-- An action fails on a puzzle only if one of its arguments does not fit. -/
theorem catches_of_apply {puzzle : Puzzle} {action : Action}
    (failed : (puzzle.apply action).outcome = .error fault) : catches fault = true := by
  have failed := map_eq_error.mp failed
  rw [Cube.outcome_applyNoted] at failed
  exact catches_of_failsOnArguments (puzzle.cube.failsOnArguments_apply action) failed

theorem catches_of_applyMoves {puzzle : Puzzle} {text : String}
    (failed : (puzzle.applyMoves text).outcome = .error fault) : catches fault = true := by
  rw [Puzzle.applyMoves] at failed
  split at failed
  · cases failed
  · have failed := map_eq_error.mp (map_eq_error.mp failed)
    rw [Cube.outcome_applyAllNoted] at failed
    exact catches_of_failsOnArguments (puzzle.cube.failsOnArguments_applyAll _) failed

end Caught

end Shell

end Cubing
