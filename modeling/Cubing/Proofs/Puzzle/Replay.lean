import Cubing.Proofs.Puzzle.Methods

/-!
# Replaying a puzzle

A history keeps what a puzzle was when it was last new, and the actions that
have succeeded since. Whatever is done to the puzzle, and however much of it
fails, the actions of the history lead from its beginning to the puzzle
(`History.Sound`): this holds of a new puzzle, and every step preserves it
(`History.Sound.next`). What it was when it was last new is the net that it was
made from, or the solved cube of the size that it was given (`Origin.Describes`).
-/
namespace Cubing

/-- Only an integer is a size, and the cube of that size is solved. -/
theorem Net.eq_of_solvedOfSize {size : Value} {solved : SizedCube}
    (made : Net.solvedOfSize size = .ok solved) :
    size = .int solved.size ∧ 2 ≤ solved.size ∧ solved.cube = .solved solved.size := by
  unfold Net.solvedOfSize at made
  split at made
  next number =>
    split at made
    next large =>
      cases made
      exact ⟨congrArg Value.int (by simp only; omega), by simp only; omega, rfl⟩
    next => cases made
  next => cases made

theorem Net.applyAll_append (net : Net) (first second : List Action) :
    net.applyAll (first ++ second) = net.applyAll first >>= (applyAll · second) := by
  induction first generalizing net with
  | nil => rfl
  | cons action first ih =>
    rw [List.cons_append, applyAll, applyAll, bind_assoc]
    exact bind_congr fun _ => ih _

namespace Puzzle

/-- Does a step make the puzzle new if it succeeds? -/
def Step.renews : Step → Bool
  | .renew | .resize _ => true
  | _ => false

/-- What a step makes a puzzle of the given size from, if it makes it new. -/
def Step.origin? (size : Nat) : Step → Option Origin
  | .renew => some (.size (.int size))
  | .resize size => some (.size size)
  | _ => none

namespace Origin

/-- What a puzzle is made from by a step. A step that fails makes nothing. -/
def next (origin : Origin) (puzzle : Puzzle) (step : Step) : Origin :=
  match (puzzle.run step).outcome with
  | .ok _ => (step.origin? puzzle.size).getD origin
  | .error _ => origin

/-- What a puzzle was last made from, after some steps. -/
def after (origin : Origin) (puzzle : Puzzle) : List Step → Origin
  | [] => origin
  | step :: steps => (origin.next puzzle step).after (puzzle.next step) steps

/-- The cube that is made from something: the cube of the net, or the solved cube of the size. -/
def Describes : Origin → SizedCube → Prop
  | .net given, made => made.cube.toNet = given
  | .size given, made => given = .int made.size ∧ made.cube = .solved made.size
  | .default, made => made = ⟨defaultSize, .solved defaultSize⟩

end Origin

/-- The actions that a step applies if it succeeds. Moves that cannot be read have none. -/
def Step.actions : Step → List Action
  | .apply request => (Action.ofRequest request).toOption.toList
  | .applyAll requests => (requests.mapM Action.ofRequest).toOption.getD []
  | .applyMoves moves => (compileMoves moves).toOption.getD []
  | _ => []

/-- A puzzle to which no action has been applied, and whose net can be read. -/
structure New (puzzle : Puzzle) : Prop where
  large : 2 ≤ puzzle.size
  balanced : puzzle.cube.Balanced
  untouched : puzzle.applied = 0

theorem New.valid {puzzle : Puzzle} (new : puzzle.New) : puzzle.Valid := ⟨new.large, new.balanced⟩

theorem new_of_ofSize {size : Value} {puzzle : Puzzle} (made : ofSize size = .ok puzzle) :
    puzzle.New := by
  obtain ⟨sized, solved, rfl⟩ := map_eq_ok.mp made
  obtain ⟨-, large, same⟩ := Net.eq_of_solvedOfSize solved
  exact ⟨large, by rw [ofSized, same]; exact Cube.balanced_solved, rfl⟩

theorem new_of_ofOrigin {origin : Origin} {puzzle : Puzzle}
    (made : ofOrigin origin = .ok puzzle) : puzzle.New := by
  cases origin with
  | net net =>
    obtain ⟨sized, readable, rfl⟩ := map_eq_ok.mp made
    obtain ⟨-, large, balanced, -⟩ := Net.read_eq_ok_iff.mp readable
    exact ⟨large, balanced, rfl⟩
  | size size => exact new_of_ofSize made
  | default => exact new_of_ofSize made

theorem Origin.describes_of_ofOrigin {origin : Origin} {puzzle : Puzzle}
    (made : ofOrigin origin = .ok puzzle) : origin.Describes ⟨puzzle.size, puzzle.cube⟩ := by
  cases origin with
  | net net =>
    obtain ⟨sized, readable, rfl⟩ := map_eq_ok.mp made
    exact (Net.read_eq_ok_iff.mp readable).1.symm
  | size size =>
    obtain ⟨sized, solved, rfl⟩ := map_eq_ok.mp made
    obtain ⟨sizes, -, same⟩ := Net.eq_of_solvedOfSize solved
    exact ⟨sizes, same⟩
  | default =>
    cases made
    rfl

section Outcomes

variable {puzzle next : Puzzle} {step : Step} {reply : Reply}

theorem apply_eq_ok_iff {action : Action} :
    (puzzle.apply action).outcome = .ok next ↔
      ∃ turned, puzzle.cube.apply action = .ok turned ∧
        ⟨puzzle.size, turned, puzzle.applied + 1⟩ = next := by
  rw [← Cube.outcome_applyNoted]
  exact map_eq_ok

theorem applyAll_eq_ok_iff {actions : List Action} :
    (puzzle.applyAll actions).outcome = .ok next ↔
      ∃ turned, puzzle.cube.applyAll actions = .ok turned ∧
        ⟨puzzle.size, turned, puzzle.applied + actions.length⟩ = next := by
  rw [← Cube.outcome_applyAllNoted]
  exact map_eq_ok

theorem resize_eq_ok_iff {size : Value} :
    (resize size).outcome = .ok next ↔ size.isQuotable = true ∧ ofSize size = .ok next := by
  rw [resize]
  split
  next quotable => exact (and_iff_right quotable).symm
  next long =>
    refine iff_of_false ?_ fun made => long made.1
    intro made
    cases made

/-- An answer is a step without actions. -/
theorem answer_eq_ok {answer : Except Fault Reply}
    (answered : (puzzle.answer answer).outcome = .ok (reply, next)) : next = puzzle := by
  obtain ⟨_, _, same⟩ := map_eq_ok.mp answered
  exact (Prod.mk.inj same).2.symm

/-- A step that succeeds makes the puzzle new, or applies its actions to it. -/
theorem run_eq_ok (large : 2 ≤ puzzle.size)
    (ran : (puzzle.run step).outcome = .ok (reply, next)) :
    (step.renews = true ∧ next.New) ∨
      (step.renews = false ∧ ∃ turned, puzzle.cube.applyAll step.actions = .ok turned ∧
        ⟨puzzle.size, turned, puzzle.applied + step.actions.length⟩ = next) := by
  cases step with
  | renew =>
    cases ran
    exact .inl ⟨rfl, large, Cube.balanced_solved, rfl⟩
  | resize size =>
    obtain ⟨made, succeeded, ⟨⟩⟩ := map_eq_ok.mp ran
    exact .inl ⟨rfl, new_of_ofSize (resize_eq_ok_iff.mp succeeded).2⟩
  | apply request =>
    simp only [run] at ran
    split at ran
    next action requested =>
      obtain ⟨made, succeeded, ⟨⟩⟩ := map_eq_ok.mp ran
      obtain ⟨turned, applied, rfl⟩ := apply_eq_ok_iff.mp succeeded
      have actions : (Step.apply request).actions = [action] := by
        rw [Step.actions, requested]
        rfl
      rw [actions]
      exact .inr ⟨rfl, turned, bind_eq_ok.mpr ⟨turned, applied, rfl⟩, rfl⟩
    next => cases ran
  | applyAll requests =>
    simp only [run] at ran
    split at ran
    next actions requested =>
      obtain ⟨made, succeeded, ⟨⟩⟩ := map_eq_ok.mp ran
      have same : (Step.applyAll requests).actions = actions := by
        rw [Step.actions, requested]
        rfl
      rw [same]
      exact .inr ⟨rfl, applyAll_eq_ok_iff.mp succeeded⟩
    next => cases ran
  | applyMoves moves =>
    obtain ⟨⟨failure, made⟩, succeeded, ⟨⟩⟩ := map_eq_ok.mp ran
    simp only [applyMoves] at succeeded
    split at succeeded
    next unread =>
      cases succeeded
      -- Nothing is applied, but the step succeeds all the same.
      have none : (Step.applyMoves moves).actions = [] := by
        rw [Step.actions, unread]
        rfl
      rw [none]
      exact .inr ⟨rfl, puzzle.cube, rfl, rfl⟩
    next actions read =>
      obtain ⟨made, succeeded, ⟨⟩⟩ := map_eq_ok.mp succeeded
      have same : (Step.applyMoves moves).actions = actions := by
        rw [Step.actions, read]
        rfl
      rw [same]
      exact .inr ⟨rfl, applyAll_eq_ok_iff.mp succeeded⟩
  | compare rival =>
    cases rival <;> exact .inr ⟨rfl, puzzle.cube, rfl, (answer_eq_ok ran).symm⟩
  | _ => exact .inr ⟨rfl, puzzle.cube, rfl, (answer_eq_ok ran).symm⟩

theorem next_of_error {fault : Fault} (failed : (puzzle.run step).outcome = .error fault) :
    puzzle.next step = puzzle := by
  rw [Puzzle.next, failed]

theorem next_of_unread {moves : String} {failure : Failure}
    (unread : readMoves moves = .error failure) : puzzle.next (.applyMoves moves) = puzzle := by
  have uncompiled : compileMoves moves = .error failure := by
    rw [compileMoves, unread]
    rfl
  simp only [Puzzle.next, run, applyMoves, uncompiled]
  rfl

end Outcomes

section Validity

variable {puzzle : Puzzle}

theorem Valid.next (valid : puzzle.Valid) (step : Step) : (puzzle.next step).Valid := by
  rw [Puzzle.next]
  split
  next reply next ran =>
    rcases run_eq_ok valid.large ran with ⟨-, new⟩ | ⟨-, turned, applied, rfl⟩
    · exact new.valid
    · exact ⟨valid.large, valid.balanced.applyAll valid.large applied⟩
  next => exact valid

/-- A puzzle that is not resized keeps its size, even if it is made new. -/
theorem Valid.size_next (valid : puzzle.Valid) {step : Step}
    (keeps : ∀ size, step ≠ .resize size) : (puzzle.next step).size = puzzle.size := by
  rw [Puzzle.next]
  split
  next reply next ran =>
    rcases run_eq_ok valid.large ran with ⟨renews, -⟩ | ⟨-, turned, -, rfl⟩
    · cases step
      case renew =>
        cases ran
        rfl
      case resize size => exact absurd rfl (keeps size)
      all_goals cases renews
    · rfl
  next => rfl

/-- Steps that are carried out on the fields come to the fields of the puzzle after them. -/
theorem Valid.fields_after (valid : puzzle.Valid) (notes : List Event) (steps : List Step) :
    ∃ notes',
      (puzzle.fields notes).after steps = (steps.foldl Puzzle.next puzzle).fields notes' := by
  induction steps generalizing puzzle notes with
  | nil => exact ⟨notes, rfl⟩
  | cons step steps ih =>
    rw [Fields.after, List.foldl_cons, valid.next_fields]
    exact ih (valid.next step) _

end Validity

end Puzzle

/-- A puzzle, the cube that it was when it was last new, and the actions that have succeeded
since, in order. -/
structure History where
  puzzle : Puzzle
  base : SizedCube
  log : List Action

namespace History

open Puzzle (Step)

/-- The history of a new puzzle. -/
def ofPuzzle (puzzle : Puzzle) : History := ⟨puzzle, ⟨puzzle.size, puzzle.cube⟩, []⟩

/-- The history after a step. A step that fails is not recorded. -/
def next (history : History) (step : Step) : History :=
  match (history.puzzle.run step).outcome with
  | .error _ => { history with puzzle := history.puzzle.next step }
  | .ok _ =>
    let puzzle := history.puzzle.next step
    if step.renews then ofPuzzle puzzle
    else { history with puzzle, log := history.log ++ step.actions }

def after (history : History) (steps : List Step) : History := steps.foldl next history

@[simp] theorem puzzle_next (history : History) (step : Step) :
    (history.next step).puzzle = history.puzzle.next step := by
  unfold next
  split
  · rfl
  · simp only
    split <;> rfl

/-- What is recorded does not change what happens. -/
theorem puzzle_after (history : History) (steps : List Step) :
    (history.after steps).puzzle = steps.foldl Puzzle.next history.puzzle := by
  induction steps generalizing history with
  | nil => rfl
  | cons step steps ih => exact (ih _).trans (by rw [puzzle_next]; rfl)

/-- The recorded actions lead from the base to the puzzle. -/
structure Sound (history : History) : Prop where
  large : 2 ≤ history.puzzle.size
  balanced : history.puzzle.cube.Balanced
  size_eq : history.puzzle.size = history.base.size
  replays : history.base.cube.toNet.applyAll history.log = .ok history.puzzle.cube.toNet
  counted : history.puzzle.applied = history.log.length

theorem sound_ofPuzzle {puzzle : Puzzle} (new : puzzle.New) : (ofPuzzle puzzle).Sound :=
  ⟨new.large, new.balanced, rfl, rfl, new.untouched⟩

theorem Sound.next {history : History} (sound : history.Sound) (step : Step) :
    (history.next step).Sound := by
  unfold History.next
  split
  next fault failed => rwa [Puzzle.next_of_error failed]
  next result ran =>
    have next : history.puzzle.next step = result.2 := by
      rw [Puzzle.next, ran]
    simp only [next]
    rcases Puzzle.run_eq_ok sound.large ran with ⟨renews, new⟩ | ⟨keeps, turned, applied, same⟩
    -- A new puzzle begins a history of its own.
    · rw [if_pos renews]
      exact sound_ofPuzzle new
    -- The log grows by just the actions that lead from the old cube to the new one.
    · rw [if_neg (by simp [keeps]), ← same]
      refine ⟨sound.large, sound.balanced.applyAll sound.large applied, sound.size_eq, ?_, ?_⟩
      · simp only [Net.applyAll_append, sound.replays]
        exact (Net.applyAll_toNet sound.large sound.balanced _).trans (by rw [applied]; rfl)
      · simp only [sound.counted, List.length_append]

/-- The base is what the puzzle was last made from. -/
theorem describes_next {history : History} {origin : Puzzle.Origin}
    (described : origin.Describes history.base) (step : Step) :
    (origin.next history.puzzle step).Describes (history.next step).base := by
  cases ran : (history.puzzle.run step).outcome with
  | error fault => simpa only [History.next, Puzzle.Origin.next, ran] using described
  | ok result =>
    have next : history.puzzle.next step = result.2 := by
      rw [Puzzle.next, ran]
    simp only [History.next, Puzzle.Origin.next, ran, next]
    cases step with
    | renew =>
      cases ran
      exact ⟨rfl, rfl⟩
    | resize size =>
      obtain ⟨made, succeeded, rfl⟩ := map_eq_ok.mp ran
      have solved := (Puzzle.resize_eq_ok_iff.mp succeeded).2
      exact Puzzle.Origin.describes_of_ofOrigin (show Puzzle.ofOrigin (.size size) = _ from solved)
    | _ => exact described

theorem describes_after {history : History} {origin : Puzzle.Origin}
    (described : origin.Describes history.base) (steps : List Step) :
    (origin.after history.puzzle steps).Describes (history.after steps).base := by
  induction steps generalizing history origin with
  | nil => exact described
  | cons step steps ih =>
    have := ih (describes_next described step)
    rwa [puzzle_next] at this

theorem Sound.after {history : History} (sound : history.Sound) (steps : List Step) :
    (history.after steps).Sound := by
  induction steps generalizing history with
  | nil => exact sound
  | cons step steps ih => exact ih (sound.next step)

end History

/-- After any steps, failing or not, the puzzle is what the recorded actions make of its base, their
number is the number of actions applied, and the puzzle is a valid cube of the size of the base.
The base is what the puzzle was last made from: the net given at the beginning, or the solved cube
of the size given then or by the last step that made it new. Steps that fail and moves that cannot
be read change nothing: of the fields of the puzzle, which the steps assign one after the other,
none has been assigned when a step fails. -/
theorem steps_replay_from_base {origin : Puzzle.Origin} {puzzle : Puzzle}
    (made : Puzzle.ofOrigin origin = .ok puzzle) (steps : List Puzzle.Step) :
    let history := (History.ofPuzzle puzzle).after steps
    let last := history.puzzle
    last = steps.foldl Puzzle.next puzzle ∧
      history.base.cube.toNet.applyAll history.log = .ok last.cube.toNet ∧
      last.applied = history.log.length ∧
      last.cube.toNet.validate none = .ok last.size ∧
      last.size = history.base.size ∧
      (origin.after puzzle steps).Describes history.base ∧
      (∃ notes, (puzzle.fields []).after steps = last.fields notes) ∧
      (∀ notes step fault failed, Puzzle.Method.perform step (last.fields notes) =
        .error fault failed → failed.net = last.cube.toNet ∧ failed.applied = last.applied) ∧
      (∀ step fault, (last.run step).outcome = .error fault → last.next step = last) ∧
      ∀ moves failure, readMoves moves = .error failure →
        last.next (.applyMoves moves) = last := by
  intro history last
  have new := Puzzle.new_of_ofOrigin made
  have sound := (History.sound_ofPuzzle new).after steps
  have reached : last = steps.foldl Puzzle.next puzzle := History.puzzle_after ..
  have described : origin.Describes (History.ofPuzzle puzzle).base :=
    Puzzle.Origin.describes_of_ofOrigin made
  have valid : last.Valid := ⟨sound.large, sound.balanced⟩
  refine ⟨reached, sound.replays, sound.counted, valid.validate_eq_ok, sound.size_eq,
    History.describes_after described steps, reached ▸ new.valid.fields_after [] steps,
    fun _ _ _ _ stopped => valid.unassigned stopped,
    fun _ _ failed => Puzzle.next_of_error failed, fun _ _ unread => Puzzle.next_of_unread unread⟩

theorem steps_replay_from_base_with_failures :
    let history := (History.ofPuzzle ⟨3, .solved 3, 0⟩).after
      [.applyMoves "R U'", .apply (.turnSlice (.text "X") (some 2) none none), .applyMoves "R Q"]
    Puzzle.ofOrigin .default = .ok ⟨3, .solved 3, 0⟩ ∧ history.log.length = 2 ∧
      history.base.cube.toNet.applyAll history.log = .ok history.puzzle.cube.toNet ∧
      history.puzzle.applied = 2 := by
  intro history
  have made : Puzzle.ofOrigin .default = .ok ⟨3, .solved 3, 0⟩ := rfl
  have logged : history.log.length = 2 := rfl
  obtain ⟨-, replays, counted, -⟩ := steps_replay_from_base made
    [.applyMoves "R U'", .apply (.turnSlice (.text "X") (some 2) none none), .applyMoves "R Q"]
  exact ⟨made, logged, replays, counted.trans logged⟩

end Cubing
