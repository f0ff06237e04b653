import Cubing.Proofs.Moves.Composition

/-!
# Actions in batches

Actions may be applied to a puzzle one at a time, each of them when the one before it has
succeeded (`Puzzle.Leads`), up to the first that fails (`Puzzle.BreaksAt`), or all at once. A
batch comes to the same puzzle as its actions one at a time (`Puzzle.leads_iff`), and if
one of them fails, the batch fails for the same reason (`Puzzle.BreaksAt.applyAll`).
-/
namespace Cubing

namespace Action

/-- The request that names an action in full. -/
def request : Action → Request
  | .turnFace face turns => .turnFace (.int face.number) (some (.int turns.toInt))
  | .turnSlice axis offset count turns =>
    .turnSlice (.text axis.name) (some offset) (some count) (some (.int turns.toInt))
  | .turnWhole axis turns => .turnWhole none (some (.text axis.name)) (some (.int turns.toInt))
  | .focus face turns => .turnWhole (some (.int face.number)) none (some (.int turns.toInt))

theorem ofRequest_request (action : Action) : ofRequest action.request = .ok action := by
  have counted (turns default : QuarterTurns) :
      turnsOf (some (.int turns.toInt)) default = .ok turns := by
    rw [turnsOf, QuarterTurns.ofValue, QuarterTurns.ofInt_toInt]
  have faceNamed (face : Face) : Face.ofValue (.int face.number) = .ok face := by
    cases face <;> rfl
  have axisNamed (axis : Axis) : Axis.ofValue (.text axis.name) = .ok axis := by
    cases axis <;> rfl
  cases action with
  | turnFace | focus => simp only [request, ofRequest, faceNamed, counted, bind, Except.bind]
  | turnSlice | turnWhole =>
    simp only [request, ofRequest, axisNamed, counted, bind, Except.bind, Option.getD_some]

/-- Any actions can be asked for. -/
theorem exists_requests (actions : List Action) :
    ∃ requests : List Request, requests.mapM ofRequest = .ok actions := by
  refine ⟨actions.map request, ?_⟩
  induction actions with
  | nil => rfl
  | cons action actions ih =>
    rw [List.map_cons, List.mapM_cons, ofRequest_request, ih]
    rfl

end Action

namespace Puzzle

/-- Applied one at a time, all of the actions succeed, and they lead from one puzzle to another. -/
inductive Leads : Puzzle → List Action → Puzzle → Prop where
  | nil (puzzle : Puzzle) : Leads puzzle [] puzzle
  | cons {puzzle next last : Puzzle} {action : Action} {actions : List Action}
    (applied : (puzzle.apply action).outcome = .ok next) (later : Leads next actions last) :
    Leads puzzle (action :: actions) last

/-- Applied one at a time, the actions succeed up to the one with number `k`, which fails. -/
def BreaksAt (puzzle : Puzzle) (actions : List Action) (k : Nat) (fault : Fault) : Prop :=
  ∃ between action, puzzle.Leads (actions.take k) between ∧ actions[k]? = some action ∧
    (between.apply action).outcome = .error fault

section Batches

variable {puzzle last : Puzzle} {actions : List Action} {k : Nat} {fault : Fault}

theorem outcome_applyAll_cons (puzzle : Puzzle) (action : Action) (actions : List Action) :
    (puzzle.applyAll (action :: actions)).outcome =
      (puzzle.apply action).outcome >>= fun next => (next.applyAll actions).outcome := by
  have alone : (puzzle.applyAll [action]).outcome = (puzzle.apply action).outcome := by
    rw [outcome_applyAll, apply, Noted.map, Cube.outcome_applyNoted, Cube.applyAll]
    cases puzzle.cube.apply action <;> rfl
  rw [← alone]
  exact outcome_applyAll_append puzzle [action] actions

/-- A batch comes to a puzzle just if its actions lead there one at a time. -/
theorem leads_iff :
    puzzle.Leads actions last ↔ (puzzle.applyAll actions).outcome = .ok last := by
  constructor
  · intro leads
    induction leads with
    | nil => rfl
    | cons applied later ih =>
      rw [outcome_applyAll_cons]
      exact bind_eq_ok.mpr ⟨_, applied, ih⟩
  · induction actions generalizing puzzle with
    | nil =>
      rintro ⟨⟩
      exact .nil _
    | cons action actions ih =>
      rw [outcome_applyAll_cons, bind_eq_ok]
      rintro ⟨next, applied, later⟩
      exact .cons applied (ih later)

theorem BreaksAt.applyAll (breaks : puzzle.BreaksAt actions k fault) :
    (puzzle.applyAll actions).outcome = .error fault := by
  obtain ⟨between, action, leads, kth, failed⟩ := breaks
  obtain ⟨inside, rfl⟩ := List.getElem?_eq_some_iff.mp kth
  -- What comes after the action that fails is never looked at.
  rw [← List.take_append_drop k actions, List.drop_eq_getElem_cons inside, outcome_applyAll_append,
    leads_iff.mp leads]
  exact (outcome_applyAll_cons ..).trans (bind_eq_error.mpr (.inl failed))

/-- Either all of the actions succeed one at a time, or there is a first one that fails. -/
theorem leads_or_breaks (puzzle : Puzzle) (actions : List Action) :
    (∃ last, puzzle.Leads actions last) ∨ ∃ k fault, puzzle.BreaksAt actions k fault := by
  induction actions generalizing puzzle with
  | nil => exact .inl ⟨puzzle, .nil puzzle⟩
  | cons action actions ih =>
    cases applied : (puzzle.apply action).outcome with
    | error fault => exact .inr ⟨0, fault, puzzle, action, .nil puzzle, rfl, applied⟩
    | ok next =>
      rcases ih next with ⟨last, leads⟩ | ⟨k, fault, between, other, leads, kth, failed⟩
      · exact .inl ⟨last, .cons applied leads⟩
      · exact .inr ⟨k + 1, fault, between, other, .cons applied leads, kth, failed⟩

end Batches

/-- A step does at once what actions do one at a time: it comes to the same puzzle if all of them
succeed, and if one of them fails, it fails for the same reason and leaves the puzzle as it was. -/
structure DoesAtOnce (puzzle : Puzzle) (step : Step) (actions : List Action) : Prop where
  succeeds : ∀ last, puzzle.Leads actions last →
    (∃ reply, (puzzle.run step).outcome = .ok (reply, last)) ∧ puzzle.next step = last
  fails : ∀ k fault, puzzle.BreaksAt actions k fault →
    (puzzle.run step).outcome = .error fault ∧ puzzle.next step = puzzle

/-- A step with the outcome of a batch, apart from its reply. -/
theorem DoesAtOnce.of_outcome {puzzle : Puzzle} {step : Step} {actions : List Action}
    (reply : Reply)
    (ran : (puzzle.run step).outcome = (reply, ·) <$> (puzzle.applyAll actions).outcome) :
    puzzle.DoesAtOnce step actions where
  succeeds last leads := by
    rw [leads_iff.mp leads] at ran
    exact ⟨⟨reply, ran⟩, by rw [Puzzle.next, ran]; rfl⟩
  fails k fault breaks := by
    rw [breaks.applyAll] at ran
    exact ⟨ran, next_of_error ran⟩

/-- A batch does what its actions do one at a time, as long as none of them fails, and otherwise
fails like the first that does and leaves the puzzle as it was before all of them. The same holds of
a text of moves and the actions that it stands for. Two batches that succeed one after the other
do what they do as one. -/
theorem batches_agree_with_single_actions (puzzle : Puzzle) (actions : List Action) :
    ((∃ last, puzzle.Leads actions last) ∨ ∃ k fault, puzzle.BreaksAt actions k fault) ∧
      (∃ requests : List Action.Request, requests.mapM Action.ofRequest = .ok actions) ∧
      (∀ requests : List Action.Request, requests.mapM Action.ofRequest = .ok actions →
        puzzle.DoesAtOnce (.applyAll requests) actions) ∧
      (∀ text, compileMoves text = .ok actions → puzzle.DoesAtOnce (.applyMoves text) actions) ∧
      ∀ others between last, (puzzle.applyAll actions).outcome = .ok between →
        (between.applyAll others).outcome = .ok last →
        (puzzle.applyAll (actions ++ others)).outcome = .ok last := by
  refine ⟨leads_or_breaks puzzle actions, Action.exists_requests actions, fun requests asked => ?_,
    fun text compiled => ?_, fun others between last first second => ?_⟩
  · refine .of_outcome .nothing ?_
    rw [run, asked]
    rfl
  · refine .of_outcome (.text "") ?_
    rw [run, Noted.map, outcome_applyMoves_of_compiled puzzle compiled, Functor.map_map]
    rfl
  · rw [outcome_applyAll_append, first]
    exact second

/-- A wide turn is two actions, the second of which does not fit the smallest cube. -/
theorem batches_agree_with_single_actions_on_wide_turn :
    let small : Puzzle := ⟨2, .solved 2, 0⟩
    let large : Puzzle := ⟨3, .solved 3, 0⟩
    let wide : List Action :=
      [.turnFace .right .clockwise, .turnSlice .y (-2) 1 .clockwise, .turnFace .top .clockwise]
    compileMoves "r U" = .ok wide ∧
      (small.BreaksAt wide 1 (.sliceStart 2) ∧
        (small.run (.applyMoves "r U")).outcome = .error (.sliceStart 2) ∧
        small.next (.applyMoves "r U") = small) ∧
      (∃ last, large.Leads wide last ∧ last.applied = 3 ∧
        large.next (.applyMoves "r U") = last ∧
        large.next (.applyAll (wide.map Action.request)) = last) ∧
      ∃ between last, (large.applyAll wide).outcome = .ok between ∧
        (between.applyAll wide).outcome = .ok last ∧ last.applied = 6 ∧
        (large.applyAll (wide ++ wide)).outcome = .ok last := by
  intro small large wide
  have compiled : compileMoves "r U" = .ok wide := rfl
  have asked : (wide.map Action.request).mapM Action.ofRequest = .ok wide := rfl
  have breaks : small.BreaksAt wide 1 (.sliceStart 2) :=
    ⟨_, _, .cons rfl (.nil _), rfl, rfl⟩
  have leads : large.Leads wide _ := .cons rfl (.cons rfl (.cons rfl (.nil _)))
  obtain ⟨-, -, -, fails, -⟩ := batches_agree_with_single_actions small wide
  obtain ⟨-, -, batch, moves, joined⟩ := batches_agree_with_single_actions large wide
  exact ⟨compiled, ⟨breaks, (fails "r U" compiled).fails 1 _ breaks⟩,
    ⟨_, leads, rfl, ((moves "r U" compiled).succeeds _ leads).2,
      ((batch _ asked).succeeds _ leads).2⟩,
    ⟨_, _, rfl, rfl, rfl, joined wide _ _ rfl rfl⟩⟩

end Puzzle

end Cubing
