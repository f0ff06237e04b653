import Cubing.Proofs.Turn.Actions
import Cubing.Puzzle

/-!
# The methods of a puzzle

A puzzle keeps its net and the number of actions in fields, and a method assigns them one after the
other. If the method fails, what it has assigned so far stays assigned, and what it has noted stays
noted. But everything that can fail is worked out before the first assignment, from nets that are
read and checked again for each turn. So a method that fails leaves the fields as they were, and
carrying out a step on the fields comes to what the step does to the puzzle
(`Puzzle.Method.comesTo_perform`).
-/
namespace Cubing

namespace Noted

variable {α β : Type}

theorem quietly_bind (value : α) (later : α → Noted β) :
    (quietly (.ok value) >>= later) = later value := rfl

theorem mk_bind (events : List Event) (value : α) (later : α → Noted β) :
    (⟨events, .ok value⟩ >>= later : Noted β) =
      ⟨events ++ (later value).events, (later value).outcome⟩ := rfl

theorem map_map {γ : Type} (noted : Noted α) (f : α → β) (g : β → γ) :
    (noted.map f).map g = noted.map (g ∘ f) := by
  simp only [map, Functor.map_map]
  rfl

end Noted

namespace Cube

variable {n : Nat}

/-- Noting actions has no influence on what comes of them. -/
theorem outcome_applyNoted (cube : Cube n) (action : Action) :
    (cube.applyNoted action).outcome = cube.apply action := by
  cases action with
  | turnFace | turnWhole => rfl
  | turnSlice axis offset count turns =>
    simp only [applyNoted, turnSliceNoted, Noted.outcome_bind]
    rfl
  | focus face turns =>
    cases face <;> rfl

theorem outcome_applyAllNoted (cube : Cube n) (actions : List Action) :
    (cube.applyAllNoted actions).outcome = cube.applyAll actions := by
  induction actions generalizing cube with
  | nil => rfl
  | cons action actions ih =>
    rw [applyAllNoted, applyAll, Noted.outcome_bind, outcome_applyNoted]
    exact bind_congr fun turned => ih turned

theorem Balanced.apply {cube turned : Cube n} (balanced : cube.Balanced) (large : 2 ≤ n)
    {action : Action} (applied : cube.apply action = .ok turned) : turned.Balanced :=
  have all : cube.applyAll [action] = .ok turned := bind_eq_ok.mpr ⟨turned, applied, rfl⟩
  balanced.applyAll large all

end Cube

namespace Net

/-- Turns a net, which is read before and checked after. -/
def turnedBy (net : Net) (turn : {n : Nat} → Cube n → Noted (Cube n)) : Noted Net := do
  let ⟨n, cube⟩ ← .quietly (net.read none)
  let turned ← turn cube
  let _ ← .quietly (turned.toNet.validate (some n))
  return turned.toNet

/-- The turn that brings the face to the front reads the net again. -/
def refocusNoted (net : Net) (face : Face) : Noted Net := do
  let _ ← .quietly (net.validate none)
  .note (.refocused face)
  match face.focusTurn with
  | some (axis, turns) => net.turnedBy fun cube => cube.turnWholeNoted axis (.ofInt turns)
  | none => return net

/-- Applies an action to a net and notes it. -/
def applyNoted (net : Net) : Action → Noted Net
  | .turnFace face turns => net.turnedBy fun cube => cube.turnFaceNoted face turns
  | .turnSlice axis offset count turns => do
    let size ← .quietly net.size
    net.turnedBy fun cube => cube.turnSliceNoted axis (Action.firstLayer size offset) count turns
  | .turnWhole axis turns => net.turnedBy fun cube => cube.turnWholeNoted axis turns
  | .focus face _ => net.refocusNoted face

def applyAllNoted (net : Net) : List Action → Noted Net
  | [] => return net
  | action :: actions => do
    let turned ← net.applyNoted action
    turned.applyAllNoted actions

section Turns

variable {n : Nat} {cube : Cube n} (large : 2 ≤ n) (balanced : cube.Balanced)
include large balanced

theorem turnedBy_toNet (turn : {n : Nat} → Cube n → Noted (Cube n))
    (keeps : ∀ turned, (turn cube).outcome = .ok turned → turned.Balanced) :
    cube.toNet.turnedBy turn = (turn cube).map Cube.toNet := by
  have readable := read_toNet large balanced
  rcases made : turn cube with ⟨events, fault | turned⟩
  · simp only [turnedBy, readable, made, Noted.quietly_bind]
    rfl
  · have valid : turned.toNet.validate (some n) = .ok n :=
      validate_eq_ok_iff.mpr ⟨turned, rfl, large, keeps turned (by rw [made]), by simp⟩
    simp only [turnedBy, readable, made, Noted.quietly_bind, Noted.mk_bind, valid]
    exact congrArg (Noted.mk · _) (List.append_nil events)

/-- On the net of a cube an action notes and does what it does on the cube. -/
theorem applyNoted_toNet (action : Action) :
    cube.toNet.applyNoted action = (cube.applyNoted action).map Cube.toNet := by
  have keeps (action : Action) (turned : Cube n)
      (applied : (cube.applyNoted action).outcome = .ok turned) : turned.Balanced := by
    rw [Cube.outcome_applyNoted] at applied
    exact balanced.apply large applied
  cases action with
  | turnFace face turns =>
    exact turnedBy_toNet large balanced (fun cube => cube.turnFaceNoted face turns)
      (keeps (.turnFace face turns))
  | turnWhole axis turns =>
    exact turnedBy_toNet large balanced (fun cube => cube.turnWholeNoted axis turns)
      (keeps (.turnWhole axis turns))
  | turnSlice axis offset count turns =>
    simp only [applyNoted, size_toNet cube large, Noted.quietly_bind]
    exact turnedBy_toNet large balanced
      (fun cube => cube.turnSliceNoted axis (Action.firstLayer n offset) count turns)
      (keeps (.turnSlice axis offset count turns))
  | focus face turns =>
    simp only [applyNoted, refocusNoted, validate_toNet large balanced, Noted.quietly_bind,
      Cube.applyNoted, Cube.refocusNoted]
    cases face.focusTurn with
    | none => rfl
    | some whole =>
      obtain ⟨axis, turns⟩ := whole
      have turned := turnedBy_toNet large balanced
        (fun cube => cube.turnWholeNoted axis (.ofInt turns))
        (keeps (.turnWhole axis (.ofInt turns)))
      simp only [turned]
      rfl

end Turns

theorem applyAllNoted_toNet {n : Nat} {cube : Cube n} (large : 2 ≤ n) (balanced : cube.Balanced)
    (actions : List Action) :
    cube.toNet.applyAllNoted actions = (cube.applyAllNoted actions).map Cube.toNet := by
  induction actions generalizing cube with
  | nil => rfl
  | cons action actions ih =>
    rw [applyAllNoted, Cube.applyAllNoted, applyNoted_toNet large balanced]
    rcases made : cube.applyNoted action with ⟨events, fault | turned⟩
    · rfl
    · have applied : cube.apply action = .ok turned := by rw [← Cube.outcome_applyNoted, made]
      have later := ih (balanced.apply large applied)
      simp only [Noted.map, Functor.map, Except.map, Noted.mk_bind] at later ⊢
      rw [later]

end Net

namespace Puzzle

/-- The fields of a puzzle, and what has been noted so far. -/
structure Fields where
  net : Net
  applied : Nat
  notes : List Event

/-- A method works on the fields, and what it has assigned when it fails stays assigned. -/
abbrev Method := EStateM Fault Fields

namespace Method

variable {α : Type}

/-- Does something that may be noted and may fail, and assigns nothing. -/
def doing (noted : Noted α) : Method α := fun fields =>
  let fields := { fields with notes := fields.notes ++ noted.events }
  match noted.outcome with
  | .ok value => .ok value fields
  | .error fault => .error fault fields

def assignNet (net : Net) : Method Unit := modify fun fields => { fields with net }

def assignApplied (applied : Nat) : Method Unit := modify fun fields => { fields with applied }

def renew : Method Unit := do
  doing (.note .wasReset)
  let size ← doing (.quietly ((← get).net.validate none))
  let solved ← doing (.quietly (Net.solvedOfSize (.int size)))
  assignNet solved.cube.toNet
  assignApplied 0

def resize (size : Value) : Method Unit := do
  doing (if size.isQuotable then .note (.resized size) else .quietly (.error .integerUnwritable))
  let solved ← doing (.quietly (Net.solvedOfSize size))
  assignNet solved.cube.toNet
  assignApplied 0

def apply (action : Action) : Method Unit := do
  let turned ← doing ((← get).net.applyNoted action)
  assignNet turned
  assignApplied ((← get).applied + 1)

def applyAll (actions : List Action) : Method Unit := do
  let turned ← doing ((← get).net.applyAllNoted actions)
  assignNet turned
  assignApplied ((← get).applied + actions.length)

def applyMoves (text : String) : Method (Option Failure) :=
  match compileMoves text with
  | .error failure => do
    doing (.note (.notCompiled text failure.summary))
    doing (.note (.movesIgnored text failure.summary))
    return some failure
  | .ok actions => do
    doing (.note (.movesApplied text))
    applyAll actions
    return none

/-- The puzzle whose fields these are. -/
def puzzle : Method Puzzle := do
  let ⟨n, cube⟩ ← doing (.quietly ((← get).net.read none))
  return ⟨n, cube, (← get).applied⟩

/-- Carries out a step. One that only answers assigns nothing. -/
def perform : Step → Method Reply
  | .renew => do
    renew
    return .nothing
  | .resize size => do
    resize size
    return .nothing
  | .apply request => do
    apply (← doing (.quietly (Action.ofRequest request)))
    return .nothing
  | .applyAll requests => do
    applyAll (← doing (.quietly (requests.mapM Action.ofRequest)))
    return .nothing
  | .applyMoves text => do
    let failure ← applyMoves text
    return .text (failure.elim "" Failure.summary)
  | step => do
    let (reply, _) ← doing ((← puzzle).run step)
    return reply

end Method

/-- The fields after a step, whether it succeeds or fails. -/
def Fields.next (fields : Fields) (step : Step) : Fields :=
  match Method.perform step fields with
  | .ok _ next | .error _ next => next

def Fields.after (fields : Fields) (steps : List Step) : Fields := steps.foldl Fields.next fields

/-- The fields of a puzzle after some notes. -/
def fields (puzzle : Puzzle) (notes : List Event) : Fields :=
  ⟨puzzle.cube.toNet, puzzle.applied, notes⟩

/-- A puzzle whose net can be read. -/
structure Valid (puzzle : Puzzle) : Prop where
  large : 2 ≤ puzzle.size
  balanced : puzzle.cube.Balanced

theorem Valid.validate_eq_ok {puzzle : Puzzle} (valid : puzzle.Valid) :
    puzzle.cube.toNet.validate none = .ok puzzle.size :=
  Net.validate_toNet valid.large valid.balanced

/-- Carried out on the fields of a puzzle, a method comes to an outcome. If this is a fault, the
fields are those that they were. -/
def Method.ComesTo {α : Type} (method : Method α) (puzzle : Puzzle) (noted : Noted (α × Puzzle)) :
    Prop :=
  ∀ notes, method (puzzle.fields notes) =
    match noted.outcome with
    | .ok (value, next) => .ok value (next.fields (notes ++ noted.events))
    | .error fault => .error fault (puzzle.fields (notes ++ noted.events))

namespace Method

variable {puzzle : Puzzle} {α β : Type}

/-- What may fail comes first, while nothing has been assigned. -/
theorem ComesTo.doing {noted : Noted α} {later : α → Method β} {after : α → Noted (β × Puzzle)}
    (comes : ∀ value, (later value).ComesTo puzzle (after value)) :
    (doing noted >>= later).ComesTo puzzle (noted >>= after) := by
  intro notes
  rcases noted with ⟨events, fault | value⟩
  · rfl
  · refine (comes value (notes ++ events)).trans ?_
    rw [List.append_assoc]
    rfl

theorem ComesTo.get {method : Method α} {later : Fields → Method α} {noted : Noted (α × Puzzle)}
    (comes : method.ComesTo puzzle noted) (same : ∀ notes, later (puzzle.fields notes) = method) :
    (get >>= later).ComesTo puzzle noted := by
  intro notes
  rw [← comes notes, ← same notes]
  rfl

theorem comesTo_return (value : α) :
    (return value : Method α).ComesTo puzzle (return (value, puzzle)) := by
  intro notes
  exact congrArg (fun notes => EStateM.Result.ok value (puzzle.fields notes))
    (List.append_nil notes).symm

/-- The net is assigned before the number, and nothing can fail after that. -/
theorem comesTo_assign (next : Puzzle) (value : α) :
    (do assignNet next.cube.toNet; assignApplied next.applied; return value : Method α).ComesTo
      puzzle (return (value, next)) := by
  intro notes
  exact congrArg (fun notes => EStateM.Result.ok value (next.fields notes))
    (List.append_nil notes).symm

theorem comesTo_renew (valid : puzzle.Valid) : renew.ComesTo puzzle (puzzle.renew.map ((), ·)) := by
  have sized := valid.validate_eq_ok
  have solved : Net.solvedOfSize (.int puzzle.size) = .ok ⟨puzzle.size, .solved puzzle.size⟩ :=
    if_pos (by have := valid.large; omega)
  -- The net of the puzzle is valid and its size is large enough, so neither check fails.
  have same : puzzle.renew.map ((), ·) = do
      .note .wasReset
      let size ← .quietly (puzzle.cube.toNet.validate none)
      let solved ← .quietly (Net.solvedOfSize (.int size))
      return ((), ofSized solved) := by
    simp only [sized, solved, Noted.quietly_bind]
    rfl
  rw [same]
  exact .doing fun _ => .get
    (.doing fun _ => .doing fun solved => comesTo_assign (ofSized solved) ()) fun _ => rfl

theorem comesTo_resize (puzzle : Puzzle) (size : Value) :
    (resize size).ComesTo puzzle ((Puzzle.resize size).map ((), ·)) := by
  have same : (Puzzle.resize size).map ((), ·) = do
      (if size.isQuotable then .note (.resized size) else .quietly (.error .integerUnwritable))
      let solved ← .quietly (Net.solvedOfSize size)
      return ((), ofSized solved) := by
    rw [Puzzle.resize, ofSize]
    split
    · cases Net.solvedOfSize size <;> rfl
    · rfl
  rw [same]
  exact .doing fun _ => .doing fun solved => comesTo_assign (ofSized solved) ()

/-- A puzzle that has been turned is assigned with the number of its actions. -/
theorem comesTo_turned {noted : Noted Net} {turning : Noted (Cube puzzle.size)}
    (made : noted = turning.map Cube.toNet) (count : Nat) :
    (do
      let turned ← doing noted
      assignNet turned
      assignApplied ((← get).applied + count) : Method Unit).ComesTo puzzle
      (turning.map fun turned => ((), ⟨puzzle.size, turned, puzzle.applied + count⟩)) := by
  obtain rfl := made
  -- The call either fails before anything is assigned, or comes to both assignments.
  intro notes
  rcases turning with ⟨events, fault | turned⟩ <;> rfl

theorem comesTo_apply (valid : puzzle.Valid) (action : Action) :
    (apply action).ComesTo puzzle ((puzzle.apply action).map ((), ·)) := by
  have made := Net.applyNoted_toNet valid.large valid.balanced action
  rw [Puzzle.apply, Noted.map_map]
  exact .get (comesTo_turned made 1) fun _ => rfl

theorem comesTo_applyAll (valid : puzzle.Valid) (actions : List Action) :
    (applyAll actions).ComesTo puzzle ((puzzle.applyAll actions).map ((), ·)) := by
  have made := Net.applyAllNoted_toNet valid.large valid.balanced actions
  rw [Puzzle.applyAll, Noted.map_map]
  exact .get (comesTo_turned made actions.length) fun _ => rfl

/-- A method goes on without assigning anything. -/
theorem ComesTo.map {method : Method α} {noted : Noted (α × Puzzle)}
    (comes : method.ComesTo puzzle noted) (f : α → β) :
    (do return f (← method) : Method β).ComesTo puzzle
      (noted.map fun (value, next) => (f value, next)) := by
  intro notes
  have came := comes notes
  rcases noted with ⟨events, fault | ⟨value, next⟩⟩
  all_goals
    simp only [bind, EStateM.bind, came]
    rfl

/-- Nothing is answered when the puzzle is changed. -/
theorem comesTo_change {method : Method Unit} {noted : Noted Puzzle}
    (comes : method.ComesTo puzzle (noted.map ((), ·))) :
    (do method; return Reply.nothing : Method Reply).ComesTo puzzle (change noted) := by
  have answered := comes.map fun _ => Reply.nothing
  rwa [Noted.map_map] at answered

theorem comesTo_applyMoves (valid : puzzle.Valid) (text : String) :
    (applyMoves text).ComesTo puzzle (puzzle.applyMoves text) := by
  rw [applyMoves, Puzzle.applyMoves]
  cases compileMoves text with
  | error failure => exact .doing fun _ => .doing fun _ => comesTo_return (some failure)
  | ok actions =>
    refine .doing fun _ => ?_
    have comes := (comesTo_applyAll valid actions).map fun _ => (none : Option Failure)
    rwa [Noted.map_map] at comes

theorem comesTo_puzzle (valid : puzzle.Valid) :
    Method.puzzle.ComesTo puzzle (return (puzzle, puzzle)) := by
  have same : (return (puzzle, puzzle) : Noted (Puzzle × Puzzle)) = do
      let sized ← .quietly (puzzle.cube.toNet.read none)
      return (⟨sized.size, sized.cube, puzzle.applied⟩, puzzle) := by
    rw [Net.read_toNet valid.large valid.balanced]
    rfl
  rw [same]
  exact .get (.doing fun sized => .get (comesTo_return _) fun _ => rfl) fun _ => rfl

/-- A step that only answers assigns nothing. -/
theorem comesTo_answer (valid : puzzle.Valid) {step : Step} {reply : Except Fault Reply}
    (answers : puzzle.run step = puzzle.answer reply) :
    (do let (reply, _) ← doing ((← Method.puzzle).run step); return reply : Method Reply).ComesTo
      puzzle (puzzle.run step) := by
  intro notes
  have comes := comesTo_puzzle valid notes
  simp only [bind, EStateM.bind, comes, pure, Noted.quietly, List.append_nil, answers]
  cases reply <;> rfl

/-- Carrying out a step on the fields of a puzzle comes to what the step does to the puzzle. -/
theorem comesTo_perform (valid : puzzle.Valid) (step : Step) :
    (perform step).ComesTo puzzle (puzzle.run step) := by
  cases step with
  | renew => exact comesTo_change (comesTo_renew valid)
  | resize size => exact comesTo_change (comesTo_resize puzzle size)
  | apply request =>
    have same : puzzle.run (.apply request) =
        .quietly (Action.ofRequest request) >>= fun action => change (puzzle.apply action) := by
      rw [Puzzle.run]
      cases Action.ofRequest request <;> rfl
    rw [same]
    exact .doing fun action => comesTo_change (comesTo_apply valid action)
  | applyAll requests =>
    have same : puzzle.run (.applyAll requests) =
        .quietly (requests.mapM Action.ofRequest) >>= fun actions =>
          change (puzzle.applyAll actions) := by
      rw [Puzzle.run]
      cases requests.mapM Action.ofRequest <;> rfl
    rw [same]
    exact .doing fun actions => comesTo_change (comesTo_applyAll valid actions)
  | applyMoves text => exact (comesTo_applyMoves valid text).map _
  | compare rival => cases rival <;> exact comesTo_answer valid rfl
  | _ => exact comesTo_answer valid rfl

end Method

section Fields

variable {puzzle : Puzzle} (valid : puzzle.Valid)
include valid

/-- When a step fails, nothing has been assigned. -/
theorem Valid.unassigned {notes : List Event} {step : Step} {fault : Fault} {fields : Fields}
    (failed : Method.perform step (puzzle.fields notes) = .error fault fields) :
    fields.net = puzzle.cube.toNet ∧ fields.applied = puzzle.applied := by
  rw [Method.comesTo_perform valid] at failed
  cases ran : (puzzle.run step).outcome with
  | error reason =>
    rw [ran] at failed
    cases failed
    exact ⟨rfl, rfl⟩
  | ok result =>
    rw [ran] at failed
    cases failed

theorem Valid.next_fields (notes : List Event) (step : Step) :
    (puzzle.fields notes).next step =
      (puzzle.next step).fields (notes ++ (puzzle.run step).events) := by
  rw [Fields.next, Method.comesTo_perform valid, Puzzle.next]
  cases (puzzle.run step).outcome <;> rfl

end Fields

end Puzzle

end Cubing
