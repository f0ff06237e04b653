import Cubing.Proofs.Shell.Faults

/-!
# What a line does

A line names at most one step of the puzzle (`Line.step?`), at most one size and at
most one level. To carry it out is to take this step, to set the threshold at most,
or to fail on an argument that cannot be read (`Shell.Does`), and everything else
follows from that. The puzzle takes the step, the prompt is written for the size, and
the level becomes the threshold (`Shell.shell_run`). Whatever fails on the way is
caught (`Shell.uncaught_run`), and a line that complains has not changed the puzzle
(`Shell.puzzle_run_of_complaint`).
-/
namespace Cubing

namespace Puzzle

variable {size : Nat}

theorem ofSize_of_large (large : 2 ≤ size) :
    ofSize (.int size) = .ok ⟨size, .solved size, 0⟩ := by
  rw [ofSize, Net.solvedOfSize, if_pos (by omega)]
  rfl

/-- In the shell a size has one digit, so it can be written down. -/
theorem resize_of_large (large : 2 ≤ size) (small : size ≤ 9) :
    resize (.int size) = ⟨[.resized (.int size)], .ok ⟨size, .solved size, 0⟩⟩ := by
  have short : ∀ size : Fin 10, (Value.int size.val).isQuotable = true := by decide
  rw [resize, if_pos (short ⟨size, by omega⟩), ofSize_of_large large]
  rfl

end Puzzle

namespace Shell

@[simp] theorem turnsAt_succ (word : String) (words : List String) (index : Nat) :
    turnsAt (word :: words) (index + 1) = turnsAt words index := by
  simp only [turnsAt, List.getElem?_cons_succ]

/-- The size that a text gives to a puzzle, if it gives one. -/
def sizeIn? (text : String) : Option Nat :=
  match readInt text with
  | .ok size => if leastSize ≤ size ∧ size ≤ greatestSize then some size.toNat else none
  | .error _ => none

theorem sizeIn?_eq_some {text : String} {size : Nat} :
    sizeIn? text = some size ↔ readInt text = .ok (size : Int) ∧ 2 ≤ size ∧ size ≤ 9 := by
  have least : leastSize = 2 := rfl
  have greatest : greatestSize = 9 := rfl
  constructor
  · intro given
    rw [sizeIn?] at given
    split at given
    next number read =>
      split at given
      next fits =>
        cases given
        exact ⟨read.trans (congrArg _ (by omega)), by omega, by omega⟩
      next => cases given
    next => cases given
  · rintro ⟨read, large, small⟩
    rw [sizeIn?, read]
    exact if_pos ⟨by omega, by omega⟩

/-- The turn of a face that some words ask for. -/
def faceTurn? : List String → Option Action.Request
  | face :: rest => do
    let turns ← (turnsAt rest 0).toOption
    some (.turnFace (.text face) (some (.int turns)))
  | [] => none

/-- The turn of a slice that some words ask for. -/
def sliceTurn? : List String → Option Action.Request
  | axis :: start :: count :: rest => do
    let start ← (readInt start).toOption
    let count ← (readInt count).toOption
    let turns ← (turnsAt rest 0).toOption
    some (.turnSlice (.text (Text.upper axis)) (some start) (some count) (some (.int turns)))
  | _ => none

/-- The turn of the whole cube that some words ask for. -/
def wholeTurn? : List String → Option Action.Request
  | axis :: rest => do
    let _ ← Axis.ofName? (Text.upper axis)
    let turns ← (turnsAt rest 0).toOption
    some (.turnWhole none (some (.text (Text.upper axis))) (some (.int turns)))
  | [] => none

/-- The step that a command asks of the puzzle. An argument that cannot be read names none. -/
def Command.step? (argument : String) : Command → Option Puzzle.Step
  | .apply => some (.applyMoves argument)
  | .reset => some .renew
  | .resize => (sizeIn? argument).map fun (size : Nat) => .resize (.int size)
  | .focus => some (.apply (.turnWhole (some (.text argument)) none none))
  | .rotateFace => (faceTurn? (Text.words argument)).map .apply
  | .rotateSlice => (sliceTurn? (Text.words argument)).map .apply
  | .rotateCube => (wholeTurn? (Text.words argument)).map .apply
  | .check | .debugLevel | .help | .isSolved | .printCube | .quit => none

namespace Line

/-- The step that a line asks of the puzzle. -/
def step? : Line → Option Puzzle.Step
  | .call command argument => command.step? argument
  | .empty | .unknown _ => none

/-- The size that a line gives to the puzzle. -/
def sizeSet? : Line → Option Nat
  | .call .resize argument => sizeIn? argument
  | _ => none

/-- The level that a line makes the threshold. -/
def levelSet? : Line → Option Level
  | .call .debugLevel argument => levelIn? argument
  | _ => none

variable {line : Line}

theorem sizeSet?_eq_some {size : Nat} :
    line.sizeSet? = some size ↔ ∃ argument, line = .call .resize argument ∧
      readInt argument = .ok (size : Int) ∧ 2 ≤ size ∧ size ≤ 9 := by
  simp only [← sizeIn?_eq_some]
  constructor
  · intro given
    cases line with
    | empty | unknown => cases given
    | call command argument =>
      cases command
      case resize => exact ⟨argument, rfl, given⟩
      all_goals cases given
  · rintro ⟨argument, rfl, given⟩
    exact given

theorem step?_of_sizeSet? {size : Nat} (given : line.sizeSet? = some size) :
    line.step? = some (.resize (.int size)) ∧ 2 ≤ size ∧ size ≤ 9 := by
  obtain ⟨argument, rfl, read, fits⟩ := sizeSet?_eq_some.mp given
  exact ⟨Option.map_eq_some_iff.mpr ⟨size, given, rfl⟩, fits⟩

theorem exists_sizeSet? {value : Value} (named : line.step? = some (.resize value)) :
    ∃ size, line.sizeSet? = some size := by
  cases line with
  | empty | unknown => cases named
  | call command argument =>
    cases command
    case resize =>
      obtain ⟨size, given, -⟩ := Option.map_eq_some_iff.mp named
      exact ⟨size, given⟩
    case rotateFace | rotateSlice | rotateCube =>
      obtain ⟨request, -, ⟨⟩⟩ := Option.map_eq_some_iff.mp named
    all_goals cases named

theorem sizeSet?_of_unnamed (unnamed : line.step? = none) : line.sizeSet? = none := by
  rw [Option.eq_none_iff_forall_ne_some]
  intro size given
  rw [(step?_of_sizeSet? given).1] at unnamed
  cases unnamed

theorem levelSet?_eq_some {level : Level} :
    line.levelSet? = some level ↔
      ∃ argument, line = .call .debugLevel argument ∧ levelIn? argument = some level := by
  constructor
  · intro set
    cases line with
    | empty | unknown => cases set
    | call command argument =>
      cases command
      case debugLevel => exact ⟨argument, rfl, set⟩
      all_goals cases set
  · rintro ⟨argument, rfl, set⟩
    exact set

theorem levelSet?_of_named {step : Puzzle.Step} (named : line.step? = some step) :
    line.levelSet? = none := by
  rw [Option.eq_none_iff_forall_ne_some]
  intro level set
  obtain ⟨argument, rfl, -⟩ := levelSet?_eq_some.mp set
  cases named

end Line

/-- What comes of carrying out a line. -/
inductive Does (shell : Shell) (line : Line) (noted : Noted Response) : Prop
  /-- The step that the line names is taken, and what it notes is noted. -/
  | takes (step : Puzzle.Step) (named : line.step? = some step)
    (taken : noted.map Response.shell = (shell.puzzle.run step).map fun made =>
      { shell with
        puzzle := made.2
        prompt := (line.sizeSet?.map promptFor).getD shell.prompt })
    (known : ∀ fault, (shell.puzzle.run step).outcome = .error fault → catches fault = true)
  /-- No step is named, and at most the threshold is set. -/
  | spares (response : Response) (unnamed : line.step? = none)
    (done : noted.outcome = .ok response)
    (same : response.shell = { shell with threshold := line.levelSet?.getD shell.threshold })
  /-- An argument cannot be read. -/
  | fails (fault : Fault) (unnamed : line.step? = none) (unset : line.levelSet? = none)
    (failed : noted.outcome = .error fault) (known : catches fault = true)

section Commands

variable (shell : Shell) {line : Line}

theorem does_of_complaint (complaint : Complaint) (unnamed : line.step? = none)
    (unset : line.levelSet? = none) : shell.Does line (shell.complaining complaint) :=
  .spares _ unnamed rfl (by rw [unset]; rfl)

/-- An action is applied just as the step that requests it is taken. -/
theorem does_of_request {request : Action.Request} (named : line.step? = some (.apply request))
    (unsized : line.sizeSet? = none)
    (known : ∀ fault, Action.ofRequest request = .error fault → catches fault = true) :
    shell.Does line (shell.applying (Action.ofRequest request)) := by
  cases asked : Action.ofRequest request with
  | error reason =>
    have ran : shell.puzzle.run (.apply request) = .quietly (.error reason) := by
      rw [Puzzle.run, asked]
    refine .takes _ named (by rw [ran]; rfl) fun fault failed => ?_
    rw [ran] at failed
    cases failed
    exact known _ asked
  | ok action =>
    have ran : shell.puzzle.run (.apply request) = Puzzle.change (shell.puzzle.apply action) := by
      rw [Puzzle.run, asked]
    refine .takes _ named ?_ fun fault failed => ?_
    · simp only [ran, unsized, applying, changing, Puzzle.change, Noted.map_map]
      rfl
    · rw [ran] at failed
      exact catches_of_apply (map_eq_error.mp failed)

theorem resize_does (argument : String) :
    shell.Does (.call .resize argument) (shell.resize argument) := by
  have least : leastSize = 2 := rfl
  have greatest : greatestSize = 9 := rfl
  cases given : sizeIn? argument with
  | some size =>
    obtain ⟨read, large, small⟩ := sizeIn?_eq_some.mp given
    have resized : shell.resize argument = (Puzzle.resize (.int size)).map fun puzzle =>
        ⟨"", false, prompting { shell with puzzle }⟩ := by
      simp only [resize, read]
      exact if_neg (by omega)
    have ran : shell.puzzle.run (.resize (.int size)) =
        ⟨[.resized (.int size)], .ok (.nothing, ⟨size, .solved size, 0⟩)⟩ := by
      rw [Puzzle.run, Puzzle.resize_of_large large small]
      rfl
    refine .takes _ (congrArg (Option.map _) given) ?_ fun fault failed => ?_
    · rw [resized, ran, Puzzle.resize_of_large large small, Line.sizeSet?, given]
      rfl
    · rw [ran] at failed
      cases failed
  | none =>
    have unnamed : (Line.call .resize argument).step? = none := congrArg (Option.map _) given
    rw [resize]
    split
    next => exact shell.does_of_complaint _ unnamed rfl
    next size read =>
      split
      next => exact shell.does_of_complaint _ unnamed rfl
      next fits => simp [sizeIn?, read, not_or.mp fits] at given

theorem rotateFace_does (argument : String) :
    shell.Does (.call .rotateFace argument) (shell.rotateFace (Text.words argument)) := by
  have named : (Line.call .rotateFace argument).step? =
      (faceTurn? (Text.words argument)).map .apply := rfl
  generalize Text.words argument = words at named ⊢
  cases words with
  | nil => exact shell.does_of_complaint _ named rfl
  | cons face rest =>
    rw [faceTurn?] at named
    rw [rotateFace, faceAction, turnsAt_succ]
    cases read : turnsAt rest 0 with
    | error fault =>
      rw [read] at named
      exact .fails fault named rfl rfl (catches_of_turnsAt read)
    | ok turns =>
      rw [read] at named
      exact shell.does_of_request named rfl fun _ => catches_of_failsOnArguments
        ((Face.failsOnArguments_ofValue (List.mem_singleton_self _)).bind fun _ _ => failsFor_ok _)

theorem rotateCube_does (argument : String) :
    shell.Does (.call .rotateCube argument) (shell.rotateCube (Text.words argument)) := by
  have named : (Line.call .rotateCube argument).step? =
      (wholeTurn? (Text.words argument)).map .apply := rfl
  generalize Text.words argument = words at named ⊢
  cases words with
  | nil => exact shell.does_of_complaint _ named rfl
  | cons word rest =>
    rw [wholeTurn?] at named
    rw [rotateCube, axisNamed?, List.head?_cons, Option.bind_some]
    simp only [wholeAction, turnsAt_succ]
    cases known : Axis.ofName? (Text.upper word) with
    | none =>
      rw [known] at named
      exact shell.does_of_complaint _ named rfl
    | some axis =>
      have judged : Axis.ofValue (.text (Text.upper word)) = .ok axis := by
        rw [Axis.ofValue, Axis.ofValue?, known]
      cases read : turnsAt rest 0 with
      | error fault =>
        rw [known, read] at named
        exact .fails fault named rfl rfl (catches_of_turnsAt read)
      | ok turns =>
        rw [known, read] at named
        have asked : Action.ofRequest (.turnWhole none (some (.text (Text.upper word)))
            (some (.int turns))) = .ok (.turnWhole axis (.ofInt turns)) := by
          rw [Action.ofRequest, judged]
          rfl
        have does := shell.does_of_request named rfl fun _ refused => by
          rw [asked] at refused
          cases refused
        rw [asked] at does
        exact does

/-- The axis is judged first, so it may be at fault before a number is. -/
theorem rotateSlice_does (argument : String) :
    shell.Does (.call .rotateSlice argument) (shell.rotateSlice (Text.words argument)) := by
  have named : (Line.call .rotateSlice argument).step? =
      (sliceTurn? (Text.words argument)).map .apply := rfl
  generalize Text.words argument = words at named ⊢
  rcases words with _ | ⟨axis, _ | ⟨start, _ | ⟨count, rest⟩⟩⟩
  · exact shell.does_of_complaint _ named rfl
  · exact shell.does_of_complaint _ named rfl
  · exact shell.does_of_complaint _ named rfl
  · have unread {fault : Fault} (known : catches fault = true)
        (unnamed : (Line.call .rotateSlice argument).step? = none) :
        shell.Does (.call .rotateSlice argument)
          (shell.applying (Axis.ofValue (.text (Text.upper axis)) >>= fun _ => .error fault)) := by
      cases judged : Axis.ofValue (.text (Text.upper axis)) with
      | error reason =>
        exact .fails reason unnamed rfl rfl
          (catches_of_failsOnArguments
            (Axis.failsOnArguments_ofValue (List.mem_singleton_self _)) judged)
      | ok axis => exact .fails fault unnamed rfl rfl known
    rw [sliceTurn?] at named
    simp only [rotateSlice, sliceAction, turnsAt_succ]
    cases readStart : readInt start with
    | error fault =>
      rw [readStart] at named
      exact unread (catches_of_readInt readStart) named
    | ok first =>
      cases readCount : readInt count with
      | error fault =>
        rw [readStart, readCount] at named
        exact unread (catches_of_readInt readCount) named
      | ok layers =>
        cases read : turnsAt rest 0 with
        | error fault =>
          rw [readStart, readCount, read] at named
          exact unread (catches_of_turnsAt read) named
        | ok turns =>
          rw [readStart, readCount, read] at named
          exact shell.does_of_request named rfl fun _ => catches_of_failsOnArguments
            ((Axis.failsOnArguments_ofValue (List.mem_singleton_self _)).bind
              fun _ _ => failsFor_ok _)

theorem perform_does (argument : String) (command : Command) :
    shell.Does (.call command argument) (shell.perform argument command) := by
  cases command with
  | apply =>
    refine .takes (.applyMoves argument) rfl ?_ fun fault failed => ?_
    · simp only [perform, applyText, Puzzle.run, Noted.map_map]
      rfl
    · exact catches_of_applyMoves (map_eq_error.mp failed)
  | reset =>
    refine .takes .renew rfl rfl fun fault failed => ?_
    cases failed
  | resize => exact shell.resize_does argument
  | focus =>
    exact shell.does_of_request rfl rfl fun _ => catches_of_failsOnArguments
      ((Face.failsOnArguments_ofValue (List.mem_singleton_self _)).bind fun _ _ => failsFor_ok _)
  | rotateFace => exact shell.rotateFace_does argument
  | rotateSlice => exact shell.rotateSlice_does argument
  | rotateCube => exact shell.rotateCube_does argument
  | check =>
    simp only [perform, check]
    split
    · exact .spares _ rfl rfl rfl
    · exact .spares _ rfl rfl rfl
  | debugLevel | help | isSolved | printCube | quit => exact .spares _ rfl rfl rfl

theorem attempt_does (text : String) : shell.Does (Line.ofText text) (shell.attempt text) := by
  rw [attempt]
  cases Line.ofText text with
  | empty | unknown => exact .spares _ rfl rfl rfl
  | call command argument => exact shell.perform_does argument command

end Commands

/-- The shell that a line leaves behind. -/
def heeding (shell : Shell) (line : Line) : Shell where
  puzzle := line.step?.elim shell.puzzle shell.puzzle.next
  threshold := line.levelSet?.getD shell.threshold
  prompt := (line.sizeSet?.map promptFor).getD shell.prompt

section Does

variable {shell : Shell} {line : Line} {noted : Noted Response} (does : shell.Does line noted)
include does

theorem Does.shell_eq_of_ok {response : Response} (done : noted.outcome = .ok response) :
    response.shell = shell.heeding line := by
  cases does with
  | takes step named taken known =>
    have taken := congrArg Noted.outcome taken
    simp only [Noted.map, done] at taken
    obtain ⟨made, ran, same⟩ := map_eq_ok.mp taken.symm
    rw [heeding, named, Line.levelSet?_of_named named, ← same, Option.elim_some, Puzzle.next, ran]
    rfl
  | spares response' unnamed done' same =>
    obtain rfl := Except.ok.inj (done.symm.trans done')
    rw [same, heeding, unnamed, Line.sizeSet?_of_unnamed unnamed]
    rfl
  | fails fault unnamed unset failed known => cases done.symm.trans failed

/-- What fails leaves the shell as it is, and is caught. -/
theorem Does.of_error {fault : Fault} (failed : noted.outcome = .error fault) :
    catches fault = true ∧ shell.heeding line = shell := by
  cases does with
  | takes step named taken known =>
    have taken := congrArg Noted.outcome taken
    simp only [Noted.map, failed] at taken
    have ran := map_eq_error.mp taken.symm
    -- A size that is given is in the range, so the puzzle can be made anew.
    have unsized : line.sizeSet? = none := by
      rw [Option.eq_none_iff_forall_ne_some]
      intro size given
      obtain ⟨resizes, large, small⟩ := Line.step?_of_sizeSet? given
      obtain rfl := Option.some.inj (named.symm.trans resizes)
      simp only [Puzzle.run, Puzzle.change, Puzzle.resize_of_large large small] at ran
      cases ran
    refine ⟨known fault ran, ?_⟩
    rw [heeding, named, unsized, Line.levelSet?_of_named named, Option.elim_some,
      Puzzle.next_of_error ran]
    rfl
  | spares response unnamed done same => cases done.symm.trans failed
  | fails fault' unnamed unset failed' known =>
    obtain rfl := Except.error.inj (failed.symm.trans failed')
    refine ⟨known, ?_⟩
    rw [heeding, unnamed, unset, Line.sizeSet?_of_unnamed unnamed]
    rfl

/-- The puzzle does not complain, so a line that complains without failing names no step. -/
theorem Does.unnamed_of_complaint
    (complains : ∃ event ∈ noted.events, event.level = .error) : line.step? = none := by
  obtain ⟨event, member, complaint⟩ := complains
  cases does with
  | takes step named taken known =>
    have same : noted.events = (shell.puzzle.run step).events := congrArg Noted.events taken
    exact absurd complaint (shell.puzzle.uncomplaining_run step event (same ▸ member))
  | spares response unnamed done same => exact unnamed
  | fails fault unnamed unset failed known => exact unnamed

end Does

section Run

variable {shell : Shell} {text : String}

theorem run_of_ok {response : Response} (done : (shell.attempt text).outcome = .ok response) :
    shell.run text = ⟨response, (shell.attempt text).events, none⟩ := by
  rw [run, done]

/-- A line that fails is complained about, and nothing else comes of it. -/
theorem run_of_error {fault : Fault} (failed : (shell.attempt text).outcome = .error fault) :
    shell.run text = ⟨⟨"", false, shell⟩,
      (shell.attempt text).events ++ [.complained (.failed fault)], none⟩ := by
  have known := ((shell.attempt_does text).of_error failed).1
  rw [run, failed]
  exact if_pos known

/-- A line that gives the puzzle a size prints nothing and replaces puzzle and prompt. -/
theorem run_of_sizeSet? {size : Nat} (given : (Line.ofText text).sizeSet? = some size) :
    shell.run text =
      ⟨⟨"", false, ⟨⟨size, .solved size, 0⟩, shell.threshold, promptFor size⟩⟩,
        [.resized (.int size)], none⟩ := by
  obtain ⟨argument, line, read, large, small⟩ := Line.sizeSet?_eq_some.mp given
  have fits : ¬ ((size : Int) < leastSize ∨ (size : Int) > greatestSize) := by
    simp only [leastSize, greatestSize]
    omega
  have resized : shell.attempt text = (Puzzle.resize (.int size)).map fun puzzle =>
      ⟨"", false, prompting { shell with puzzle }⟩ := by
    rw [attempt, line]
    simp only [perform, resize, read]
    exact if_neg fits
  rw [run, resized, Puzzle.resize_of_large large small]
  rfl

variable (shell text)

theorem shell_run : (shell.run text).shell = shell.heeding (Line.ofText text) := by
  have does := shell.attempt_does text
  cases done : (shell.attempt text).outcome with
  | ok response =>
    rw [run_of_ok done]
    exact does.shell_eq_of_ok done
  | error fault => rw [run_of_error done, (does.of_error done).2]

/-- No line ends the session by a fault. -/
theorem uncaught_run : (shell.run text).uncaught = none := by
  cases done : (shell.attempt text).outcome with
  | ok response => rw [run_of_ok done]
  | error fault => rw [run_of_error done]

/-- A line that complains leaves the puzzle as it is: its step has failed, or it names none. -/
theorem puzzle_run_of_complaint
    (complains : ∃ event ∈ (shell.run text).events, event.level = .error) :
    (shell.run text).shell.puzzle = shell.puzzle := by
  cases done : (shell.attempt text).outcome with
  | ok response =>
    rw [run_of_ok done] at complains
    rw [shell_run, heeding, (shell.attempt_does text).unnamed_of_complaint complains]
    rfl
  | error fault => rw [run_of_error done]

end Run

end Shell

end Cubing
