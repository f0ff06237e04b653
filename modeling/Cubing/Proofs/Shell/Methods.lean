import Cubing.Proofs.Puzzle.Methods
import Cubing.Proofs.Shell.Steps

/-!
# The methods of the shell

The shell keeps its puzzle, its threshold and its prompt in fields, and its commands are methods
that print, note and assign as they go. A fault that is caught finds the fields as they have been
left. Each command has at most one call that can fail after its arguments have been read, the one
to the puzzle, and prints and writes the prompt after it. So what is caught has changed nothing,
and carrying out a line on the fields comes to the answer to the line (`Shell.Method.run_fields`).
-/
namespace Cubing.Shell

/-- The fields of a shell with those of its puzzle, and what has been printed so far. -/
structure Fields where
  puzzle : Puzzle.Fields
  threshold : Level
  prompt : String
  output : String

/-- A method works on the fields, and what it has assigned when it fails stays assigned. -/
abbrev Method := EStateM Fault Fields

namespace Method

variable {α β : Type}

/-- Calls a method of the puzzle. -/
def onPuzzle (method : Puzzle.Method α) : Method α := fun fields =>
  match method fields.puzzle with
  | .ok value puzzle => .ok value { fields with puzzle }
  | .error fault puzzle => .error fault { fields with puzzle }

/-- Does something that may be noted and may fail, and assigns nothing. -/
def doing (noted : Noted α) : Method α := onPuzzle (.doing noted)

def print (text : String) : Method Unit :=
  modify fun fields => { fields with output := fields.output ++ text }

def complain (complaint : Complaint) : Method Bool := do
  doing (.note (.complained complaint))
  return false

/-- Writes the prompt for the size of the puzzle. -/
def setPrompt : Method Unit := do
  let puzzle ← onPuzzle .puzzle
  modify fun fields => { fields with prompt := promptFor puzzle.size }

/-- Applies the action that the arguments name, if they name one. -/
def applying (action : Except Fault Action) : Method Bool := do
  let action ← doing (.quietly action)
  onPuzzle (.apply action)
  return false

def check (text : String) : Method Bool := do
  match compileMoves text with
  | .ok actions => print (listed actions)
  | .error failure =>
    doing (.note (.notCompiled text failure.summary))
    print s!"{failure.message}\n"
  return false

def applyText (text : String) : Method Bool := do
  match ← onPuzzle (.applyMoves text) with
  | some failure => print s!"{failure.message}\n"
  | none => pure ()
  return false

def resize (argument : String) : Method Bool :=
  match readInt argument with
  | .error _ => complain (.sizeNotInteger argument)
  | .ok size =>
    if size < leastSize ∨ size > greatestSize then
      complain (.sizeOutOfRange leastSize greatestSize)
    else do
      onPuzzle (.resize (.int size))
      setPrompt
      return false

def rotateFace (words : List String) : Method Bool :=
  match words with
  | [] => complain .faceMissing
  | face :: _ => applying (faceAction face words)

def rotateSlice (words : List String) : Method Bool :=
  match words with
  | axis :: start :: count :: _ => applying (sliceAction axis start count words)
  | _ => complain .sliceIncomplete

def rotateCube (words : List String) : Method Bool :=
  match axisNamed? words with
  | none => complain .axisMissing
  | some axis => applying (wholeAction axis words)

/-- Sets the threshold, if the text mentions a level. -/
def setLevel (text : String) : Method Bool := do
  match levelIn? text with
  | some threshold => modify fun fields => { fields with threshold }
  | none => pure ()
  return false

/-- Prints a text that is worked out from the puzzle. -/
def printPuzzle (text : Puzzle → String) : Method Bool := do
  let puzzle ← onPuzzle .puzzle
  print (text puzzle)
  return false

/-- Carries out a command. It may ask to stop. -/
def perform (argument : String) : Command → Method Bool
  | .apply => applyText argument
  | .check => check argument
  | .debugLevel => setLevel argument
  | .focus => applying (Action.ofRequest (.turnWhole (some (.text argument)) none none))
  | .help => do
    print (help argument)
    return false
  | .isSolved =>
    printPuzzle fun puzzle => if puzzle.cube.isUniform then "Solved\n" else "Not solved\n"
  | .printCube => printPuzzle fun puzzle => puzzle.cube.text ++ "\n"
  | .quit => return true
  | .reset => do
    onPuzzle .renew
    return false
  | .resize => resize argument
  | .rotateCube => rotateCube (Text.words argument)
  | .rotateFace => rotateFace (Text.words argument)
  | .rotateSlice => rotateSlice (Text.words argument)

def attempt (text : String) : Method Bool :=
  match Line.ofText text with
  | .empty => return false
  | .unknown text => do
    print s!"*** Unknown syntax: {text}\n"
    return false
  | .call command argument => perform argument command

/-- Carries out a line. A fault that is caught is complained about, and nothing is taken back. -/
def run (text : String) : Method Bool :=
  tryCatch (attempt text) fun fault =>
    if catches fault then complain (.failed fault) else throw fault

end Method

/-- The fields after some lines, whatever comes of them. -/
def Fields.after (fields : Fields) (lines : List String) : Fields :=
  lines.foldl (fun fields line =>
    match Method.run line fields with
    | .ok _ next | .error _ next => next) fields

/-- The fields of a shell after some notes and some output. -/
def fields (shell : Shell) (notes : List Event) (output : String) : Fields :=
  ⟨shell.puzzle.fields notes, shell.threshold, shell.prompt, output⟩

namespace Method

/-- On the fields of a shell, a method comes to the response without noting anything. -/
def Responds (method : Method Bool) (shell : Shell) (response : Response) : Prop :=
  ∀ notes output, method (shell.fields notes output) =
    .ok response.stop (response.shell.fields notes (output ++ response.output))

/-- On the fields of a shell, a method comes to an outcome. If this is a fault, the fields are those
that they were. -/
def ComesTo (method : Method Bool) (shell : Shell) (noted : Noted Response) : Prop :=
  ∀ notes output, method (shell.fields notes output) =
    match noted.outcome with
    | .ok response =>
      .ok response.stop (response.shell.fields (notes ++ noted.events) (output ++ response.output))
    | .error fault => .error fault (shell.fields (notes ++ noted.events) output)

section Responses

variable {shell : Shell} {method : Method Bool} {response : Response}

theorem responds_print (text : String) :
    (do print text; return false : Method Bool).Responds shell ⟨text, false, shell⟩ :=
  fun _ _ => rfl

theorem responds_return (stop : Bool) :
    (return stop : Method Bool).Responds shell ⟨"", stop, shell⟩ := by
  intro notes output
  rw [String.append_empty]
  rfl

theorem Responds.comesTo (responds : method.Responds shell response) :
    method.ComesTo shell (.quietly (.ok response)) := by
  intro notes output
  rw [responds, Noted.quietly, List.append_nil]

theorem Responds.noting (responds : method.Responds shell response) (event : Event) :
    (do doing (.note event); method : Method Bool).ComesTo shell
      (do .note event; .quietly (.ok response)) :=
  fun notes output => responds (notes ++ [event]) output

theorem doing_quietly_bind {α β : Type} (value : α) (later : α → Method β) :
    doing (.quietly (.ok value)) >>= later = later value := by
  funext ⟨⟨net, applied, notes⟩, threshold, prompt, output⟩
  simp only [doing, onPuzzle, Puzzle.Method.doing, Noted.quietly, bind, EStateM.bind,
    List.append_nil]

theorem comesTo_complain (complaint : Complaint) :
    (complain complaint).ComesTo shell (shell.complaining complaint) :=
  (responds_return false).noting (.complained complaint)

/-- What comes after a call to the puzzle cannot fail any more. -/
theorem comesTo_onPuzzle {α : Type} {call : Puzzle.Method α} {noted : Noted (α × Puzzle)}
    (later : α → Method Bool) (respond : α → Puzzle → Response)
    (comes : call.ComesTo shell.puzzle noted)
    (responds : ∀ value puzzle, noted.outcome = .ok (value, puzzle) →
      (later value).Responds { shell with puzzle } (respond value puzzle)) :
    (onPuzzle call >>= later).ComesTo shell
      (noted.map fun (value, puzzle) => respond value puzzle) := by
  intro notes output
  have came := comes notes
  rcases noted with ⟨events, fault | ⟨value, puzzle⟩⟩
  · simp only [bind, EStateM.bind, onPuzzle, fields, came]
    rfl
  · have responded := responds value puzzle rfl (notes ++ events) output
    simp only [bind, EStateM.bind, onPuzzle, fields, came] at responded ⊢
    exact responded

/-- A call to the puzzle after which nothing is printed. -/
theorem comesTo_changing {call : Puzzle.Method Unit} {noted : Noted Puzzle}
    (comes : call.ComesTo shell.puzzle (noted.map ((), ·))) :
    (do onPuzzle call; return false : Method Bool).ComesTo shell (shell.changing noted) := by
  have called := comesTo_onPuzzle (fun _ => return false)
    (fun _ puzzle => ⟨"", false, { shell with puzzle }⟩) comes fun _ _ _ => responds_return false
  rwa [Noted.map_map] at called

end Responses

section Commands

variable {shell : Shell} (valid : shell.puzzle.Valid)

theorem comesTo_check (text : String) : (check text).ComesTo shell (shell.check text) := by
  rw [check, Shell.check]
  cases compileMoves text with
  | ok actions => exact (responds_print (listed actions)).comesTo
  | error failure => exact (responds_print s!"{failure.message}\n").noting _

theorem comesTo_setLevel (text : String) :
    (setLevel text).ComesTo shell (shell.setLevel text) := by
  rw [setLevel, Shell.setLevel]
  cases levelIn? text with
  | none => exact (responds_return false).comesTo
  | some level => exact Responds.comesTo fun _ _ => by rw [String.append_empty]; rfl

include valid

theorem comesTo_applying (action : Except Fault Action) :
    (applying action).ComesTo shell (shell.applying action) := by
  cases action with
  | error fault => exact fun _ _ => rfl
  | ok action =>
    rw [applying, doing_quietly_bind]
    exact comesTo_changing (Puzzle.Method.comesTo_apply valid action)

theorem comesTo_applyText (text : String) :
    (applyText text).ComesTo shell (shell.applyText text) := by
  refine comesTo_onPuzzle
    (fun failure => do
      match failure with
      | some failure => print s!"{failure.message}\n"
      | none => pure ()
      return false)
    (fun failure puzzle =>
      ⟨failure.elim "" fun failure => s!"{failure.message}\n", false, { shell with puzzle }⟩)
    (Puzzle.Method.comesTo_applyMoves valid text) fun failure puzzle _ => ?_
  cases failure with
  | none => exact responds_return false
  | some failure => exact responds_print _

/-- What is read from the puzzle leaves it as it is. -/
theorem responds_puzzle {later : Puzzle → Method Bool} {response : Response}
    (responds : (later shell.puzzle).Responds shell response) :
    (onPuzzle .puzzle >>= later).Responds shell response := by
  intro notes output
  have read : Puzzle.Method.puzzle (shell.puzzle.fields notes) =
      .ok shell.puzzle (shell.puzzle.fields notes) := by
    refine (Puzzle.Method.comesTo_puzzle valid notes).trans ?_
    exact congrArg (fun notes => EStateM.Result.ok shell.puzzle (shell.puzzle.fields notes))
      (List.append_nil notes)
  rw [← responds]
  simp only [bind, EStateM.bind, onPuzzle, fields, read]

theorem comesTo_printPuzzle (text : Puzzle → String) :
    (printPuzzle text).ComesTo shell (shell.printing (text shell.puzzle)) :=
  (responds_puzzle valid (responds_print _)).comesTo

/-- The prompt is written for the puzzle that has just been made. -/
theorem responds_setPrompt : (do setPrompt; return false : Method Bool).Responds shell
    ⟨"", false, prompting shell⟩ := by
  rw [setPrompt, bind_assoc]
  refine responds_puzzle valid fun notes output => ?_
  rw [String.append_empty]
  rfl

omit valid in
/-- The arguments are judged before the puzzle is called, and the prompt is written after that. -/
theorem comesTo_resize (argument : String) :
    (resize argument).ComesTo shell (shell.resize argument) := by
  rw [resize, Shell.resize]
  cases readInt argument with
  | error fault => exact comesTo_complain _
  | ok size =>
    dsimp only
    split
    · exact comesTo_complain _
    · -- The puzzle that has been made is valid, so its size can be read for the prompt.
      have called := comesTo_onPuzzle (fun _ => do setPrompt; return false)
        (fun _ puzzle => ⟨"", false, prompting { shell with puzzle }⟩)
        (Puzzle.Method.comesTo_resize shell.puzzle (.int size)) fun _ puzzle made => by
          obtain ⟨_, resized, ⟨⟩⟩ := map_eq_ok.mp made
          have new := Puzzle.new_of_ofSize (Puzzle.resize_eq_ok_iff.mp resized).2
          exact responds_setPrompt new.valid
      rwa [Noted.map_map] at called

theorem comesTo_rotateFace (words : List String) :
    (rotateFace words).ComesTo shell (shell.rotateFace words) := by
  cases words with
  | nil => exact comesTo_complain _
  | cons face words => exact comesTo_applying valid _

theorem comesTo_rotateSlice (words : List String) :
    (rotateSlice words).ComesTo shell (shell.rotateSlice words) := by
  rcases words with _ | ⟨axis, _ | ⟨start, _ | ⟨count, words⟩⟩⟩
  · exact comesTo_complain _
  · exact comesTo_complain _
  · exact comesTo_complain _
  · exact comesTo_applying valid _

theorem comesTo_rotateCube (words : List String) :
    (rotateCube words).ComesTo shell (shell.rotateCube words) := by
  rw [rotateCube, Shell.rotateCube]
  cases axisNamed? words with
  | none => exact comesTo_complain _
  | some axis => exact comesTo_applying valid _

theorem comesTo_perform (argument : String) (command : Command) :
    (perform argument command).ComesTo shell (shell.perform argument command) := by
  cases command with
  | apply => exact comesTo_applyText valid argument
  | check => exact comesTo_check argument
  | debugLevel => exact comesTo_setLevel argument
  | focus => exact comesTo_applying valid _
  | help => exact (responds_print (help argument)).comesTo
  | isSolved =>
    exact comesTo_printPuzzle valid fun puzzle =>
      if puzzle.cube.isUniform then "Solved\n" else "Not solved\n"
  | printCube => exact comesTo_printPuzzle valid fun puzzle => puzzle.cube.text ++ "\n"
  | quit => exact (responds_return true).comesTo
  | reset => exact comesTo_changing (Puzzle.Method.comesTo_renew valid)
  | resize => exact comesTo_resize argument
  | rotateCube => exact comesTo_rotateCube valid _
  | rotateFace => exact comesTo_rotateFace valid _
  | rotateSlice => exact comesTo_rotateSlice valid _

theorem comesTo_attempt (text : String) :
    (attempt text).ComesTo shell (shell.attempt text) := by
  rw [attempt, Shell.attempt]
  cases Line.ofText text with
  | empty => exact (responds_return false).comesTo
  | unknown text => exact (responds_print _).comesTo
  | call command argument => exact comesTo_perform valid argument command

/-- Carrying out a line on the fields of a shell comes to the answer to the line. A fault that is
caught finds the fields as they were before the line. -/
theorem run_fields (text : String) (notes : List Event) (output : String) :
    run text (shell.fields notes output) =
      .ok (shell.run text).stop ((shell.run text).shell.fields
        (notes ++ (shell.run text).events) (output ++ (shell.run text).output)) := by
  have came := comesTo_attempt valid text notes output
  cases done : (shell.attempt text).outcome with
  | ok response =>
    rw [done] at came
    rw [run_of_ok done, run]
    simp only [tryCatch, tryCatchThe, MonadExceptOf.tryCatch, EStateM.tryCatch, came]
  | error fault =>
    rw [done] at came
    -- Whatever goes wrong in a line is of a kind that is caught.
    have known := ((shell.attempt_does text).of_error done).1
    rw [run_of_error done, run]
    have complained : (complain (.failed fault)).ComesTo shell
        (shell.complaining (.failed fault)) := comesTo_complain _
    simp only [tryCatch, tryCatchThe, MonadExceptOf.tryCatch, EStateM.tryCatch, came]
    refine (congrFun (if_pos known) _).trans ((complained _ output).trans ?_)
    rw [List.append_assoc]
    rfl

end Commands

end Method

end Cubing.Shell
