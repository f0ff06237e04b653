import Cubing.Puzzle
import Cubing.Shell.Help
import Cubing.Text.UpperCase

/-!
# The shell

A shell holds a puzzle and carries out command lines on it. A line prints some
text, notes some events and may ask the shell to stop. A command that fails leaves
the shell as it was, and the fault is caught and noted as a complaint, unless it
is of a kind that the shell does not know. Which events the journal of a shell
shows depends on its threshold, and on nothing else. A session gives a new shell the
lines of a text, up to the first that asks to stop.
-/
namespace Cubing

structure Shell where
  puzzle : Puzzle
  /-- Events below this level are not shown. -/
  threshold : Level
  /-- Shown before a line is read. It is written when the puzzle gets its size, and kept. -/
  prompt : String

namespace Shell

/-- What a command does unless it fails: it prints, may ask to stop, and leaves a shell. -/
structure Response where
  output : String
  stop : Bool
  shell : Shell

/-- What comes of a line. -/
structure Answer extends Response where
  events : List Event
  /-- A fault that was not caught. It ends the session. -/
  uncaught : Option Fault

namespace Answer

/-- The events that the journal shows. -/
def records (answer : Answer) : List Event :=
  answer.events.filter (·.shownAt answer.shell.threshold)

/-- The lines that the journal shows. -/
def journal (answer : Answer) : List String := answer.records.map Event.line

end Answer

def promptFor (size : Nat) : String := s!"PUZZLECUBE {size}x{size}> "

/-- Writes the prompt for the size of the puzzle. -/
def prompting (shell : Shell) : Shell := { shell with prompt := promptFor shell.puzzle.size }

def ofSize (size : Value) : Except Fault Shell :=
  (fun puzzle => prompting ⟨puzzle, .warning, ""⟩) <$> Puzzle.ofSize size

/-- The sizes that a puzzle can be given in the shell. -/
def leastSize : Nat := 2

def greatestSize : Nat := 9

/-- Prints a text and changes nothing. -/
def printing (shell : Shell) (output : String) : Noted Response :=
  .quietly (.ok ⟨output, false, shell⟩)

/-- Complains without having failed. -/
def complaining (shell : Shell) (complaint : Complaint) : Noted Response := do
  .note (.complained complaint)
  shell.printing ""

/-- Changes the puzzle without printing. -/
def changing (shell : Shell) (noted : Noted Puzzle) : Noted Response :=
  noted.map fun puzzle => ⟨"", false, { shell with puzzle }⟩

/-- Applies the action that the arguments name, if they name one. -/
def applying (shell : Shell) (action : Except Fault Action) : Noted Response :=
  match action with
  | .ok action => shell.changing (shell.puzzle.apply action)
  | .error fault => .quietly (.error fault)

/-- The number of turns among some words, or one turn. -/
def turnsAt (words : List String) (index : Nat) : Except Fault Int :=
  match words[index]? with
  | some word => readInt word
  | none => .ok 1

/-- What a check prints of actions: how many there are, and each on a line. -/
def listed (actions : List Action) : String :=
  let lines := actions.map fun action => s!"  {action.text}\n"
  s!"{actions.length} action(s)\n" ++ String.join lines

def check (shell : Shell) (text : String) : Noted Response :=
  match compileMoves text with
  | .ok actions => shell.printing (listed actions)
  | .error failure => do
    .note (.notCompiled text failure.summary)
    shell.printing s!"{failure.message}\n"

def applyText (shell : Shell) (text : String) : Noted Response :=
  (shell.puzzle.applyMoves text).map fun (failure, puzzle) =>
    ⟨failure.elim "" fun failure => s!"{failure.message}\n", false, { shell with puzzle }⟩

/-- Any text that is not an integer is complained about in the same way. -/
def resize (shell : Shell) (argument : String) : Noted Response :=
  match readInt argument with
  | .error _ => shell.complaining (.sizeNotInteger argument)
  | .ok size =>
    if size < leastSize ∨ size > greatestSize then
      shell.complaining (.sizeOutOfRange leastSize greatestSize)
    else
      (Puzzle.resize (.int size)).map fun puzzle => ⟨"", false, prompting { shell with puzzle }⟩

/-- The turn of a face that some words ask for, the first of which names the face. -/
def faceAction (face : String) (words : List String) : Except Fault Action := do
  let turns ← turnsAt words 1
  Action.ofRequest (.turnFace (.text face) (some (.int turns)))

/-- The turn of a slice that some words ask for. The axis is judged before the numbers. -/
def sliceAction (axis start count : String) (words : List String) : Except Fault Action := do
  let axis ← Axis.ofValue (.text (Text.upper axis))
  let start ← readInt start
  let count ← readInt count
  let turns ← turnsAt words 3
  .ok (.turnSlice axis start count (.ofInt turns))

/-- The turn of the whole cube that some words ask for. -/
def wholeAction (axis : Axis) (words : List String) : Except Fault Action := do
  let turns ← turnsAt words 1
  .ok (.turnWhole axis (.ofInt turns))

def rotateFace (shell : Shell) (words : List String) : Noted Response :=
  match words with
  | [] => shell.complaining .faceMissing
  | face :: _ => shell.applying (faceAction face words)

def rotateSlice (shell : Shell) (words : List String) : Noted Response :=
  match words with
  | axis :: start :: count :: _ => shell.applying (sliceAction axis start count words)
  | _ => shell.complaining .sliceIncomplete

/-- The axis that the first of some words names. -/
def axisNamed? (words : List String) : Option Axis :=
  words.head?.bind fun axis => Axis.ofName? (Text.upper axis)

def rotateCube (shell : Shell) (words : List String) : Noted Response :=
  match axisNamed? words with
  | none => shell.complaining .axisMissing
  | some axis => shell.applying (wholeAction axis words)

def mentions (word : List Char) : List Char → Bool
  | [] => word.isEmpty
  | c :: rest => word.isPrefixOf (c :: rest) || mentions word rest

/-- The levels in the order in which they are looked for, by name. -/
def levelNames : List (String × Level) :=
  [("debug", .debug), ("info", .info), ("warning", .warning), ("error", .error)]

/-- The first level that a text mentions. -/
def levelIn? (text : String) : Option Level :=
  (levelNames.find? fun level => mentions level.1.toList text.toList).map (·.2)

/-- Sets the threshold, if the text mentions a level. -/
def setLevel (shell : Shell) (text : String) : Noted Response :=
  let threshold := (levelIn? text).getD shell.threshold
  .quietly (.ok ⟨"", false, { shell with threshold }⟩)

def perform (shell : Shell) (argument : String) : Command → Noted Response
  | .apply => shell.applyText argument
  | .check => shell.check argument
  | .debugLevel => shell.setLevel argument
  | .focus => shell.applying (Action.ofRequest (.turnWhole (some (.text argument)) none none))
  | .help => shell.printing (help argument)
  | .isSolved =>
    shell.printing (if shell.puzzle.cube.isUniform then "Solved\n" else "Not solved\n")
  | .printCube => shell.printing (shell.puzzle.cube.text ++ "\n")
  | .quit => .quietly (.ok ⟨"", true, shell⟩)
  | .reset => shell.changing shell.puzzle.renew
  | .resize => shell.resize argument
  | .rotateCube => shell.rotateCube (Text.words argument)
  | .rotateFace => shell.rotateFace (Text.words argument)
  | .rotateSlice => shell.rotateSlice (Text.words argument)

/-- Carries out a line. What fails is left to be caught. -/
def attempt (shell : Shell) (text : String) : Noted Response :=
  match Line.ofText text with
  | .empty => shell.printing ""
  | .unknown text => shell.printing s!"*** Unknown syntax: {text}\n"
  | .call command argument => shell.perform argument command

/-- The shell catches what is wrong with cubes, arguments and values, and nothing else. -/
def catches (fault : Fault) : Bool :=
  match fault.kind with
  | .invalidCubeState | .indexOutOfRange | .invalidSliceRange | .invalidSliceSize
  | .invalidSliceDirection | .notationError | .valueError => true
  | .overflowError | .indexError => false

/-- Carries out a line and complains about the fault if it fails. -/
def run (shell : Shell) (text : String) : Answer :=
  let noted := shell.attempt text
  match noted.outcome with
  | .ok response => ⟨response, noted.events, none⟩
  | .error fault =>
    if catches fault then ⟨⟨"", false, shell⟩, noted.events ++ [.complained (.failed fault)], none⟩
    else ⟨⟨"", false, shell⟩, noted.events, some fault⟩

/-- Carries out lines one after the other, whether or not one asks to stop. -/
def runAll (shell : Shell) : List String → List Answer
  | [] => []
  | line :: lines =>
    let answer := shell.run line
    answer :: if answer.uncaught.isSome then [] else answer.shell.runAll lines

/-- What is printed and what the journal shows when lines are read at the prompt, up to the first
that asks to stop. -/
def converse (shell : Shell) : List String → String × List String
  | [] => ("", [])
  | line :: lines =>
    let answer := shell.run line
    let printed := shell.prompt ++ answer.output
    if answer.stop || answer.uncaught.isSome then (printed, answer.journal)
    else
      let (later, journal) := answer.shell.converse lines
      (printed ++ later, answer.journal ++ journal)

/-- Printed before the first prompt. -/
def banner : String := "Starting PUZZLECUBE Command line interface (CLI)\n"

/-- The lines that are read from a text one by one. The last of them may lack its newline. -/
def typedLines : List Char → List (List Char)
  | [] => []
  | c :: chars =>
    if c = '\n' then [] :: typedLines chars
    else
      match typedLines chars with
      | [] => [[c]]
      | line :: lines => (c :: line) :: lines

/-- A whole session: what is printed and what the journal shows when a text is typed. -/
def session (input : String) : Except Fault (String × List String) :=
  (fun shell =>
    let (printed, journal) := shell.converse ((typedLines input.toList).map String.ofList)
    (banner ++ printed, journal)) <$> ofSize (.int Puzzle.defaultSize)

end Shell

end Cubing
