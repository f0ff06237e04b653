import Cubing.Journal
import Cubing.Moves.Actions
import Cubing.Net.Walk

/-!
# Puzzles

A puzzle is a cube that changes as actions are applied to it, with the number of
actions applied since it was last new. A step either succeeds and gives the next
puzzle, or fails and leaves the puzzle as it is; several actions applied together
succeed or fail together. The cells of a puzzle hold the numbers of their colours;
cells that hold the faces themselves make a difference to nothing but the record.
-/
namespace Cubing

/-- What stands in a cell: the number of its colour, or the face itself, which equals its number. -/
inductive Holding where
  | number
  | face
deriving DecidableEq, Repr

/-- The text of a colour as a list shows it. -/
def Holding.text : Holding → Face → String
  | .number, colour => toString colour.number
  | .face, colour => Action.faceText colour

namespace Cube

variable {n : Nat}

/-- The colours face by face, row by row. -/
def colours (cube : Cube n) : List (List Face) := Face.all.map fun face => (cube.grid face).toList

def rowNumbers (cube : Cube n) (face : Face) (row : Fin n) : List String :=
  (List.finRange n).map fun col => toString (cube.get ⟨face, row, col⟩).number

/-- The lines of a face: its name, and its rows. -/
def faceLines (cube : Cube n) (face : Face) : List String :=
  face.name :: (List.finRange n).map fun row => "  " ++ " ".intercalate (cube.rowNumbers face row)

/-- A cube written as one block of lines for each face. -/
def text (cube : Cube n) : String :=
  String.join ((Face.all.flatMap cube.faceLines).map fun line => line ++ "\n")

/-- A cube written as its size and its grids, which show what stands in their cells. -/
def recordOf (cube : Cube n) (held : Face → Vector Holding (n * n)) : String :=
  let grid (face : Face) :=
    let cells := List.zipWith Holding.text (held face).toList (cube.grid face).toList
    "[" ++ ", ".intercalate cells ++ "]"
  let state := ", ".intercalate (Face.all.map grid)
  "\x7b \"size\" : " ++ toString n ++ ", \"state\" : [" ++ state ++ "] \x7d"

/-- The record of a cube of numbers. -/
def record (cube : Cube n) : String := cube.recordOf fun _ => .replicate (n * n) .number

end Cube

/-- A cube and the number of actions applied to it since it was last new. -/
structure Puzzle where
  size : Nat
  cube : Cube size
  applied : Nat

namespace Puzzle

/-- The size of a puzzle for which none is given. -/
def defaultSize : Nat := 3

def ofSized (sized : SizedCube) : Puzzle := ⟨sized.size, sized.cube, 0⟩

def ofSize (size : Value) : Except Fault Puzzle := ofSized <$> Net.solvedOfSize size

def ofNet (net : Net) : Except Fault Puzzle := ofSized <$> net.read none

/-- What a new puzzle is made from. -/
inductive Origin where
  | net (net : Net)
  | size (size : Value)
  | default

def ofOrigin : Origin → Except Fault Puzzle
  | .net net => ofNet net
  | .size size => ofSize size
  | .default => ofSize (.int defaultSize)

def sameCube (first second : Puzzle) : Bool := first.cube.colours = second.cube.colours

/-- Solves the puzzle by making it new. -/
def renew (puzzle : Puzzle) : Noted Puzzle := do
  .note .wasReset
  return ⟨puzzle.size, .solved puzzle.size, 0⟩

/-- Replaces the puzzle by a new one of another size. -/
def resize (size : Value) : Noted Puzzle := do
  -- The size is written down before it is judged.
  if size.isQuotable then .note (.resized size) else .quietly (.error .integerUnwritable)
  .quietly (ofSize size)

def apply (puzzle : Puzzle) (action : Action) : Noted Puzzle :=
  (puzzle.cube.applyNoted action).map fun cube => ⟨puzzle.size, cube, puzzle.applied + 1⟩

def applyAll (puzzle : Puzzle) (actions : List Action) : Noted Puzzle :=
  (puzzle.cube.applyAllNoted actions).map fun cube =>
    ⟨puzzle.size, cube, puzzle.applied + actions.length⟩

/-- Applies a text of moves. A text that cannot be read changes nothing and is no fault. -/
def applyMoves (puzzle : Puzzle) (text : String) : Noted (Option Failure × Puzzle) :=
  match compileMoves text with
  | .error failure => do
    .note (.notCompiled text failure.summary)
    .note (.movesIgnored text failure.summary)
    return (some failure, puzzle)
  | .ok actions => do
    .note (.movesApplied text)
    (puzzle.applyAll actions).map fun puzzle => (none, puzzle)

/-- What a puzzle is compared with: another puzzle, or something that is none. -/
inductive Rival where
  | other
  | puzzle (origin : Origin)

inductive Step where
  | renew
  | resize (size : Value)
  | apply (action : Action.Request)
  | applyAll (actions : List Action.Request)
  | applyMoves (text : String)
  | isSolved
  | size
  | face (face : Value)
  | cellAt (face : Value) (row col : Int)
  | text
  | record
  | compare (rival : Rival)

inductive Reply where
  | nothing
  | truth (value : Bool)
  | number (value : Nat)
  | cells (colours : List Face)
  | colour (colour : Face)
  | text (text : String)
  | comparison (equal : Bool)

/-- A step that changes the puzzle and answers nothing. -/
def change (noted : Noted Puzzle) : Noted (Reply × Puzzle) :=
  noted.map fun puzzle => (.nothing, puzzle)

/-- A step that answers and leaves the puzzle as it is. -/
def answer (puzzle : Puzzle) (reply : Except Fault Reply) : Noted (Reply × Puzzle) :=
  .quietly ((·, puzzle) <$> reply)

/-- The outcome of a step. -/
def run (puzzle : Puzzle) : Step → Noted (Reply × Puzzle)
  | .renew => change puzzle.renew
  | .resize size => change (resize size)
  | .apply request =>
    match Action.ofRequest request with
    | .ok action => change (puzzle.apply action)
    | .error fault => .quietly (.error fault)
  | .applyAll requests =>
    match requests.mapM Action.ofRequest with
    | .ok actions => change (puzzle.applyAll actions)
    | .error fault => .quietly (.error fault)
  | .applyMoves text =>
    (puzzle.applyMoves text).map fun (failure, puzzle) =>
      (.text (failure.elim "" Failure.summary), puzzle)
  | .isSolved => puzzle.answer (.ok (.truth puzzle.cube.isUniform))
  | .size => puzzle.answer (.ok (.number puzzle.size))
  | .face face =>
    puzzle.answer ((fun face => .cells (puzzle.cube.grid face).toList) <$> Face.ofValue face)
  | .cellAt face row col => puzzle.answer (.colour <$> puzzle.cube.cellAt face row col)
  | .text => puzzle.answer (.ok (.text puzzle.cube.text))
  | .record => puzzle.answer (.ok (.text puzzle.cube.record))
  | .compare .other => puzzle.answer (.ok (.comparison false))
  | .compare (.puzzle origin) =>
    puzzle.answer ((fun other => .comparison (puzzle.sameCube other)) <$> ofOrigin origin)

/-- The puzzle after a step: the next one if the step succeeds, the same one if it fails. -/
def next (puzzle : Puzzle) (step : Step) : Puzzle :=
  match (puzzle.run step).outcome with
  | .ok (_, next) => next
  | .error _ => puzzle

end Puzzle

end Cubing
