import Cubing.Text.Blank

/-!
# Command lines

A line of the shell is a command word with an argument. The word is the longest
beginning of the line that consists of ASCII letters, digits and low lines; the
rest, without the blanks around it, is the argument. A question mark at the
beginning asks for help; an exclamation mark has no meaning.
-/
namespace Cubing.Shell

inductive Command where
  | apply
  | check
  | debugLevel
  | focus
  | help
  | isSolved
  | printCube
  | quit
  | reset
  | resize
  | rotateCube
  | rotateFace
  | rotateSlice
deriving DecidableEq, Repr

namespace Command

/-- The commands, their words ascending. -/
def all : List Command :=
  [.apply, .check, .debugLevel, .focus, .help, .isSolved, .printCube, .quit, .reset, .resize,
   .rotateCube, .rotateFace, .rotateSlice]

def word : Command → String
  | .apply => "apply"
  | .check => "check"
  | .debugLevel => "debug_level"
  | .focus => "focus"
  | .help => "help"
  | .isSolved => "is_solved"
  | .printCube => "print_cube"
  | .quit => "quit"
  | .reset => "reset"
  | .resize => "resize"
  | .rotateCube => "rotate_cube"
  | .rotateFace => "rotate_face"
  | .rotateSlice => "rotate_slice"

def ofWord? (word : String) : Option Command := all.find? fun command => command.word = word

end Command

/-- What a line asks for. -/
inductive Line where
  | empty
  /-- A line that begins with no command, without the blanks around it. -/
  | unknown (text : String)
  | call (command : Command) (argument : String)
deriving DecidableEq, Repr

def isWordChar (c : Char) : Bool := c.isAlphanum || c = '_'

/-- Reads a line that has no blanks around it and no mark before it. -/
def Line.ofChars (chars : List Char) : Line :=
  match Command.ofWord? (String.ofList (chars.takeWhile isWordChar)) with
  | some command =>
    .call command (String.ofList (Text.trimBy Text.isBlank (chars.dropWhile isWordChar)))
  | none => .unknown (String.ofList chars)

def Line.ofText (text : String) : Line :=
  match Text.trimBy Text.isBlank text.toList with
  | [] => .empty
  -- What follows the question mark is the topic, even if it is a command with an argument.
  | '?' :: rest => .ofChars ("help ".toList ++ rest)
  | '!' :: rest => .unknown (String.ofList ('!' :: rest))
  | chars => .ofChars chars

end Cubing.Shell
