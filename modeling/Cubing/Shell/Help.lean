import Cubing.Shell.Command

/-!
# Help

What the shell tells about its commands: the list of all of them, in columns of
two, and a text for each.
-/
namespace Cubing.Shell

/-- The text of a command that takes an argument: what it does, and how it is used. -/
def usageText (summary usage : String) : String :=
  s!"\n        {summary}\n\n        Usage:\n            {usage}\n        "

namespace Command

def helpText : Command → String
  | .apply => usageText "Apply moves written in cubing notation." "apply R U R' U'"
  | .check => usageText "Check a notation without applying it." "check R U R' U'"
  | .debugLevel =>
    usageText "Set the level of debug info to provide across all the components."
      "debug_level [debug | info | warning | error ]"
  | .focus =>
    usageText "Bring a face to the front." "focus [Left | Front | Right | Back | Top | Bottom]"
  | .help => "List available commands with \"help\" or detailed help with \"help cmd\"."
  | .isSolved => "Tell whether the cube is solved."
  | .printCube => "Print the current state of the cube."
  | .quit => "syntax: quit"
  | .reset => "Reset the cube to its solved state."
  | .resize => usageText "Replace the cube by a solved cube of another size." "resize N"
  | .rotateCube => usageText "Turn the whole cube around an axis." "rotate_cube [X | Y | Z] [turns]"
  | .rotateFace =>
    usageText "Turn a face clockwise, negative turns go counter clockwise."
      "rotate_face [Left | Front | Right | Back | Top | Bottom] [turns]"
  | .rotateSlice =>
    usageText "Turn internal layers of an axis." "rotate_slice [X | Y | Z] start size [turns]"

end Command

/-- Groups a list into columns of two. -/
def columns : List String → List (String × Option String)
  | [] => []
  | [word] => [(word, none)]
  | first :: second :: rest => (first, some second) :: columns rest

/-- A word filled up with spaces to a width. -/
def padded (width : Nat) (word : String) : String :=
  word ++ String.ofList (List.replicate (width - word.length) ' ')

def columnWidth (column : String × Option String) : Nat :=
  max column.1.length (column.2.elim 0 String.length)

def firstRow (words : List String) : String :=
  "  ".intercalate ((columns words).map fun column => padded (columnWidth column) column.1)

def secondRow (words : List String) : String :=
  "  ".intercalate ((columns words).filterMap fun column =>
    column.2.map fun word => padded (columnWidth column) word)

def overview : String :=
  let heading := "Documented commands (type help <topic>):"
  let rule := String.ofList (List.replicate heading.length '=')
  let words := Command.all.map Command.word
  s!"\n{heading}\n{rule}\n{firstRow words}\n{secondRow words}\n\n"

/-- What `help` prints for a topic, or without one. -/
def help (topic : String) : String :=
  if topic.isEmpty then overview
  else
    match Command.ofWord? topic with
    | some command => command.helpText ++ "\n"
    | none => s!"*** No help on {topic}\n"

end Cubing.Shell
