/-!
# Failing to read moves

A text that is not in the notation fails at a position: everything before it
could begin a text of moves, and at the position something else is expected. The
position is also given by line and column, both counted from 1, and a message
shows the line with a caret under the column.
-/
namespace Cubing

/-- What may come next in a text of moves, in the order of the descriptions. -/
inductive Expectation where
  | groupStart
  | groupEnd
  | wideMark
  | wholeLetter
  | endOfInput
  | faceLetter
  | layerCount
  | modifier
  | repeatCount
  | middleLetter
  | space
  | subscript
  | smallLetter
deriving DecidableEq, Repr

namespace Expectation

/-- All expectations, their descriptions ascending. -/
def all : List Expectation :=
  [.groupStart, .groupEnd, .wideMark, .wholeLetter, .endOfInput, .faceLetter, .layerCount,
   .modifier, .repeatCount, .middleLetter, .space, .subscript, .smallLetter]

def description : Expectation → String
  | .groupStart => "\"(\""
  | .groupEnd => "\")\""
  | .wideMark => "\"w\""
  | .wholeLetter => "cube rotation letter"
  | .endOfInput => "end of input"
  | .faceLetter => "face letter"
  | .layerCount => "layer count"
  | .modifier => "modifier"
  | .repeatCount => "repeat count"
  | .middleLetter => "slice letter"
  | .space => "space"
  | .subscript => "subscript"
  | .smallLetter => "wide face letter"

end Expectation

/-- Where and why a text is not in the notation. -/
structure Failure where
  text : List Char
  position : Nat
  expected : List Expectation

namespace Failure

def before (failure : Failure) : List Char := failure.text.take failure.position

def line (failure : Failure) : Nat := failure.before.count '\n' + 1

/-- The part of the line before the position. -/
def lead (failure : Failure) : List Char :=
  (failure.before.reverse.takeWhile (· ≠ '\n')).reverse

def column (failure : Failure) : Nat := failure.lead.length + 1

/-- The line that the position is in. -/
def lineText (failure : Failure) : List Char :=
  failure.lead ++ (failure.text.drop failure.position).takeWhile (· ≠ '\n')

/-- One line that tells where and why. -/
def summary (failure : Failure) : String :=
  let expected := ", ".intercalate (failure.expected.map Expectation.description)
  s!"Line {failure.line}, col {failure.column}: expected {expected}"

/-- The short message with the line of the text and a caret. -/
def message (failure : Failure) : String :=
  let line := String.ofList failure.lineText
  let margin := String.ofList (List.replicate (failure.column - 1) ' ')
  s!"{failure.summary}\n> {line}\n  {margin}^"

end Failure

end Cubing
