import Mathlib.Data.List.Defs
import Cubing.Moves.Reader
import Cubing.Proofs.Moves.Grammar

/-!
# Rules that try alternatives

Moves can also be read by rules, one for each symbol of the grammar. A rule begins at a position of
the text, and gives what it has made and the position after it, or nothing. Where a rule has
alternatives they are tried in order, each from the same position, so that the text is gone through
many times. Whatever is looked for in vain is noted as missed, but only what has been missed
furthest on is kept: this is where the text fails, and what is expected there.

`parse` reads a whole text in this way. It comes to the same as reading the text once from left to
right (`parse_eq_readMoveChars`).
-/
namespace Cubing

/-- The furthest position at which something has been missed, and what would have been right. -/
structure Misses where
  furthest : Nat
  expected : List Expectation

namespace Misses

def none : Misses := ⟨0, []⟩

/-- Something has been missed. It counts only if nothing has been missed further on, and what has
been missed before that no longer counts. -/
def expect (misses : Misses) (position : Nat) (kind : Expectation) : Misses :=
  let misses := if position > misses.furthest then ⟨position, []⟩ else misses
  if position = misses.furthest then { misses with expected := misses.expected.insert kind }
  else misses

end Misses

/-- A rule may fail, and what has been missed stays missed when it does. -/
abbrev Rule := OptionT (StateM Misses)

/-- The words that may stand at a position, each with what it stands for. -/
abbrev Table (α : Type) := List (List Char × α)

namespace Table

variable {α : Type}

/-- The table of some values by the words that write them. -/
def ofWords (word : α → List Char) (values : List α) : Table α :=
  values.map fun value => (word value, value)

def faces : Table Face := ofWords (fun face => [face.letter]) Face.all

def smallFaces : Table Face := ofWords (fun face => [face.smallLetter]) Face.all

def middles : Table Axis := ofWords (fun axis => [axis.middleLetter]) Axis.all

def wholes : Table (Axis × Bool) :=
  ofWords (fun whole => [whole.1.wholeLetter whole.2]) (Axis.all ×ˢ [true, false])

/-- That there is no modifier is written by no letter at all. -/
def modifiers : Table Modifier :=
  ofWords (fun modifier => modifier.mark?.toList) [.none, .prime, .double]

def subscripts : Table Nat :=
  ofWords (fun depth => ['_', digitChar depth]) (List.range' 2 7) ++
    ofWords (fun depth => [loweredChar depth]) (List.range' 2 7)

def layerCounts : Table Nat := ofWords (fun count => [digitChar count]) (List.range' 1 9)

def repeatCounts : Table Nat := ofWords (fun count => [digitChar count]) (List.range' 2 8)

/-- The first of the longest words that begin the text, with its value. -/
def find? (table : Table α) (rest : List Char) : Option (List Char × α) :=
  (table.mergeSort fun one other => other.1.length ≤ one.1.length).find? fun entry =>
    !entry.1.isEmpty && entry.1.isPrefixOf rest

end Table

namespace Rules

variable (text : List Char)

/-- Something has been looked for in vain. -/
def expect (position : Nat) (kind : Expectation) : Rule Unit :=
  modify fun misses => misses.expect position kind

def take {α : Type} (table : Table α) (kind : Expectation) (position : Nat) : Rule (α × Nat) :=
  match table.find? (text.drop position) with
  | some (word, value) => return (value, position + word.length)
  | none => do
    expect position kind
    failure

def literal (c : Char) (kind : Expectation) (position : Nat) : Rule Nat :=
  if [c].isPrefixOf (text.drop position) then return position + 1
  else do
    expect position kind
    failure

def skipSpaces (position : Nat) : Rule Nat := do
  let position := position + ((text.drop position).takeWhile Text.isBlank).length
  if position < text.length then expect position .space
  return position

/-- The target that a word of the table makes. -/
def lookUp {α : Type} (table : Table α) (kind : Expectation) (target : α → Target)
    (position : Nat) : Rule (Target × Nat) := do
  let (value, position) ← take text table kind position
  return (target value, position)

def widen (target : Target) (position : Nat) : Rule (Target × Nat) := do
  let position ← literal text 'w' .wideMark position
  return (target, position)

def countedFace (position : Nat) : Rule (Target × Nat) := do
  let (digit, position) ← take text .layerCounts .layerCount position
  let (face, position) ← take text .faces .faceLetter position
  widen text (.deepWide digit face) position <|>
    lookUp text .subscripts .subscript (.innerBlock digit face) position <|>
    return (.innerSlice digit face, position)

/-- A face with a mark after it. Without a mark it is left to a later rule. -/
def markedFace (position : Nat) : Rule (Target × Nat) := do
  let (face, position) ← take text .faces .faceLetter position
  lookUp text .subscripts .subscript (.subscript face) position <|>
    widen text (.wide face) position

def multiLayer (position : Nat) : Rule (Target × Nat) :=
  countedFace text position <|> markedFace text position <|>
    lookUp text .smallFaces .smallLetter .wideLetter position

def target (position : Nat) : Rule (Target × Nat) :=
  multiLayer text position <|> lookUp text .faces .faceLetter .single position <|>
    lookUp text .middles .middleLetter .middle position <|>
    lookUp text .wholes .wholeLetter (fun whole => .whole whole.1 whole.2) position

def move (start : Nat) : Rule (Item × Nat) := do
  let (target, position) ← target text start
  let (modifier, position) ←
    take text .modifiers .modifier position <|> return (.none, position)
  return (.move target modifier start, position)

section Groups

variable (inner : Nat → Rule (List Item × Nat))

/-- A group, given the rule for the expression in it. -/
def group (start : Nat) : Rule (Item × Nat) := do
  let position ← literal text '(' .groupStart start
  let (items, position) ← inner (← skipSpaces text position)
  let position ← literal text ')' .groupEnd position
  let (times, position) ←
    take text .repeatCounts .repeatCount position <|> return (1, position)
  return (.group items times start, position)

def item (position : Nat) : Rule (Item × Nat) := group text inner position <|> move text position

/-- As many more items as there are, each after spaces. They are at most as many as the bound. -/
def more : Nat → Nat → Rule (List Item × Nat)
  | 0, position => return ([], position)
  | bound + 1, position => do
    let afterSpaces ← skipSpaces text position
    if afterSpaces = position then return ([], position)
    else
      match ← optional (item text inner afterSpaces) with
      | none => return ([], position)
      | some (next, position) =>
        let (items, position) ← more bound position
        return (next :: items, position)

end Groups

/-- Items with spaces between and after them. Groups are open in each other at most as often as the
bound. -/
def expression : Nat → Nat → Rule (List Item × Nat)
  | 0, _ => failure
  | bound + 1, position => do
    let (first, position) ← item text (expression bound) position
    let (items, position) ← more text (expression bound) text.length position
    return (first :: items, ← skipSpaces text position)

/-- The text as a whole. No text has more groups or items than it has characters. -/
def whole : Rule (List Item) := do
  let (items, position) ← expression text (text.length + 1) 0
  if position = text.length then return items
  else
    expect position .endOfInput
    failure

end Rules

/-- Reads a text of moves by the rules. -/
def parse (text : List Char) : Except Failure (List Item) :=
  match (Rules.whole text).run .none with
  | (some items, _) => .ok items
  | (none, misses) =>
    .error ⟨text, misses.furthest, Expectation.all.filter fun kind => kind ∈ misses.expected⟩

end Cubing
