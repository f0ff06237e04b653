import Cubing.Moves.Basic
import Cubing.Moves.Failure
import Cubing.Text.Blank

/-!
# Reading moves

Moves are read from left to right, one character at a time. A text is a sequence
of items with spaces between them:

* an item is a move or a group;
* a group is a sequence of items in parentheses, with spaces allowed after the
  opening one and before the closing one, and perhaps a repeat count from 2 to 9;
* a move is a target and perhaps a modifier;
* a target is a letter; the capital letter of a face may have a layer count from
  1 to 9 before it, and the mark `w` or a subscript from 2 to 8 after it.

A reader holds what has been read: the groups that are open, the items of the
innermost one, and the item that may still grow. It follows from this alone what
may come next. A low line is only half a subscript, so a text that goes wrong
after one goes wrong at the low line.

Rules that try one alternative after another come to the same items and the same
failures (`parse_eq_readMoveChars`).
-/
namespace Cubing

/-- The value of a character among the digits from `least` to `greatest`, the digit zero being
the given code point. -/
def digitAmong? (first least greatest : Nat) (c : Char) : Option Nat :=
  let value := c.toNat - first
  if first + least ≤ c.toNat ∧ c.toNat ≤ first + greatest then some value else none

def layerCount? (c : Char) : Option Nat := digitAmong? 48 1 9 c

def repeatCount? (c : Char) : Option Nat := digitAmong? 48 2 9 c

def depthAfterLowLine? (c : Char) : Option Nat := digitAmong? 48 2 8 c

def loweredDepth? (c : Char) : Option Nat := digitAmong? 0x2080 2 8 c

/-- The item that is being read. -/
inductive Pending where
  /-- No item of the innermost sequence has begun. -/
  | first
  /-- A complete item and spaces have been read. -/
  | gap
  /-- A layer count waits for its face. -/
  | layers (position : Nat) (count : Nat)
  /-- A target may grow, or take a modifier. -/
  | target (position : Nat) (target : Target)
  /-- A low line after a target waits for its digit. -/
  | lowLine (position : Nat) (target : Target)
  /-- A closed group may take a repeat count. -/
  | group (position : Nat) (items : List Item)
  | complete

/-- A group that has not been closed, and the items before it, latest first. -/
structure OpenGroup where
  position : Nat
  before : List Item

/-- What has been read. -/
structure Reader where
  /-- The open groups, innermost first. -/
  opened : List OpenGroup
  /-- The complete items of the innermost sequence, latest first. -/
  items : List Item
  pending : Pending

namespace Reader

def start : Reader := ⟨[], [], .first⟩

def complete (reader : Reader) (item : Item) : Reader :=
  { reader with items := item :: reader.items, pending := .complete }

def beginItem (reader : Reader) (position : Nat) (c : Char) : Option Reader :=
  if c = '(' then some ⟨⟨position, reader.items⟩ :: reader.opened, [], .first⟩
  else
    match layerCount? c with
    | some count => some { reader with pending := .layers position count }
    | none =>
      (Target.ofLetter? c).map fun target => { reader with pending := .target position target }

def closeGroup (reader : Reader) : Option Reader :=
  match reader.opened with
  | [] => none
  | group :: opened => some ⟨opened, group.before, .group group.position reader.items.reverse⟩

/-- Reads what follows a complete item. -/
def readBoundary (reader : Reader) (c : Char) : Option Reader :=
  if Text.isBlank c then some { reader with pending := .gap }
  else if c = ')' then reader.closeGroup
  else none

/-- The target that a mark or a subscript digit makes of a target. -/
def grow? (target : Target) (c : Char) : Option Target :=
  if c = 'w' then target.widen? else (loweredDepth? c).bind fun depth => target.deepen? depth

def readAfterTarget (reader : Reader) (position : Nat) (target : Target) (c : Char) :
    Option Reader :=
  match Modifier.ofMark? c, grow? target c with
  | some modifier, _ => some (reader.complete (.move target modifier position))
  | none, some grown => some { reader with pending := .target position grown }
  | none, none =>
    if c = '_' ∧ target.isOpen then some { reader with pending := .lowLine position target }
    else (reader.complete (.move target .none position)).readBoundary c

def readAfterGroup (reader : Reader) (position : Nat) (items : List Item) (c : Char) :
    Option Reader :=
  match repeatCount? c with
  | some times => some (reader.complete (.group items times position))
  | none => (reader.complete (.group items 1 position)).readBoundary c

def read (reader : Reader) (position : Nat) (c : Char) : Option Reader :=
  match reader.pending with
  | .first =>
    -- Spaces may follow an opening parenthesis, but not begin a text.
    if Text.isBlank c ∧ reader.opened.isEmpty = false then some reader
    else reader.beginItem position c
  | .gap =>
    if Text.isBlank c then some reader
    else if c = ')' then reader.closeGroup
    else reader.beginItem position c
  | .layers start count =>
    (Face.ofLetter? c).map fun face =>
      { reader with pending := .target start (.innerSlice count face) }
  | .target start target => reader.readAfterTarget start target c
  | .lowLine start target =>
    (depthAfterLowLine? c).bind fun depth =>
      (target.deepen? depth).map fun deeper => { reader with pending := .target start deeper }
  | .group start items => reader.readAfterGroup start items c
  | .complete => reader.readBoundary c

/-- Reads as far as the text goes on as moves do, and gives what is left. -/
def readAll : Reader → Nat → List Char → Reader × List Char
  | reader, _, [] => (reader, [])
  | reader, position, c :: rest =>
    match reader.read position c with
    | some next => next.readAll (position + 1) rest
    | none => (reader, c :: rest)

/-- The items, if the text may end here. -/
def finish? (reader : Reader) : Option (List Item) :=
  if reader.opened.isEmpty then
    match reader.pending with
    | .gap | .complete => some reader.items.reverse
    | .target position target => some (Item.move target .none position :: reader.items).reverse
    | .group position items => some (Item.group items 1 position :: reader.items).reverse
    | .first | .layers .. | .lowLine .. => none
  else none

def mayBegin (reader : Reader) : Bool :=
  match reader.pending with
  | .first | .gap => true
  | _ => false

/-- May the innermost sequence end? -/
def mayEnd (reader : Reader) : Bool :=
  match reader.pending with
  | .gap | .target .. | .group .. | .complete => true
  | .first | .layers .. | .lowLine .. => false

/-- May something of the given kind come next? -/
def allows (reader : Reader) : Expectation → Bool
  | .groupStart | .wholeLetter | .layerCount | .middleLetter | .smallLetter => reader.mayBegin
  | .faceLetter => reader.mayBegin || (reader.pending matches .layers ..)
  | .groupEnd => reader.mayEnd && !reader.opened.isEmpty
  | .endOfInput => reader.mayEnd && reader.opened.isEmpty
  | .wideMark | .subscript =>
    match reader.pending with
    | .target _ target => target.isOpen
    | _ => false
  | .modifier => (reader.pending matches .target ..)
  | .repeatCount => (reader.pending matches .group ..)
  | .space => reader.mayEnd || ((reader.pending matches .first) && !reader.opened.isEmpty)

/-- What may come next. A space is not named at the end of the text. -/
def expected (reader : Reader) (atEnd : Bool) : List Expectation :=
  Expectation.all.filter fun expectation =>
    reader.allows expectation && !(atEnd && expectation = .space)

/-- Why reading stopped with the given rest of the text. -/
def failure (reader : Reader) (text rest : List Char) : Failure :=
  let position := text.length - rest.length
  match reader.pending with
  | .lowLine start target =>
    -- The low line is given back, and what was possible before it is expected.
    let before := { reader with pending := .target start target }
    ⟨text, position - 1, before.expected false⟩
  | _ => ⟨text, position, reader.expected rest.isEmpty⟩

end Reader

def readMoveChars (chars : List Char) : Except Failure (List Item) :=
  let (reader, rest) := Reader.start.readAll 0 chars
  match rest, reader.finish? with
  | [], some items => .ok items
  | _, _ => .error (reader.failure chars rest)

def readMoves (text : String) : Except Failure (List Item) := readMoveChars text.toList

end Cubing
