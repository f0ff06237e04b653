import Cubing.Moves.Basic
import Cubing.Text.Blank

/-!
# The grammar of moves

The texts of moves as a grammar, with no regard to how they are read:

* an expression is an item, further items each after some blanks, and perhaps
  blanks at the end;
* an item is a move, or an expression in parentheses, with perhaps blanks after
  the opening one and perhaps a repeat count from 2 to 9 after the closing one;
* a move is a target, and perhaps a prime or a 2.

`Derives` derives a text together with its items, each with the position where
it begins. A layout chooses the blanks and the spelling of the subscripts, and
with a layout any items can be written (`Item.renderAll`).
-/
namespace Cubing

def digitChar (value : Nat) : Char := Char.ofNat (48 + value)

def loweredChar (value : Nat) : Char := Char.ofNat (0x2080 + value)

namespace Grammar

/-- Any number of blanks. -/
def Blanks (word : List Char) : Prop := ∀ c ∈ word, Text.isBlank c = true

theorem blanks_nil : Blanks [] := fun _ member => (List.not_mem_nil member).elim

theorem blanks_append_iff {first second : List Char} :
    Blanks (first ++ second) ↔ Blanks first ∧ Blanks second := List.forall_mem_append

theorem blanks_singleton_iff {c : Char} : Blanks [c] ↔ Text.isBlank c = true :=
  List.forall_mem_singleton

/-- A subscript is a low line and a digit, or a subscript digit. -/
inductive Subscript : Nat → List Char → Prop where
  | lowLine (depth : Nat) (least : 2 ≤ depth) (greatest : depth ≤ 8) :
    Subscript depth ['_', digitChar depth]
  | lowered (depth : Nat) (least : 2 ≤ depth) (greatest : depth ≤ 8) :
    Subscript depth [loweredChar depth]

inductive Spells : Target → List Char → Prop where
  | single (face : Face) : Spells (.single face) [face.letter]
  | middle (axis : Axis) : Spells (.middle axis) [axis.middleLetter]
  | whole (axis : Axis) (capital : Bool) : Spells (.whole axis capital) [axis.wholeLetter capital]
  | wideLetter (face : Face) : Spells (.wideLetter face) [face.smallLetter]
  | wide (face : Face) : Spells (.wide face) [face.letter, 'w']
  | deepWide (digit : Nat) (face : Face) (least : 1 ≤ digit) (greatest : digit ≤ 9) :
    Spells (.deepWide digit face) [digitChar digit, face.letter, 'w']
  | subscript (face : Face) {depth : Nat} {word : List Char} (written : Subscript depth word) :
    Spells (.subscript face depth) (face.letter :: word)
  | innerSlice (digit : Nat) (face : Face) (least : 1 ≤ digit) (greatest : digit ≤ 9) :
    Spells (.innerSlice digit face) [digitChar digit, face.letter]
  | innerBlock (digit : Nat) (face : Face) {depth : Nat} {word : List Char}
    (least : 1 ≤ digit) (greatest : digit ≤ 9) (written : Subscript depth word) :
    Spells (.innerBlock digit face depth) (digitChar digit :: face.letter :: word)

/-- A group without a count stands for its items once. -/
inductive Repeats : Nat → List Char → Prop where
  | once : Repeats 1 []
  | times (count : Nat) (least : 2 ≤ count) (greatest : count ≤ 9) :
    Repeats count [digitChar count]

inductive Symbol where
  | item
  | expression
  /-- What follows the first item of an expression. -/
  | more

/-- A symbol derives a word that begins at a position, and the items it spells. -/
inductive Derives : Symbol → Nat → List Char → List Item → Prop where
  | move {position : Nat} {target : Target} {word : List Char} (modifier : Modifier)
    (spelled : Spells target word) :
    Derives .item position (word ++ modifier.mark?.toList) [.move target modifier position]
  | group {position times : Nat} {blanks body count : List Char} {items : List Item}
    (lead : Blanks blanks)
    (inner : Derives .expression (position + 1 + blanks.length) body items)
    (repeats : Repeats times count) :
    Derives .item position ('(' :: blanks ++ body ++ ')' :: count) [.group items times position]
  | expression {position : Nat} {word tail : List Char} {item : Item} {items : List Item}
    (first : Derives .item position word [item])
    (later : Derives .more (position + word.length) tail items) :
    Derives .expression position (word ++ tail) (item :: items)
  | last {position : Nat} {blanks : List Char} (trail : Blanks blanks) :
    Derives .more position blanks []
  | next {position : Nat} {blanks word tail : List Char} {item : Item} {items : List Item}
    (gap : Blanks blanks) (apart : blanks ≠ [])
    (first : Derives .item (position + blanks.length) word [item])
    (later : Derives .more (position + blanks.length + word.length) tail items) :
    Derives .more position (blanks ++ word ++ tail) (item :: items)

end Grammar

/-- A choice of blanks and of spellings, for each position of a text. -/
structure Layout where
  /-- The blanks after an opening parenthesis. -/
  lead : Nat → List Char
  /-- The blanks between two items. -/
  gap : Nat → List Char
  /-- The blanks at the end of an expression. -/
  trail : Nat → List Char
  /-- Is a subscript written as a subscript digit? -/
  lowered : Nat → Bool
  lead_blanks : ∀ position, Grammar.Blanks (lead position)
  gap_blanks : ∀ position, Grammar.Blanks (gap position)
  trail_blanks : ∀ position, Grammar.Blanks (trail position)
  gap_ne_nil : ∀ position, gap position ≠ []

namespace Target

/-- Are the numbers of a target those that can be written? -/
def WellFormed : Target → Prop
  | .deepWide digit _ | .innerSlice digit _ => 1 ≤ digit ∧ digit ≤ 9
  | .subscript _ depth => 2 ≤ depth ∧ depth ≤ 8
  | .innerBlock digit _ depth => 1 ≤ digit ∧ digit ≤ 9 ∧ 2 ≤ depth ∧ depth ≤ 8
  | _ => True

def renderDepth (lowered : Bool) (depth : Nat) : List Char :=
  if lowered then [loweredChar depth] else ['_', digitChar depth]

def render (lowered : Bool) : Target → List Char
  | .single face => [face.letter]
  | .middle axis => [axis.middleLetter]
  | .whole axis capital => [axis.wholeLetter capital]
  | .wideLetter face => [face.smallLetter]
  | .wide face => [face.letter, 'w']
  | .deepWide digit face => [digitChar digit, face.letter, 'w']
  | .subscript face depth => face.letter :: renderDepth lowered depth
  | .innerSlice digit face => [digitChar digit, face.letter]
  | .innerBlock digit face depth =>
    digitChar digit :: face.letter :: renderDepth lowered depth

end Target

namespace Item

mutual

/-- Can an item be written? -/
def WellFormed : Item → Prop
  | .move target _ _ => target.WellFormed
  | .group items times _ => items ≠ [] ∧ 1 ≤ times ∧ times ≤ 9 ∧ AllWellFormed items

def AllWellFormed : List Item → Prop
  | [] => True
  | item :: items => item.WellFormed ∧ AllWellFormed items

end

mutual

/-- An item without its place in the text. -/
def unplaced : Item → Item
  | .move target modifier _ => .move target modifier 0
  | .group items times _ => .group (unplacedAll items) times 0

def unplacedAll : List Item → List Item
  | [] => []
  | item :: items => item.unplaced :: unplacedAll items

end

/-- A repeat count is left out for items that are not repeated. -/
def renderTimes (times : Nat) : List Char := if times = 1 then [] else [digitChar times]

mutual

/-- Writes an item at a position. The places of the items are not looked at. -/
def render (layout : Layout) (position : Nat) : Item → List Char
  | .move target modifier _ =>
    target.render (layout.lowered position) ++ modifier.mark?.toList
  | .group items times _ =>
    let blanks := layout.lead position
    let body := renderAll layout (position + 1 + blanks.length) items
    '(' :: blanks ++ body ++ ')' :: renderTimes times

def renderAll (layout : Layout) (position : Nat) : List Item → List Char
  | [] => []
  | item :: items =>
    let word := item.render layout position
    word ++ renderMore layout (position + word.length) items

/-- Writes what follows the first item of an expression. -/
def renderMore (layout : Layout) (position : Nat) : List Item → List Char
  | [] => layout.trail position
  | item :: items =>
    let blanks := layout.gap position
    let word := item.render layout (position + blanks.length)
    blanks ++ word ++ renderMore layout (position + blanks.length + word.length) items

end

end Item

end Cubing
