import Cubing.Action
import Cubing.Moves.Reader

/-!
# The actions of moves

What moves do. Layers behind a face turn like the face does; a move of a face
together with layers behind it is two actions, and a group is the actions of its
items as often as it is repeated.
-/
namespace Cubing

/-- Turns layers behind a face like the face itself. The first layer behind the face has number 1;
layers behind a far face are counted from the far end. -/
def Action.behind (face : Face) (start depth : Int) (turns : Int) : Action :=
  -- The last of the layers is the one farthest from the face, so it comes first on a far face.
  let offset := if face.isFar then -(start + depth) else start
  .turnSlice face.axis offset depth (.ofInt (face.sign * turns))

def Target.actions (target : Target) (turns : QuarterTurns) : List Action :=
  match target with
  | .single face => [.turnFace face turns]
  | .middle axis => [.turnSlice axis 1 1 (turns.signed axis.middleSign)]
  | .whole axis _ => [.turnWhole axis turns]
  | .wideLetter face | .wide face => [.turnFace face turns, .behind face 1 1 turns.toInt]
  | .deepWide digit face => [.turnFace face turns, .behind face 1 digit turns.toInt]
  | .subscript face depth => [.turnFace face turns, .behind face 1 depth turns.toInt]
  | .innerSlice digit face => [.behind face 1 digit turns.toInt]
  | .innerBlock digit face depth => [.behind face digit depth turns.toInt]

mutual

def Item.actions : Item → List Action
  | .move target modifier _ => target.actions modifier.turns
  | .group items times _ => (List.replicate times (Item.actionsOfAll items)).flatten

def Item.actionsOfAll : List Item → List Action
  | [] => []
  | item :: items => item.actions ++ Item.actionsOfAll items

end

/-- The actions of a text of moves, in the order in which they are applied. -/
def compileMoves (text : String) : Except Failure (List Action) :=
  Item.actionsOfAll <$> readMoves text

/-- The actions of a text of moves; a text that cannot be read is a fault. -/
def performMoves (text : String) : Except Fault (List Action) :=
  match compileMoves text with
  | .ok actions => .ok actions
  | .error failure => .error (.notMatched failure.summary)

end Cubing
