import Cubing.Decimal.Shortest
import Cubing.Text.Integer
import Cubing.Text.Quoted

/-!
# Loose values

Cells, sizes, names of faces and numbers of turns may be given as values of any
kind. This module holds those values and the text by which a message quotes
them; what is accepted where is decided by the readers of each kind of thing.
-/
namespace Cubing

inductive Value where
  | none
  | bool (value : Bool)
  | int (value : Int)
  | real (value : Decimal.Binary)
  | text (value : String)
  | list (items : List Value)

namespace Value

mutual

/-- The text by which a message quotes a value. -/
def quoted : Value → String
  | .none => "None"
  | .bool value => if value then "True" else "False"
  | .int value => toString value
  | .real value => value.text
  | .text value => Text.quote value
  | .list items => "[" ++ ", ".intercalate (quotedAll items) ++ "]"

def quotedAll : List Value → List String
  | [] => []
  | item :: items => quoted item :: quotedAll items

end

/-- The text of a value outside a message that quotes it. -/
def written : Value → String
  | .text value => value
  | value => value.quoted

mutual

/-- Can a value be quoted? The integers in it may have too many digits. -/
def isQuotable : Value → Bool
  | .int value => Text.isWritable value
  | .list items => areQuotable items
  | _ => true

def areQuotable : List Value → Bool
  | [] => true
  | item :: items => isQuotable item && areQuotable items

end

/-- The integer that a value equals, if it equals one. Truth values count as 1 and 0. -/
def equalInt? : Value → Option Int
  | .int value => some value
  | .bool value => some (if value then 1 else 0)
  | .real value => value.toInt?
  | _ => Option.none

end Value

end Cubing
