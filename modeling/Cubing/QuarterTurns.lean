/-!
# Quarter turns

Four quarter turns bring everything back, so an amount of turning is a number
modulo four. Negative amounts turn the other way round.
-/
namespace Cubing

/-- A number of quarter turns, clockwise, modulo four. -/
abbrev QuarterTurns := Fin 4

namespace QuarterTurns

/-- Any number of quarter turns, of either sign, modulo four. -/
def ofInt (turns : Int) : QuarterTurns := ⟨(turns % 4).toNat, by omega⟩

def still : QuarterTurns := ofInt 0

def clockwise : QuarterTurns := ofInt 1

/-- A half turn, the same in both senses. -/
def halfway : QuarterTurns := ofInt 2

def counterClockwise : QuarterTurns := ofInt 3

def toInt (turns : QuarterTurns) : Int := (turns.val : Int)

def name (turns : QuarterTurns) : String :=
  match turns with
  | 0 => "NoRotation"
  | 1 => "Clockwise"
  | 2 => "Halfway"
  | 3 => "CounterClockwise"

/-- The same amount, in the given sense of rotation. -/
def signed (sign : Int) (turns : QuarterTurns) : QuarterTurns := ofInt (sign * toInt turns)

theorem val_ofInt (turns : Int) : ((ofInt turns).val : Int) = turns % 4 := by
  simp only [ofInt]
  omega

theorem ofInt_toInt (turns : QuarterTurns) : ofInt (toInt turns) = turns := by
  apply Fin.ext
  have := val_ofInt (toInt turns)
  simp only [toInt] at *
  omega

end QuarterTurns

end Cubing
