import Cubing.Axis
import Cubing.Text.Integer
import Cubing.Value

/-!
# Faults

Everything that can be wrong with a cube, an argument or a text, one
constructor for each cause. The kind and the wording of a fault are functions
of its cause. A message may quote a value, and where the value holds an integer
with too many digits to be written, this is the fault that is met instead.
-/
namespace Cubing

inductive Fault where
  /-- A net without a face has no size. -/
  | noFaces
  /-- The first grid of a net does not hold a square of at least 2 by 2 cells. -/
  | notSquare (cells : Nat)
  | faceCount (found : Nat)
  | sizeDiffers (expected : Int) (found : Nat)
  | cellCount (face : Face) (expected found : Nat)
  | cellNotInteger (face : Face) (value : Value)
  | cellOutOfRange (face : Face) (value : Int)
  /-- A colour does not appear as often as a face has cells. -/
  | colourCount (colour : Face) (expected found : Nat)
  | badSize (value : Value)
  | unknownFace (value : Value)
  | rowOutOfRange (size : Nat) (row : Int)
  | columnOutOfRange (size : Nat) (column : Int)
  /-- The first layer of a slice is not an inner layer. -/
  | sliceStart (size : Nat)
  /-- A slice holds no layer, or reaches an outer layer. -/
  | sliceCount (size : Nat) (start : Int)
  /-- The layers of the axis do not move on the screen when the face is looked at. -/
  | axisHidden (axis : Axis) (face : Face)
  /-- The layers of the axis move the other way on the screen when the face is looked at. -/
  | directionCrosses (direction : Direction) (axis : Axis) (face : Face)
  | unknownAxis (value : Value)
  | unknownDirection (value : Value)
  /-- Turning the whole cube is named either by a face or by an axis. -/
  | oneOfFaceAndAxis
  | notInteger (text : String)
  | integerTooLong (digits : Nat)
  /-- An integer that a message should quote has too many digits to be written. -/
  | integerUnwritable
  | integerOfNaN
  | integerOfInfinity
  /-- Actions were asked of a text that is not in the notation, for the given reason. -/
  | notMatched (reason : String)
  /-- A grid or a net ends before a traversal does. -/
  | endsEarly

/-- The kinds of faults, by what a caller may want to tell apart. -/
inductive FaultKind where
  | invalidCubeState
  | indexOutOfRange
  | invalidSliceRange
  | invalidSliceSize
  | invalidSliceDirection
  | notationError
  | valueError
  | overflowError
  | indexError
deriving DecidableEq, Repr

namespace FaultKind

def name : FaultKind → String
  | .invalidCubeState => "InvalidCubeState"
  | .indexOutOfRange => "IndexOutOfRange"
  | .invalidSliceRange => "InvalidSliceRange"
  | .invalidSliceSize => "InvalidSliceSize"
  | .invalidSliceDirection => "InvalidSliceDirection"
  | .notationError => "NotationError"
  | .valueError => "ValueError"
  | .overflowError => "OverflowError"
  | .indexError => "IndexError"

end FaultKind

namespace Fault

def kind : Fault → FaultKind
  | .noFaces | .notSquare .. | .faceCount .. | .sizeDiffers .. | .cellCount ..
  | .cellNotInteger .. | .cellOutOfRange .. | .colourCount .. | .badSize .. => .invalidCubeState
  | .unknownFace .. | .rowOutOfRange .. | .columnOutOfRange .. => .indexOutOfRange
  | .sliceStart .. => .invalidSliceRange
  | .sliceCount .. => .invalidSliceSize
  | .axisHidden .. | .directionCrosses .. => .invalidSliceDirection
  | .notMatched .. => .notationError
  | .unknownAxis .. | .unknownDirection .. | .oneOfFaceAndAxis | .notInteger ..
  | .integerTooLong .. | .integerUnwritable | .integerOfNaN => .valueError
  | .integerOfInfinity => .overflowError
  | .endsEarly => .indexError

/-- A message quotes at most this much of a text that should have been an integer. -/
def quotedLimit : Nat := 200

def message : Fault → String
  | .noFaces => "Cube has no faces"
  | .notSquare cells => s!"Face must hold a square grid of at least 4 cells, found {cells}"
  | .faceCount found => s!"Cube must have exactly 6 faces, found {found}"
  | .sizeDiffers expected found => s!"Cube size must be {expected}, found {found}"
  | .cellCount face expected found =>
    s!"{face.name} face must have {expected} cells, found {found}"
  | .cellNotInteger face value => s!"{face.name} face holds a non integer value {value.quoted}"
  | .cellOutOfRange face value => s!"{face.name} face value {value} must be in range [1, 6]"
  | .colourCount colour expected found =>
    s!"Value {colour.number} must appear {expected} times, found {found}"
  | .badSize value => s!"Cube size must be an integer of at least 2, got {value.quoted}"
  | .unknownFace value =>
    s!"Face must be in range [1, 6] or a face name, got {value.quoted}"
  | .rowOutOfRange size row => s!"Row must be in range [0, {(size : Int) - 1}], got {row}"
  | .columnOutOfRange size column =>
    s!"Column must be in range [0, {(size : Int) - 1}], got {column}"
  | .sliceStart size => s!"Offset must be in range [1, {(size : Int) - 2}]"
  | .sliceCount size start =>
    s!"Number of slices must be in range [1, {(size : Int) - 1 - start}]"
  | .axisHidden axis face => s!"Axis {axis.name} cannot be turned from the {face.name} face"
  | .directionCrosses direction axis face =>
    s!"Direction {direction.name} cannot turn axis {axis.name} from the {face.name} face"
  | .unknownAxis value => s!"{value.quoted} is not a valid Axis"
  | .unknownDirection value => s!"{value.quoted} is not a valid SliceDirection"
  | .oneOfFaceAndAxis => "RotateCube needs exactly one of focus_face or axis"
  | .notInteger text =>
    let quoted := String.ofList ((Text.quoteChars text.toList).take quotedLimit)
    s!"invalid literal for int() with base 10: {quoted}"
  | .integerTooLong digits =>
    s!"Exceeds the limit ({Text.maxIntegerDigits} digits) for integer string conversion: " ++
      s!"value has {digits} digits; use sys.set_int_max_str_digits() to increase the limit"
  | .integerUnwritable =>
    s!"Exceeds the limit ({Text.maxIntegerDigits} digits) for integer string conversion; " ++
      "use sys.set_int_max_str_digits() to increase the limit"
  | .integerOfNaN => "cannot convert float NaN to integer"
  | .integerOfInfinity => "cannot convert float infinity to integer"
  | .notMatched reason => s!"Cannot execute a failed match: {reason}"
  | .endsEarly => "list index out of range"

/-- The value that the message of a fault quotes. The other numbers in messages count grids, cells
and layers, and are never long. -/
def quoted? : Fault → Option Value
  | .sizeDiffers expected _ => some (.int expected)
  | .cellOutOfRange _ number | .rowOutOfRange _ number | .columnOutOfRange _ number =>
    some (.int number)
  | .cellNotInteger _ value | .badSize value | .unknownFace value | .unknownAxis value
  | .unknownDirection value => some value
  | _ => none

/-- The fault that is met when a fault is to be reported: itself, if its message can be written. -/
def reported (fault : Fault) : Fault :=
  if fault.quoted?.all Value.isQuotable then fault else .integerUnwritable

theorem reported_eq_or (fault : Fault) :
    fault.reported = fault ∨ fault.reported = .integerUnwritable ∧
      ∃ value ∈ fault.quoted?, value.isQuotable = false := by
  rw [reported]
  cases quoted : fault.quoted? with
  | none => exact .inl rfl
  | some value =>
    cases quotable : value.isQuotable with
    | true => exact .inl (if_pos quotable)
    | false => exact .inr ⟨if_neg (by simp [quotable]), value, rfl, quotable⟩

end Fault

end Cubing
