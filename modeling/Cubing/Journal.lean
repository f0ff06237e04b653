import Cubing.Action

/-!
# The journal

What happens to a puzzle and in its shell is noted as events. An event belongs
to a source and has a level; a journal shows the events from some level on, one
line each. A turn is noted when its arguments have been checked and no cell has
been moved yet.
-/
namespace Cubing

/-- How much an event matters. -/
inductive Level where
  | debug
  | info
  | warning
  | error
deriving DecidableEq, Repr

namespace Level

def rank : Level → Nat
  | .debug => 10
  | .info => 20
  | .warning => 30
  | .error => 40

def label : Level → String
  | .debug => "DEBUG"
  | .info => "INFO"
  | .warning => "WARNING"
  | .error => "ERROR"

end Level

/-- What the shell finds wrong with the arguments of a command. -/
inductive Complaint where
  | sizeNotInteger (text : String)
  | sizeOutOfRange (least greatest : Nat)
  | faceMissing
  | sliceIncomplete
  | axisMissing
  /-- The command was carried out and failed. -/
  | failed (fault : Fault)

namespace Complaint

def message : Complaint → String
  | .sizeNotInteger text => s!"Size must be an integer, got {Text.quote text}"
  | .sizeOutOfRange least greatest => s!"Size must be in range [{least}, {greatest}]"
  | .faceMissing => "A face is required"
  | .sliceIncomplete => "An axis, a start layer and a size are required"
  | .axisMissing =>
    let names := ", ".intercalate (Axis.all.map fun axis => Text.quote axis.name)
    s!"Axis must be one of [{names}]"
  | .failed fault => s!"{fault.kind.name}: {fault.message}"

end Complaint

inductive Event where
  | faceTurned (face : Face) (turns : QuarterTurns)
  | sliceTurned (axis : Axis) (start count : Int) (turns : QuarterTurns)
  | wholeTurned (axis : Axis) (turns : QuarterTurns)
  | refocused (face : Face)
  | wasReset
  | resized (size : Value)
  | notCompiled (text reason : String)
  | movesIgnored (text reason : String)
  | movesApplied (text : String)
  | complained (complaint : Complaint)

namespace Event

def level : Event → Level
  | .faceTurned .. | .sliceTurned .. | .wholeTurned .. | .refocused .. => .debug
  | .wasReset | .resized .. | .notCompiled .. | .movesApplied .. => .info
  | .movesIgnored .. => .warning
  | .complained .. => .error

/-- Complaints come from the shell, everything else from the cube. -/
def source : Event → String
  | .complained .. => "puzzlecube_cli"
  | _ => "puzzlecube"

def message : Event → String
  | .faceTurned face turns => s!"Rotating {face.name} face by {turns.name}"
  | .sliceTurned axis start count turns =>
    s!"Rotating {count} slice(s) of axis {axis.name} from layer {start} by {turns.name}"
  | .wholeTurned axis turns => s!"Rotating cube around axis {axis.name} by {turns.name}"
  | .refocused face => s!"Refocusing cube on {face.name} face"
  | .wasReset => "Resetting cube"
  | .resized size => s!"Resizing cube to {size.written}"
  | .notCompiled text reason => s!"Cannot compile {Text.quote text}: {reason}"
  | .movesIgnored text reason => s!"Ignoring moves {Text.quote text}: {reason}"
  | .movesApplied text => s!"Applying moves {text}"
  | .complained complaint => complaint.message

def line (event : Event) : String := s!"{event.level.label}:{event.source}:{event.message}"

/-- Does a journal with the given threshold show the event? -/
def shownAt (threshold : Level) (event : Event) : Bool := threshold.rank ≤ event.level.rank

end Event

/-- Something that was done: the events noted on the way, and what came of it. -/
structure Noted (α : Type) where
  events : List Event
  outcome : Except Fault α

namespace Noted

variable {α β : Type}

/-- Done without anything to note. -/
def quietly (outcome : Except Fault α) : Noted α := ⟨[], outcome⟩

def note (event : Event) : Noted Unit := ⟨[event], .ok ()⟩

/-- What has been noted stays noted, even if what comes later fails. -/
def bind (noted : Noted α) (later : α → Noted β) : Noted β :=
  match noted.outcome with
  | .ok value => ⟨noted.events ++ (later value).events, (later value).outcome⟩
  | .error fault => ⟨noted.events, .error fault⟩

instance : Monad Noted where
  pure value := quietly (.ok value)
  bind := bind

def map (f : α → β) (noted : Noted α) : Noted β := ⟨noted.events, f <$> noted.outcome⟩

theorem outcome_bind (noted : Noted α) (later : α → Noted β) :
    (noted >>= later).outcome = noted.outcome >>= fun value => (later value).outcome := by
  obtain ⟨events, _ | _⟩ := noted <;> rfl

end Noted

namespace Cube

variable {n : Nat}

def turnFaceNoted (cube : Cube n) (face : Face) (turns : QuarterTurns) : Noted (Cube n) := do
  .note (.faceTurned face turns)
  return cube.turnFace face turns

/-- A slice that does not fit is not noted. -/
def turnSliceNoted (cube : Cube n) (axis : Axis) (start count : Int) (turns : QuarterTurns) :
    Noted (Cube n) := do
  .quietly (checkSlice n start count)
  .note (.sliceTurned axis start count turns)
  return cube.turnLayers axis start.toNat count.toNat turns

def turnWholeNoted (cube : Cube n) (axis : Axis) (turns : QuarterTurns) : Noted (Cube n) := do
  .note (.wholeTurned axis turns)
  return cube.turnWhole axis turns

/-- The turn that brings the face to the front is noted after what it is made for. -/
def refocusNoted (cube : Cube n) (face : Face) : Noted (Cube n) := do
  .note (.refocused face)
  match face.focusTurn with
  | some (axis, turns) => cube.turnWholeNoted axis (.ofInt turns)
  | none => return cube

/-- Applies an action and notes it. -/
def applyNoted (cube : Cube n) : Action → Noted (Cube n)
  | .turnFace face turns => cube.turnFaceNoted face turns
  | .turnSlice axis offset count turns =>
    cube.turnSliceNoted axis (Action.firstLayer n offset) count turns
  | .turnWhole axis turns => cube.turnWholeNoted axis turns
  | .focus face _ => cube.refocusNoted face

/-- Applies actions in order and notes them, up to the first that fails. -/
def applyAllNoted (cube : Cube n) : List Action → Noted (Cube n)
  | [] => return cube
  | action :: actions => do
    let turned ← cube.applyNoted action
    turned.applyAllNoted actions

end Cube

end Cubing
