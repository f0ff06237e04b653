import Cubing.Fault

/-!
# Traversals

A traversal hands out items one after the other until it is finished or finds
that there is nothing to hand out where something should be. A visitor sees each
item when it is handed out and may stop the traversal; what would have come
later is then never looked at, and neither is a fault that lies there.
-/
namespace Cubing

/-- What a visitor answers. -/
inductive Decision where
  | stop
  | goOn
deriving DecidableEq, Repr

def Decision.name : Decision → String
  | .stop => "StopLooping"
  | .goOn => "KeepLooping"

inductive Traversal (α : Type) where
  | finished
  | failed (fault : Fault)
  | next (item : α) (later : Traversal α)

namespace Traversal

variable {α β σ : Type}

def ofList : List α → Traversal α
  | [] => .finished
  | item :: items => .next item (ofList items)

def map (f : α → β) : Traversal α → Traversal β
  | .finished => .finished
  | .failed fault => .failed fault
  | .next item later => .next (f item) (later.map f)

/-- Lets a visitor with a state of its own see the items. The result is its last state and how the
traversal ended: stopped by the visitor, finished, or failed. -/
def visit (visitor : σ → α → σ × Decision) : Traversal α → σ → σ × Except Fault Decision
  | .finished, state => (state, .ok .goOn)
  | .failed fault, state => (state, .error fault)
  | .next item later, state =>
    match visitor state item with
    | (state, .stop) => (state, .ok .stop)
    | (state, .goOn) => visit visitor later state

/-- A visitor that notes what it sees, latest first, and stops at a given visit, counted from 1. -/
def notingVisitor (stopAt : Option Int) (seen : List α) (item : α) : List α × Decision :=
  let seen := item :: seen
  (seen, if stopAt = some (seen.length : Int) then .stop else .goOn)

/-- What a visitor that stops at a given visit sees, and how the traversal ends. -/
def observe (traversal : Traversal α) (stopAt : Option Int) : List α × Except Fault Decision :=
  let (seen, outcome) := traversal.visit (notingVisitor stopAt) []
  (seen.reverse, outcome)

end Traversal

end Cubing
