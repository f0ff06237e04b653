import Cubing.Axis
import Cubing.Cube.Basic
import Cubing.QuarterTurns

/-!
# Loops of cells

Cells move around closed loops of four equally long segments: a clockwise
quarter turn carries the cells of each segment, in order, to the next one. There
are two kinds of loops. The grid of a face is made of concentric rings, whose
sides are the segments; and a layer of an axis cuts one strip out of each of the
four faces around the axis.
-/
namespace Cubing

/-- Four segments of cells. A clockwise quarter turn carries segment `i` to segment `i + 1`. -/
structure Loop (n : Nat) where
  length : Nat
  place : Fin 4 → Fin length → Place n

namespace Loop

variable {n : Nat}

/-- The cells of a loop, by segment and position. -/
def slots (loop : Loop n) : List (Fin 4 × Fin loop.length) :=
  (List.finRange 4).flatMap fun segment =>
    (List.finRange loop.length).map fun position => (segment, position)

/-- The sides of a ring of a face: top, right, bottom, left. Each side stops short of the corner
that begins the next one. -/
def ring (face : Face) (layer : Fin (n / 2)) : Loop n where
  length := n - 1 - 2 * layer
  place side position :=
    have inside := layer.isLt
    have along := position.isLt
    let near : Fin n := ⟨layer, by omega⟩
    let step : Fin n := ⟨layer + position, by omega⟩
    match side with
    | 0 => ⟨face, near, step⟩
    | 1 => ⟨face, step, near.rev⟩
    | 2 => ⟨face, near.rev, step.rev⟩
    | 3 => ⟨face, step.rev, near⟩

/-- The strips that a layer of an axis cuts out of the faces around the axis. -/
def strip (axis : Axis) (layer : Fin n) : Loop n where
  length := n
  place side position :=
    -- A strip or a layer is reversed where the grid of a face counts against the axis.
    match axis, side with
    | .x, 0 => ⟨.right, layer, position⟩
    | .x, 1 => ⟨.front, layer, position⟩
    | .x, 2 => ⟨.left, layer, position⟩
    | .x, 3 => ⟨.back, layer, position⟩
    | .y, 0 => ⟨.front, position, layer⟩
    | .y, 1 => ⟨.top, position, layer⟩
    | .y, 2 => ⟨.back, position.rev, layer.rev⟩
    | .y, 3 => ⟨.bottom, position, layer⟩
    | .z, 0 => ⟨.top, layer, position⟩
    | .z, 1 => ⟨.right, position, layer.rev⟩
    | .z, 2 => ⟨.bottom, layer.rev, position.rev⟩
    | .z, 3 => ⟨.left, position.rev, layer⟩

end Loop

namespace Cube

variable {n : Nat}

/-- Carries the colours of a loop around it, each by the given number of segments. -/
def advance (cube : Cube n) (loop : Loop n) (turns : QuarterTurns) : Cube n :=
  -- Colours are taken from the cube as it was, so the order of the cells is of no account.
  loop.slots.foldl (fun moved slot =>
    moved.set (loop.place (slot.1 + turns) slot.2) (cube.get (loop.place slot.1 slot.2))) cube

/-- Spins the grid of a face ring by ring, without dragging its neighbours. -/
def spin (cube : Cube n) (face : Face) (turns : QuarterTurns) : Cube n :=
  (List.finRange (n / 2)).foldl (fun spun layer => spun.advance (.ring face layer) turns) cube

/-- The layers from `start` on, `count` of them, as far as the cube has them. -/
def layersFrom (n start count : Nat) : List (Fin n) :=
  (List.finRange n).filter fun layer => start ≤ layer.val && layer.val < start + count

/-- Carries the strips of some layers of an axis around the axis. -/
def carry (cube : Cube n) (axis : Axis) (start count : Nat) (turns : QuarterTurns) : Cube n :=
  (layersFrom n start count).foldl
    (fun carried layer => carried.advance (.strip axis layer) turns) cube

end Cube

end Cubing
