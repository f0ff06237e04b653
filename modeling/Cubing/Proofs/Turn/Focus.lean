import Cubing.Proofs.Turn.InPlace
import Cubing.Proofs.Turn.Operations

/-!
# Bringing a face to the front

A face that is brought to the front arrives there upright: its cells keep their
rows and columns (`Place.focus_on`). The face that has gone to its place can be
brought to the front in turn, or whichever face undoes it (`Face.returning`), and
then every cell is back where it was.
-/
namespace Cubing

variable {n : Nat}

namespace Face

/-- The face that is brought to the front to undo that a face was brought there. -/
def returning : Face → Face
  | .left => .right
  | .right => .left
  | .top => .bottom
  | .bottom => .top
  | .front => .front
  | .back => .back

theorem focus_returning (face : Face) : face.returning.focus * face.focus = 1 := by
  apply Equiv.ext
  intro side
  cases face <;> cases side <;> decide

end Face

namespace Place

/-- The cells of a face that is brought to the front keep their rows and columns. -/
theorem focus_on (face : Face) (row col : Fin n) :
    focus face ⟨face, row, col⟩ = ⟨.front, row, col⟩ := by
  cases face <;> simp [focus, Face.focusTurn, quarter, carried, Face.carried, pow_two]

/-- The cells come back with the sides. -/
theorem focus_returning (face : Face) :
    (focus face.returning * focus face : Equiv.Perm (Place n)) = 1 := by
  have goes := (goesWith_focus (n := n) face.returning).mul (goesWith_focus face)
  rw [face.focus_returning] at goes
  exact goes.unique goesWith_one

end Place

namespace Cube

/-- Grids are equal if they show the same colours in the same rows and columns. -/
theorem grid_eq_of_get {first second : Cube n} {face face' : Face}
    (same : ∀ row col, first.get ⟨face, row, col⟩ = second.get ⟨face', row, col⟩) :
    first.grid face = second.grid face' := by
  apply Vector.ext
  intro position inside
  let place := Place.ofOffset face ⟨position, inside⟩
  have offset : place.offset = position := Place.offset_ofOffset face ⟨position, inside⟩
  have colours := same place.row place.col
  simp only [get, Place.offset] at colours
  simp only [Place.offset] at offset
  simpa only [offset] using colours

theorem grid_moved_focus (cube : Cube n) (face : Face) :
    (cube.moved (Place.focus face)).grid .front = cube.grid face := by
  apply grid_eq_of_get
  intro row col
  rw [← Place.focus_on face row col, get_moved]

end Cube

/-- Bringing a face to the front shows there the grid of the face, with all cells in the same order,
and is undone by bringing the returning face to the front. -/
theorem refocusing_is_upright_and_reversible {net : Net} {cube : Cube n}
    (valid : net.read none = .ok ⟨n, cube⟩) {faceValue returningValue : Value} {face : Face}
    (faceNamed : Face.ofValue faceValue = .ok face)
    (returningNamed : Face.ofValue returningValue = .ok face.returning) :
    ∃ result, net.refocus faceValue = .ok result ∧
      (∃ grid : List Value, net[face.index]? = some grid ∧ grid.length = n * n ∧
        result[Face.front.index]? = some grid) ∧
      result.refocus returningValue = .ok net := by
  have focused := Net.makes_refocus (n := n) faceNamed net cube valid
  have returned := Net.makes_refocus returningNamed _ _ (Net.read_moved valid (Place.focus face))
  rw [Cube.moved_moved, Place.focus_returning, Cube.moved_one] at returned
  obtain ⟨rfl, -⟩ := Net.read_eq_ok_iff.mp valid
  refine ⟨_, focused, ⟨_, cube.getElem?_toNet face, ?_, ?_⟩, returned⟩
  · simp
  · rw [Cube.getElem?_toNet, Cube.grid_moved_focus]

theorem refocusing_is_upright_and_reversible_on_left :
    let cube := (Cube.solved 4).turnFace .front .clockwise
    let net := cube.toNet
    net.read none = .ok ⟨4, cube⟩ ∧
      ∃ result, net.refocus (.text "left") = .ok result ∧
        (∃ grid : List Value, net[0]? = some grid ∧ grid.length = 4 * 4 ∧
          result[1]? = some grid) ∧
        result.refocus (.text "right") = .ok net := by
  intro cube net
  have valid : net.read none = .ok ⟨4, cube⟩ := by rfl
  have faceNamed : Face.ofValue (.text "left") = .ok .left := rfl
  have returningNamed : Face.ofValue (.text "right") = .ok .right := rfl
  exact ⟨valid, refocusing_is_upright_and_reversible valid faceNamed returningNamed⟩

end Cubing
