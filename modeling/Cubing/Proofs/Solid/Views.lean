import Cubing.Proofs.Solid.Orientation

/-!
# Points of view

However the whole cube is turned, and however often, it could have been done by
bringing one face to the front and turning that face. What a turn of the whole
cube does to the cells is decided by what it does to the six sides, whatever the
size of the cube (`Action.goesWith_motionAll`); and on the sides quarter turns keep
three sides clockwise, which leaves no more than the points of view
(`Face.exists_view_of_clockwise`). All of them are different: they show the solved
cube in different colours.
-/
namespace Cubing

variable {n : Nat}

namespace Face

/-- Motions that keep three sides clockwise are changes of the point of view. -/
theorem exists_view_of_clockwise {sides : Equiv.Perm Face}
    (keeps : ∀ first second third, Clockwise (sides first) (sides second) (sides third) ↔
      Clockwise first second third) : ∃ face, ∃ turns < 4, sides = view face turns := by
  have turning : Turning sides.symm := by
    intro first second third clockwise
    rwa [← keeps, Equiv.apply_symm_apply, Equiv.apply_symm_apply, Equiv.apply_symm_apply]
  obtain ⟨face, turns, few, same⟩ := turning.eq_view
  exact ⟨face, turns, few, Equiv.symm_bijective.injective (DFunLike.coe_injective same)⟩

theorem turns_injective_at_top : ∀ turns turns' : Fin 4,
    (quarter .z ^ (turns.val : Int)) .top = (quarter .z ^ (turns'.val : Int)) .top →
      turns = turns' := by
  decide

/-- Different points of view move the sides differently. -/
theorem view_injective {face face' : Face} {turns turns' : Nat} (few : turns < 4)
    (few' : turns' < 4) (same : face.view turns = face'.view turns') :
    face = face' ∧ turns = turns' := by
  have faces : face = face' := by
    apply (face.view turns).injective
    rw [view_self, same, view_self]
  subst faces
  -- What the turns do is seen on the face that comes to the top before them.
  have top := congrArg (fun sides => sides ((focus face).symm .top)) same
  simp only [view, Equiv.Perm.mul_apply, Equiv.apply_symm_apply] at top
  exact ⟨rfl, Fin.val_eq_of_eq (turns_injective_at_top ⟨turns, few⟩ ⟨turns', few'⟩ top)⟩

end Face

namespace Action

/-- Does an action turn the whole cube? -/
def IsWhole : Action → Prop
  | .turnWhole _ _ | .focus _ _ => True
  | .turnFace _ _ | .turnSlice _ _ _ _ => False

/-- What an action does to the sides. Only turns of the whole cube move them. -/
def sides : Action → Equiv.Perm Face
  | .turnWhole axis turns => Face.quarter axis ^ turns.toInt
  | .focus face _ => face.focus
  | .turnFace _ _ | .turnSlice _ _ _ _ => 1

/-- What actions do to the sides, the first one first. -/
def sidesAll : List Action → Equiv.Perm Face
  | [] => 1
  | action :: actions => sidesAll actions * action.sides

theorem IsWhole.fits {action : Action} (whole : action.IsWhole) : action.Fits n := by
  cases action with
  | turnWhole | focus => trivial
  | turnFace | turnSlice => exact whole.elim

theorem goesWith_motion {action : Action} (whole : action.IsWhole) :
    Place.GoesWith (action.motion n) action.sides := by
  cases action with
  | turnWhole axis turns =>
    rw [motion, Place.sweep_all]
    exact Place.goesWith_quarter_zpow axis turns.toInt
  | focus face turns =>
    rw [motion_focus]
    exact Place.goesWith_focus face
  | turnFace | turnSlice => exact whole.elim

theorem goesWith_motionAll {actions : List Action} (whole : ∀ action ∈ actions, action.IsWhole) :
    Place.GoesWith (motionAll n actions) (sidesAll actions) := by
  induction actions with
  | nil => exact Place.goesWith_one
  | cons action actions ih =>
    rw [List.forall_mem_cons] at whole
    exact (ih whole.2).mul (goesWith_motion whole.1)

theorem clockwise_sides (action : Action) (first second third : Face) :
    Face.Clockwise (action.sides first) (action.sides second) (action.sides third) ↔
      Face.Clockwise first second third := by
  cases action with
  | turnWhole axis turns => exact Face.clockwise_quarter_zpow ..
  | focus face turns =>
    simp only [sides, Face.focus]
    split
    · exact Face.clockwise_quarter_zpow ..
    · rfl
  | turnFace | turnSlice => rfl

theorem clockwise_sidesAll (actions : List Action) (first second third : Face) :
    Face.Clockwise (sidesAll actions first) (sidesAll actions second) (sidesAll actions third) ↔
      Face.Clockwise first second third := by
  induction actions generalizing first second third with
  | nil => rfl
  | cons action actions ih =>
    simp only [sidesAll, Equiv.Perm.mul_apply, ih, clockwise_sides]

end Action

/-- Different points of view show the solved cube in different colours. -/
theorem Cube.view_of_solved (large : 2 ≤ n) {face face' : Face} {turns turns' : Nat}
    (same : (solved n).moved (Place.view face turns) =
      (solved n).moved (Place.view face' turns')) : face.view turns = face'.view turns' := by
  apply Equiv.symm_bijective.injective
  apply Equiv.ext
  intro side
  let place : Place n := ⟨side, ⟨0, by omega⟩, ⟨0, by omega⟩⟩
  exact (get_solved_view face turns place).symm.trans
    ((congrArg (get · place) same).trans (get_solved_view face' turns' place))

/-- Turns of the whole cube, one after the other, do on cubes of all sizes what is done by bringing
one face to the front and turning it, and on a solved cube of any size the 24 ways to do this lead
to different cubes. -/
theorem whole_turns_are_points_of_view {actions : List Action}
    (whole : ∀ action ∈ actions, action.IsWhole) :
    (∃ face : Face, ∃ turns : Nat, turns < 4 ∧
      ∀ (n : Nat) (net : Net), net.validate none = .ok n →
        ∃ result, net.applyAll actions = .ok result ∧
          (net.refocus (.int face.number) >>= (·.turnWhole (.text "Z") turns)) = .ok result) ∧
    ∀ n : Nat, 2 ≤ n → ∀ (face face' : Face) (turns turns' : Nat), turns < 4 → turns' < 4 →
      ((Cube.solved n).toNet.refocus (.int face.number) >>= (·.turnWhole (.text "Z") turns)) =
        ((Cube.solved n).toNet.refocus (.int face'.number) >>=
          (·.turnWhole (.text "Z") turns')) →
      face = face' ∧ turns = turns' := by
  refine ⟨?_, fun n large face face' turns turns' few few' same => ?_⟩
  · obtain ⟨face, turns, few, sides⟩ :=
      Face.exists_view_of_clockwise (Action.clockwise_sidesAll actions)
    refine ⟨face, turns, few, fun n net valid => ?_⟩
    obtain ⟨⟨n, cube⟩, readable, rfl⟩ := map_eq_ok.mp valid
    have moved := (Action.goesWith_motionAll (n := n) whole).unique
      (sides ▸ Place.goesWith_view face turns)
    have applied := (Net.applyAll_eq_ok_iff readable).mpr
      ⟨fun action member => (whole action member).fits, rfl⟩
    exact ⟨_, applied, moved ▸ Net.makes_view face turns net cube readable⟩
  · have valid := Cube.read_solved large
    have nets := (Net.makes_view face turns _ _ valid).symm.trans
      (same.trans (Net.makes_view face' turns' _ _ valid))
    have cubes := Cube.toNet_injective (Except.ok.inj nets)
    exact Face.view_injective few few' (Cube.view_of_solved large cubes)

theorem whole_turns_are_points_of_view_of_three_turns :
    let actions := [Action.turnWhole .x .clockwise, .focus .top .still, .turnWhole .y .halfway]
    let turned := (Cube.solved 3).turnFace .right .clockwise
    ∃ face : Face, ∃ turns : Nat, turns < 4 ∧ ∃ result,
      turned.toNet.applyAll actions = .ok result ∧
        (turned.toNet.refocus (.int face.number) >>= (·.turnWhole (.text "Z") turns)) =
          .ok result := by
  intro actions turned
  have whole : ∀ action ∈ actions, action.IsWhole := by
    simp [actions, Action.IsWhole]
  obtain ⟨⟨face, turns, few, views⟩, -⟩ := whole_turns_are_points_of_view whole
  exact ⟨face, turns, few, views 3 turned.toNet rfl⟩

end Cubing
