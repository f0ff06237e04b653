import Mathlib.Logic.Function.Conjugate
import Cubing.Proofs.Moves.Composition
import Cubing.Proofs.Solid.Corners

/-!
# Stretching a cube

A cube can be stretched to one of another size: its outer lines become outer lines,
its inner lines inner ones, and opposite lines stay opposite (`Stretch`). Turns of
faces and of the whole cube do to the stretched cells what they do to the cells
(`Action.semiconj_motionAll`). A cell of any cube lies on two lines, and these with
the lines opposite to them and the two outer ones are no more than six. So
actions that name no inner layers and restore every cell of a cube of size six
restore every cell of every cube (`Action.motionAll_eq_one`).
-/
namespace Cubing

variable {m n : Nat}

/-- A way to stretch the lines of a cube to those of a cube of another size. Several lines may
become one. -/
structure Stretch (m n : Nat) where
  line : Fin m → Fin n
  line_rev : ∀ i, line i.rev = (line i).rev
  first_iff : ∀ i, (line i).val = 0 ↔ i.val = 0

namespace Stretch

def place (stretch : Stretch m n) (place : Place m) : Place n :=
  ⟨place.face, stretch.line place.row, stretch.line place.col⟩

/-- The outer lines of a cube, as lines of a cube of size two. -/
def ofCorners (large : 2 ≤ n) : Stretch 2 n where
  line := Corner.outer large
  line_rev := Corner.outer_rev large
  first_iff last := by
    rw [Corner.val_outer]
    split <;> omega

/-- Two inner lines of a cube, the opposite ones and the outer ones, as lines of a cube of size
six. -/
def ofInner (first second : Fin n) (inner : 1 ≤ first.val ∧ first.val + 1 < n)
    (inner' : 1 ≤ second.val ∧ second.val + 1 < n) : Stretch 6 n where
  line
    | 0 => ⟨0, by omega⟩
    | 1 => first
    | 2 => second
    | 3 => second.rev
    | 4 => first.rev
    | 5 => ⟨n - 1, by omega⟩
  line_rev i := by
    match i with
    | 0 | 1 | 2 => rfl
    | 3 => exact (Fin.rev_rev second).symm
    | 4 => exact (Fin.rev_rev first).symm
    | 5 =>
      apply Fin.ext
      change 0 = n - (n - 1 + 1)
      omega
  first_iff i := by
    match i with
    | 0 => exact Iff.rfl
    | 1 | 2 | 3 | 4 | 5 => simp only [Fin.val_rev]; omega

section Cells

variable (stretch : Stretch m n)

theorem last_iff (i : Fin m) : (stretch.line i).val = n - 1 ↔ i.val = m - 1 := by
  have opposite := stretch.first_iff i.rev
  rw [stretch.line_rev, Fin.val_rev, Fin.val_rev] at opposite
  omega

theorem place_injective (apart : Function.Injective stretch.line) :
    Function.Injective stretch.place := by
  rintro ⟨face, row, col⟩ ⟨face', row', col'⟩ same
  simp only [place, Place.mk.injEq, apart.eq_iff] at same
  obtain ⟨rfl, rfl, rfl⟩ := same
  rfl

theorem place_carried (axis : Axis) (cell : Place m) :
    stretch.place (cell.carried axis) = (stretch.place cell).carried axis := by
  obtain ⟨face, row, col⟩ := cell
  cases axis <;> cases face <;> simp [place, Place.carried, Face.carried, stretch.line_rev]

theorem layer_place (axis : Axis) (cell : Place m) :
    (stretch.place cell).layer axis = stretch.line (cell.layer axis) := by
  obtain ⟨face, row, col⟩ := cell
  have first : stretch.line ⟨0, Nat.zero_lt_of_lt row.isLt⟩ =
      ⟨0, Nat.zero_lt_of_lt (stretch.line row).isLt⟩ :=
    Fin.ext ((stretch.first_iff _).mpr rfl)
  cases axis <;> cases face <;> simp [place, Place.layer, stretch.line_rev, first]

/-- Layers that are stretched to layers of the same kind turn alike. -/
theorem semiconj_sweep (axis : Axis) {start count start' count' : Nat}
    (alike : ∀ line, InLayers start' count' (stretch.line line) ↔ InLayers start count line) :
    Function.Semiconj stretch.place (Place.sweep axis start count)
      (Place.sweep axis start' count') := by
  intro cell
  rw [Place.sweep_apply, Place.sweep_apply, layer_place]
  by_cases inside : InLayers start count (cell.layer axis)
  · rw [if_pos inside, if_pos ((alike _).mpr inside), place_carried]
  · rw [if_neg inside, if_neg fun inside' => inside ((alike _).mp inside')]

theorem semiconj_sweep_zpow (axis : Axis) {start count start' count' : Nat}
    (alike : ∀ line, InLayers start' count' (stretch.line line) ↔ InLayers start count line)
    (turns : Int) :
    Function.Semiconj stretch.place (Place.sweep axis start count ^ turns : Equiv.Perm (Place m))
      (Place.sweep axis start' count' ^ turns : Equiv.Perm (Place n)) := by
  rw [QuarterTurns.zpow_eq_pow_ofInt (Place.sweep_pow_four ..),
    QuarterTurns.zpow_eq_pow_ofInt (Place.sweep_pow_four ..), ← Equiv.Perm.iterate_eq_pow,
    ← Equiv.Perm.iterate_eq_pow]
  exact (stretch.semiconj_sweep axis alike).iterate_right _

theorem inLayers_face_iff (face : Face) (line : Fin m) :
    InLayers (face.layer n) 1 (stretch.line line) ↔ InLayers (face.layer m) 1 line := by
  have first := stretch.first_iff line
  have last := stretch.last_iff line
  simp only [InLayers, Face.layer]
  split <;> omega

end Cells

/-- Every cell of a cube that has inner lines is that of a cube of size six, stretched. -/
theorem exists_place (thick : 3 ≤ n) (cell : Place n) :
    ∃ stretch : Stretch 6 n, ∃ origin, stretch.place origin = cell := by
  obtain ⟨face, row, col⟩ := cell
  -- Where a line of the cell is an outer one, any inner line will do in its stead.
  have inner (line : Fin n) : ∃ other : Fin n, (1 ≤ other.val ∧ other.val + 1 < n) ∧
      (other = line ∨ line.val = 0 ∨ line.val = n - 1) := by
    by_cases outer : line.val = 0 ∨ line.val = n - 1
    · exact ⟨⟨1, by omega⟩, ⟨Nat.le_refl 1, thick⟩, .inr outer⟩
    · exact ⟨line, by omega, .inl rfl⟩
  obtain ⟨first, within, isRow⟩ := inner row
  obtain ⟨second, within', isCol⟩ := inner col
  let stretch := ofInner first second within within'
  have rows : ∃ i, stretch.line i = row := by
    rcases isRow with same | outer | outer
    · exact ⟨1, same⟩
    · exact ⟨0, Fin.ext outer.symm⟩
    · exact ⟨5, Fin.ext outer.symm⟩
  have cols : ∃ i, stretch.line i = col := by
    rcases isCol with same | outer | outer
    · exact ⟨2, same⟩
    · exact ⟨0, Fin.ext outer.symm⟩
    · exact ⟨5, Fin.ext outer.symm⟩
  obtain ⟨i, rfl⟩ := rows
  obtain ⟨j, rfl⟩ := cols
  exact ⟨stretch, ⟨face, i, j⟩, rfl⟩

end Stretch

namespace Action

/-- Does an action name no inner layers? -/
def IsOuter : Action → Prop
  | .turnSlice _ _ _ _ => False
  | .turnFace _ _ | .turnWhole _ _ | .focus _ _ => True

theorem semiconj_motion (stretch : Stretch m n) {action : Action} (outer : action.IsOuter) :
    Function.Semiconj stretch.place (action.motion m) (action.motion n) := by
  have all (line : Fin m) : InLayers 0 n (stretch.line line) ↔ InLayers 0 m line :=
    iff_of_true (inLayers_all _) (inLayers_all _)
  cases action with
  | turnFace face turns => exact stretch.semiconj_sweep_zpow _ (stretch.inLayers_face_iff face) _
  | turnSlice => exact outer.elim
  | turnWhole axis turns => exact stretch.semiconj_sweep_zpow _ all _
  | focus face turns =>
    simp only [motion]
    split
    · exact stretch.semiconj_sweep_zpow _ all _
    · exact fun _ => rfl

/-- Cells that are stretched go where the cells go, stretched. -/
theorem semiconj_motionAll (stretch : Stretch m n) {actions : List Action}
    (outer : ∀ action ∈ actions, action.IsOuter) :
    Function.Semiconj stretch.place (motionAll m actions) (motionAll n actions) := by
  induction actions with
  | nil => exact fun _ => rfl
  | cons action actions ih =>
    rw [List.forall_mem_cons] at outer
    rw [motionAll, motionAll, Equiv.Perm.coe_mul, Equiv.Perm.coe_mul]
    exact (ih outer.2).comp_right (semiconj_motion stretch outer.1)

/-- What restores every cell of a cube of size six restores every cell of every cube. -/
theorem motionAll_eq_one (large : 2 ≤ n) {actions : List Action}
    (outer : ∀ action ∈ actions, action.IsOuter) (restores : motionAll 6 actions = 1) :
    motionAll n actions = 1 := by
  apply Equiv.ext
  intro cell
  by_cases thick : 3 ≤ n
  · obtain ⟨stretch, origin, rfl⟩ := Stretch.exists_place thick cell
    rw [← semiconj_motionAll stretch outer, restores]
    rfl
  -- A cube of size two has no inner lines, but is found in the corners of that of size six.
  · obtain rfl : n = 2 := by omega
    let stretch := Stretch.ofCorners (n := 6) (by decide)
    have apart : Function.Injective stretch.line := by
      unfold Function.Injective
      decide
    apply stretch.place_injective apart
    rw [semiconj_motionAll stretch outer, restores]
    rfl

theorem IsOuter.fits {action : Action} (outer : action.IsOuter) : action.Fits n := by
  cases action with
  | turnSlice => exact outer.elim
  | turnFace | turnWhole | focus => trivial

/-- The commutator of the right and the top face. -/
def commutator : List Action :=
  [.turnFace .right .clockwise, .turnFace .top .clockwise, .turnFace .right .counterClockwise,
    .turnFace .top .counterClockwise]

/-- The commutator made a number of times. -/
def commutators (times : Nat) : List Action := (List.replicate times commutator).flatten

theorem compileMoves_commutator : compileMoves "R U R' U'" = .ok commutator := rfl

theorem compileMoves_six_commutators : compileMoves "(R U R' U')6" = .ok (commutators 6) := by
  have written : "(" ++ "" ++ "R U R' U'" ++ ")" ++ toString 6 = "(R U R' U')6" := by decide
  rw [← written]
  exact compileMoves_repeated compileMoves_commutator Grammar.blanks_nil (by decide) (by decide)

theorem isOuter_commutators (times : Nat) : ∀ action ∈ commutators times, action.IsOuter := by
  have once : ∀ action ∈ commutator, action.IsOuter := by
    simp [commutator, IsOuter]
  intro action member
  obtain ⟨_, again, member⟩ := List.mem_flatten.mp member
  rw [List.eq_of_mem_replicate again] at member
  exact once action member

theorem motionAll_commutators (times : Nat) :
    motionAll n (commutators times) = motionAll n commutator ^ times :=
  motionAll_replicate

/-- Six commutators restore every cell of a cube of size six. -/
theorem commutators_restore_all :
    ∀ cell ∈ Place.all 6, motionAll 6 (commutators 6) cell = cell := by
  decide +kernel

/-- Fewer commutators take some corner of a cube of size two to another face. -/
theorem commutators_leave_face : ∀ times : Fin 6, times ≠ 0 →
    ∃ cell ∈ Place.all 2, (motionAll 2 (commutators times) cell).face ≠ cell.face := by
  decide +kernel

theorem motionAll_six_commutators (large : 2 ≤ n) : motionAll n (commutators 6) = 1 :=
  motionAll_eq_one large (isOuter_commutators 6)
    (Equiv.ext fun cell => commutators_restore_all cell cell.mem_all)

theorem motionAll_commutators_mod (large : 2 ≤ n) (times : Nat) :
    motionAll n (commutators times) = motionAll n (commutators (times % 6)) := by
  have six := motionAll_six_commutators large
  rw [motionAll_commutators] at six
  rw [motionAll_commutators, motionAll_commutators, pow_eq_pow_mod times six]

end Action

namespace Cube

theorem moved_solved_eq_iff {motion : Equiv.Perm (Place n)} :
    (solved n).moved motion = solved n ↔ ∀ cell, (motion cell).face = cell.face := by
  constructor
  · intro same cell
    have shown := (solved n).get_moved motion cell
    rwa [same, get_solved, get_solved] at shown
  · intro faces
    apply ext_get
    intro cell
    obtain ⟨origin, rfl⟩ := motion.surjective cell
    rw [get_moved, get_solved, get_solved, faces]

/-- On the solved cube the commutator has order six. -/
theorem moved_commutators_solved_iff (large : 2 ≤ n) (times : Nat) :
    (solved n).moved (Action.motionAll n (Action.commutators times)) = solved n ↔ 6 ∣ times := by
  rw [Action.motionAll_commutators_mod large, Nat.dvd_iff_mod_eq_zero]
  constructor
  · intro same
    by_contra some
    let rest : Fin 6 := ⟨times % 6, Nat.mod_lt _ (by decide)⟩
    obtain ⟨cell, -, leaves⟩ :=
      Action.commutators_leave_face rest fun none => some (congrArg Fin.val none)
    -- In the corners of the cube the same happens as on the cube of size two.
    have corner := Action.semiconj_motionAll (Stretch.ofCorners large)
      (Action.isOuter_commutators rest) cell
    have stays := moved_solved_eq_iff.mp same ((Stretch.ofCorners large).place cell)
    rw [← corner] at stays
    exact leaves stays
  · intro none
    rw [none]
    exact moved_one _

end Cube

/-- Six commutators of the right and the top face restore every net that can be read, and on a
solved cube no smaller number of them does. -/
theorem commutator_has_order_six {net : Net} (valid : net.validate none = .ok n) :
    (∃ actions, compileMoves "(R U R' U')6" = .ok actions ∧ net.applyAll actions = .ok net) ∧
    ∀ times, 1 ≤ times → ∃ actions result,
      compileMoves (writtenOut " " "R U R' U'" times) = .ok actions ∧
      (Cube.solved n).toNet.applyAll actions = .ok result ∧
      (result = (Cube.solved n).toNet ↔ 6 ∣ times) := by
  obtain ⟨cube, rfl, large, balanced, -⟩ := Net.validate_eq_ok_iff.mp valid
  have fits (times : Nat) : ∀ action ∈ Action.commutators times, action.Fits n :=
    fun action member => (Action.isOuter_commutators times action member).fits
  refine ⟨⟨_, Action.compileMoves_six_commutators, ?_⟩, fun times some => ?_⟩
  · rw [Net.applyAll_eq_ok_iff (Net.read_toNet large balanced)]
    exact ⟨fits 6, by rw [Action.motionAll_six_commutators large, Cube.moved_one]⟩
  · have compiled : compileMoves (writtenOut " " "R U R' U'" times) =
        .ok (Action.commutators times) :=
      compileMoves_writtenOut Action.compileMoves_commutator
        (Grammar.blanks_singleton_iff.mpr rfl) (by decide) some
    refine ⟨_, _, compiled,
      (Net.applyAll_eq_ok_iff (Cube.read_solved large)).mpr ⟨fits times, rfl⟩, ?_⟩
    rw [Cube.toNet_injective.eq_iff, Cube.moved_commutators_solved_iff large]

theorem commutator_has_order_six_on_front_turned :
    let net := ((Cube.solved 4).turnFace .front .clockwise).toNet
    net.validate none = .ok 4 ∧
      (∃ actions, compileMoves "(R U R' U')6" = .ok actions ∧ net.applyAll actions = .ok net) ∧
      ∃ actions result,
        compileMoves (writtenOut " " "R U R' U'" 5) = .ok actions ∧
        (Cube.solved 4).toNet.applyAll actions = .ok result ∧
        result ≠ (Cube.solved 4).toNet := by
  intro net
  have valid : net.validate none = .ok 4 := by rfl
  obtain ⟨restored, orders⟩ := commutator_has_order_six valid
  obtain ⟨actions, result, compiled, applied, restores⟩ := orders 5 (by decide)
  exact ⟨valid, restored, actions, result, compiled, applied,
    fun same => absurd (restores.mp same) (by decide)⟩

end Cubing
