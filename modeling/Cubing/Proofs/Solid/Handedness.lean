import Cubing.Proofs.Turn.RigidMotion

/-!
# Handedness

Three sides that meet in a corner follow one another clockwise or the other way
round (`Face.Clockwise`), and no turn changes that. Hence every corner of a cube
that has been turned out of a solved one shows three colours that follow one
another as they do in some corner of the solved cube (`Cube.Handed`); mirror
images never occur. What a quarter turn of some layers preserves, every list of
actions preserves (`Cube.kept_by_motionAll`).
-/
namespace Cubing

variable {n : Nat}

namespace Face

/-- The side to which a clockwise turn of a face carries a side. -/
def next (face side : Face) : Face := (quarter face.axis ^ face.sign) side

/-- Do three sides meet in a corner, clockwise as it is seen from outside? -/
def Clockwise (first second third : Face) : Prop :=
  second.axis ≠ first.axis ∧ first.next second = third

instance (first second third : Face) : Decidable (Clockwise first second third) :=
  inferInstanceAs (Decidable (_ ∧ _))

theorem axis_carried_ne (axis : Axis) (first second : Face) :
    (second.carried axis).axis ≠ (first.carried axis).axis ↔ second.axis ≠ first.axis := by
  cases axis <;> cases first <;> cases second <;> decide

theorem next_carried (axis : Axis) (first second : Face) :
    (first.carried axis).next (second.carried axis) = (first.next second).carried axis := by
  cases axis <;> cases first <;> cases second <;> decide

/-- A quarter turn leaves sides in the same sense of rotation. -/
theorem clockwise_carried (axis : Axis) (first second third : Face) :
    Clockwise (first.carried axis) (second.carried axis) (third.carried axis) ↔
      Clockwise first second third := by
  rw [Clockwise, Clockwise, axis_carried_ne, next_carried]
  exact and_congr_right fun _ => (quarter axis).injective.eq_iff

end Face

theorem Position.layer_carried (axis : Axis) (position : Position n) :
    (position.carried axis).layer axis = position.layer axis := by
  obtain ⟨depth, row, col⟩ := position
  cases axis <;> rfl

namespace Cube

/-- The colour that the block at a position shows on a side, if it lies at that side. -/
def shown (cube : Cube n) (position : Position n) (side : Face) : Option Face :=
  (position.place? side).map cube.get

theorem shown_of_touches (cube : Cube n) {position : Position n} {side : Face}
    (touches : position.Touches side) :
    cube.shown position side = some (cube.get (position.cell side)) :=
  Option.map_eq_some_iff.mpr ⟨_, Position.place?_eq_some_iff.mpr ⟨touches, rfl⟩, rfl⟩

section Sweep

variable (cube : Cube n) {axis : Axis} {start count : Nat} {position : Position n}

/-- A quarter turn takes a block along with the colours it shows. -/
theorem shown_moved_carried (inside : InLayers start count (position.layer axis)) (side : Face) :
    (cube.moved (Place.sweep axis start count)).shown (position.carried axis) (side.carried axis) =
      cube.shown position side := by
  have swept := cube.shown_of_swept 1 inside side
  simp only [zpow_one] at swept
  exact swept

theorem shown_moved_kept (outside : ¬ InLayers start count (position.layer axis)) (side : Face) :
    (cube.moved (Place.sweep axis start count)).shown position side =
      cube.shown position side := by
  have kept := cube.shown_of_unswept 1 outside side
  simp only [zpow_one] at kept
  exact kept

end Sweep

/-- Do colours that meet in a corner follow one another clockwise where their sides do? -/
def Handed (cube : Cube n) : Prop :=
  ∀ position {first second third colour colour' colour'' : Face},
    Face.Clockwise first second third → cube.shown position first = some colour →
    cube.shown position second = some colour' → cube.shown position third = some colour'' →
    Face.Clockwise colour colour' colour''

theorem shown_solved {position : Position n} {side colour : Face}
    (shows : (solved n).shown position side = some colour) : colour = side := by
  obtain ⟨place, sighted, rfl⟩ := Option.map_eq_some_iff.mp shows
  obtain ⟨-, rfl⟩ := Position.place?_eq_some_iff.mp sighted
  cases side <;> exact get_solved _

theorem handed_solved : (solved n).Handed := by
  intro position first second third colour colour' colour'' clockwise shows shows' shows''
  rwa [shown_solved shows, shown_solved shows', shown_solved shows'']

/-- A quarter turn of some layers makes no mirror images. -/
theorem Handed.moved {cube : Cube n} (handed : cube.Handed) (axis : Axis) (start count : Nat) :
    (cube.moved (Place.sweep axis start count)).Handed := by
  intro position first second third colour colour' colour'' clockwise shows shows' shows''
  by_cases inside : InLayers start count (position.layer axis)
  -- A block of the turned layers has come from elsewhere, and each of its sides from another one.
  · obtain ⟨origin, rfl⟩ := (Position.quarter axis).surjective position
    obtain ⟨first, rfl⟩ := (Face.quarter axis).surjective first
    obtain ⟨second, rfl⟩ := (Face.quarter axis).surjective second
    obtain ⟨third, rfl⟩ := (Face.quarter axis).surjective third
    have inside : InLayers start count (origin.layer axis) := by
      rwa [← origin.layer_carried axis]
    have back (side : Face) := cube.shown_moved_carried inside side
    exact handed origin ((Face.clockwise_carried axis first second third).mp clockwise)
      ((back first).symm.trans shows) ((back second).symm.trans shows')
      ((back third).symm.trans shows'')
  · rw [cube.shown_moved_kept inside] at shows shows' shows''
    exact handed position clockwise shows shows' shows''

section Kept

variable {P : Cube n → Prop}
  (keeps : ∀ cube axis start count, P cube → P (cube.moved (Place.sweep axis start count)))
include keeps

theorem kept_by_sweep_zpow {cube : Cube n} (holds : P cube) (axis : Axis) (start count : Nat)
    (turns : Int) : P (cube.moved (Place.sweep axis start count ^ turns)) := by
  rw [QuarterTurns.zpow_eq_pow_ofInt (Place.sweep_pow_four ..)]
  induction (QuarterTurns.ofInt turns).val with
  | zero => rwa [pow_zero, moved_one]
  | succ count ih =>
    rw [pow_succ', ← moved_moved]
    exact keeps _ _ _ _ ih

theorem kept_by_motion {cube : Cube n} (holds : P cube) (action : Action) :
    P (cube.moved (action.motion n)) := by
  cases action with
  | turnFace face turns => exact kept_by_sweep_zpow keeps holds ..
  | turnSlice axis offset count turns => exact kept_by_sweep_zpow keeps holds ..
  | turnWhole axis turns => exact kept_by_sweep_zpow keeps holds ..
  | focus face turns =>
    simp only [Action.motion]
    split
    · exact kept_by_sweep_zpow keeps holds ..
    · rwa [moved_one]

/-- What a quarter turn of any layers preserves is preserved by all actions. -/
theorem kept_by_motionAll {cube : Cube n} (holds : P cube) (actions : List Action) :
    P (cube.moved (Action.motionAll n actions)) := by
  induction actions generalizing cube with
  | nil => rwa [Action.motionAll, moved_one]
  | cons action actions ih =>
    rw [Action.motionAll, ← moved_moved]
    exact ih (kept_by_motion keeps holds action)

end Kept

theorem Handed.motionAll {cube : Cube n} (handed : cube.Handed) (actions : List Action) :
    (cube.moved (Action.motionAll n actions)).Handed :=
  kept_by_motionAll (fun _ axis start count handed => handed.moved axis start count) handed actions

end Cube

end Cubing
