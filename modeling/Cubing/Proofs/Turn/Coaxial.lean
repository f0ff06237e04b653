import Cubing.Proofs.Moves.Fitting
import Cubing.Proofs.Turn.Operations

/-!
# Turns about one axis

A turn of layers that lie side by side is made of turns of these layers
(`Place.sweep_add`), from whichever face they are counted (`Face.turnFrom_add`).
The layers behind a face, counted from the opposite face, are turned the other way
round (`Face.turnFrom_opposite`), so a face and all layers up to the opposite face
turn like the whole cube with the opposite face turned back. All operations that
turn layers of one axis can be done in either order.
-/
namespace Cubing

variable {n : Nat}

namespace Place

/-- Layers side by side can be turned in two parts. -/
theorem sweep_add (axis : Axis) (start first second : Nat) :
    (sweep axis start (first + second) : Equiv.Perm (Place n)) =
      sweep axis (start + first) second * sweep axis start first := by
  apply Equiv.ext
  intro place
  simp only [Equiv.Perm.mul_apply, sweep_apply]
  -- A cell stays in its layer, so what one part has turned the other does not turn again.
  by_cases lower : InLayers start first (place.layer axis)
  · have whole : InLayers start (first + second) (place.layer axis) := by
      simp only [InLayers] at lower ⊢
      omega
    have outside : ¬ InLayers (start + first) second (place.layer axis) := by
      simp only [InLayers] at lower ⊢
      omega
    simp [lower, whole, outside]
  · have same : InLayers start (first + second) (place.layer axis) ↔
        InLayers (start + first) second (place.layer axis) := by
      simp only [InLayers] at lower ⊢
      omega
    simp [lower, same]

end Place

namespace Face

@[simp] theorem axis_opposite (face : Face) : face.opposite.axis = face.axis := by
  cases face <;> simp [opposite, axis]

@[simp] theorem isFar_opposite (face : Face) : face.opposite.isFar = !face.isFar := by
  cases face <;> simp [opposite, isFar]

@[simp] theorem sign_opposite (face : Face) : face.opposite.sign = -face.sign := by
  cases face <;> simp [opposite, sign]

theorem turnFrom_commute (face : Face) (start count start' count' : Nat) :
    Commute (face.turnFrom n start count) (face.turnFrom n start' count') :=
  Commute.zpow_zpow (Place.sweep_commute ..) _ _

theorem turnFrom_all (face : Face) : face.turnFrom n 0 n = Place.quarter face.axis ^ face.sign := by
  simp [turnFrom, Place.sweep_all]

/-- Counted from the opposite face, the same layers are turned the other way round. -/
theorem turnFrom_opposite (face : Face) {start count : Nat} (fits : start + count ≤ n) :
    face.opposite.turnFrom n start count = (face.turnFrom n (n - (start + count)) count)⁻¹ := by
  have back : n - (n - (start + count) + count) = start := by omega
  by_cases far : face.isFar <;> simp [turnFrom, far, back]

/-- Layers behind a face can be turned in two parts, the nearer ones first. -/
theorem turnFrom_add (face : Face) {start first second : Nat}
    (fits : start + (first + second) ≤ n) :
    face.turnFrom n start (first + second) =
      face.turnFrom n (start + first) second * face.turnFrom n start first := by
  by_cases far : face.isFar
  · -- On a far face the nearer layers have the higher numbers.
    have lowest : n - (start + first + second) = n - (start + (first + second)) := by omega
    have nearer : n - (start + (first + second)) + second = n - (start + first) := by omega
    rw [(face.turnFrom_commute ..).eq]
    simp only [turnFrom, far, if_true, lowest, ← nearer]
    rw [← (Place.sweep_commute ..).mul_zpow, ← Place.sweep_add, Nat.add_comm second first]
  · rw [Bool.not_eq_true] at far
    simp only [turnFrom, far, Bool.false_eq_true, if_false]
    rw [Place.sweep_add, (Place.sweep_commute ..).mul_zpow]

/-- A face and layers behind it turn as one. -/
theorem turnFrom_behind (face : Face) {depth : Nat} (fits : 1 + depth ≤ n) (turns : Int) :
    face.turnFrom n 1 depth ^ turns * face.turnFrom n 0 1 ^ turns =
      face.turnFrom n 0 (1 + depth) ^ turns := by
  rw [face.turnFrom_add (by omega), Nat.zero_add, (face.turnFrom_commute ..).mul_zpow]

/-- To turn all layers but the last, the whole cube is turned and the opposite face turned back. -/
theorem turnFrom_upto_opposite (face : Face) {count : Nat} (size : n = count + 1) (turns : Int) :
    face.opposite.turnFrom n 0 1 ^ turns * Place.quarter face.axis ^ (face.sign * turns) =
      face.turnFrom n 0 count ^ turns := by
  subst size
  have parts : face.turnFrom (count + 1) 0 (count + 1) =
      face.turnFrom (count + 1) count 1 * face.turnFrom (count + 1) 0 count := by
    rw [face.turnFrom_add (by omega), Nat.zero_add]
  rw [face.turnFrom_opposite (by omega), Nat.zero_add, Nat.add_sub_cancel, zpow_mul,
    ← turnFrom_all, parts, (face.turnFrom_commute ..).mul_zpow, inv_zpow, inv_mul_cancel_left]

end Face

/-- Inner layers side by side can be turned in two slices. A face and all inner layers behind it
turn like the whole cube with the opposite face turned back; on a cube of size 2 the face alone
does. -/
theorem slices_join_and_deep_turns_are_whole {net : Net} {cube : Cube n}
    (valid : net.read none = .ok ⟨n, cube⟩) (turns : Int) :
    (∀ axisValue axis, Axis.ofValue axisValue = .ok axis →
      ∀ start first second : Int, 1 ≤ start → 1 ≤ first → 1 ≤ second →
        start + first + second ≤ (n : Int) - 1 →
      ∃ result, net.turnSlice axisValue start (first + second) turns = .ok result ∧
        (net.turnSlice axisValue start first turns >>=
          (·.turnSlice axisValue (start + first) second turns)) = .ok result) ∧
    ∀ faceValue oppositeValue axisValue face, Face.ofValue faceValue = .ok face →
      Face.ofValue oppositeValue = .ok face.opposite → Axis.ofValue axisValue = .ok face.axis →
      ∃ result, (net.turnWhole axisValue (face.sign * turns) >>=
          (·.turnFace oppositeValue turns)) = .ok result ∧
        (3 ≤ n → (net.turnFace faceValue turns >>=
          (·.apply (.behind face 1 ((n : Int) - 2) turns))) = .ok result) ∧
        (n = 2 → net.turnFace faceValue turns = .ok result) := by
  obtain ⟨-, large, -⟩ := Net.read_eq_ok_iff.mp valid
  refine ⟨fun axisValue axis axisNamed start first second inner some more fits => ?_,
    fun faceValue oppositeValue axisValue face faceNamed oppositeNamed axisNamed => ?_⟩
  · have whole : 1 ≤ start ∧ 1 ≤ first + second ∧ start + (first + second) ≤ (n : Int) - 1 := by
      omega
    have lower : 1 ≤ start ∧ 1 ≤ first ∧ start + first ≤ (n : Int) - 1 := by omega
    have upper : 1 ≤ start + first ∧ 1 ≤ second ∧ start + first + second ≤ (n : Int) - 1 := by
      omega
    refine (Net.makes_turnSlice axisNamed whole turns).agree
      ((Net.makes_turnSlice axisNamed lower turns).bind
        (Net.makes_turnSlice axisNamed upper turns)) ?_ valid
    rw [Int.toNat_add (by omega) (by omega), Int.toNat_add (by omega) (by omega),
      Place.sweep_add, (Place.sweep_commute ..).mul_zpow]
  · have around := ((Net.makes_turnWhole axisNamed (face.sign * turns)).bind
      (Net.makes_turnFace oppositeNamed turns)) net cube valid
    have single := Net.makes_turnFace (n := n) faceNamed turns
    refine ⟨_, around, fun thick => ?_, fun thin => ?_⟩
    · have behind : Net.Makes (·.apply (.behind face 1 ((n : Int) - 2) turns))
          (face.turnFrom n 1 ((n : Int) - 2).toNat ^ turns) :=
        Net.makes_behind (Int.le_refl 1) (by omega) (by omega) turns
      have deep := single.bind behind
      have inner : n = 1 + ((n : Int) - 2).toNat + 1 := by omega
      rw [face.turnFrom_behind (by omega)] at deep
      rw [face.turnFrom_upto_opposite inner]
      exact deep net cube valid
    · rw [face.turnFrom_upto_opposite thin]
      exact single net cube valid

theorem slices_join_and_deep_turns_are_whole_behind_bottom :
    let cube := (Cube.solved 4).turnFace .front .clockwise
    let small := (Cube.solved 2).turnFace .front .clockwise
    cube.toNet.read none = .ok ⟨4, cube⟩ ∧ small.toNet.read none = .ok ⟨2, small⟩ ∧
      (∃ result, cube.toNet.turnSlice (.text "Z") 1 2 7 = .ok result ∧
        (cube.toNet.turnSlice (.text "Z") 1 1 7 >>= (·.turnSlice (.text "Z") 2 1 7)) =
          .ok result) ∧
      (∃ result, (cube.toNet.turnWhole (.text "X") (-7) >>= (·.turnFace (.text "top") 7)) =
          .ok result ∧
        (cube.toNet.turnFace (.text "bottom") 7 >>= (·.apply (.behind .bottom 1 2 7))) =
          .ok result) ∧
      ∃ result, (small.toNet.turnWhole (.text "X") (-7) >>= (·.turnFace (.text "top") 7)) =
          .ok result ∧
        small.toNet.turnFace (.text "bottom") 7 = .ok result := by
  intro cube small
  have valid : cube.toNet.read none = .ok ⟨4, cube⟩ := by rfl
  have valid' : small.toNet.read none = .ok ⟨2, small⟩ := by rfl
  have faceNamed : Face.ofValue (.text "bottom") = .ok .bottom := rfl
  have oppositeNamed : Face.ofValue (.text "top") = .ok .top := rfl
  have axisNamed : Axis.ofValue (.text "X") = .ok .x := rfl
  obtain ⟨join, deep⟩ := slices_join_and_deep_turns_are_whole valid 7
  obtain ⟨-, thin⟩ := slices_join_and_deep_turns_are_whole valid' 7
  obtain ⟨result, whole, layered, -⟩ := deep _ _ _ .bottom faceNamed oppositeNamed axisNamed
  obtain ⟨result', whole', -, single⟩ := thin _ _ _ .bottom faceNamed oppositeNamed axisNamed
  exact ⟨valid, valid', join (.text "Z") .z rfl 1 1 1 (by decide) (by decide) (by decide)
    (by decide), ⟨result, whole, layered (by decide)⟩, ⟨result', whole', single rfl⟩⟩

namespace Net

/-- The operations that turn layers of an axis: the faces at its ends, slices of it that can be
turned, and the whole cube. -/
inductive TurnsAbout (net : Net) (axis : Axis) : (Net → Except Fault Net) → Prop
  | face {value : Value} {face : Face} (named : Face.ofValue value = .ok face)
    (lies : face.axis = axis) (turns : Int) : TurnsAbout net axis (·.turnFace value turns)
  | slice {value : Value} (named : Axis.ofValue value = .ok axis) {start count turns : Int}
    {turned : Net} (accepted : net.turnSlice value start count turns = .ok turned) :
    TurnsAbout net axis (·.turnSlice value start count turns)
  | whole {value : Value} (named : Axis.ofValue value = .ok axis) (turns : Int) :
    TurnsAbout net axis (·.turnWhole value turns)

/-- What is turned about an axis are layers of the axis. -/
theorem TurnsAbout.makes {net : Net} {cube : Cube n} (valid : net.read none = .ok ⟨n, cube⟩)
    {axis : Axis} {operation : Net → Except Fault Net} (about : net.TurnsAbout axis operation) :
    ∃ start count, ∃ turns : Int,
      Makes operation (Place.sweep (n := n) axis start count ^ turns) := by
  cases about with
  | @face value face named lies turns =>
    subst lies
    have makes := makes_turnFace (n := n) named turns
    rw [Face.turnFrom, ← zpow_mul] at makes
    exact ⟨_, _, _, makes⟩
  | @slice value named start count turns turned accepted =>
    obtain ⟨fits, -⟩ := (turnSlice_eq_ok_iff valid named).mp accepted
    exact ⟨_, _, _, makes_turnSlice named fits turns⟩
  | whole named turns =>
    have makes := makes_turnWhole (n := n) named turns
    rw [← Place.sweep_all] at makes
    exact ⟨_, _, _, makes⟩

end Net

section Wide

variable (face : Face) (depth : Int) (turns : QuarterTurns)

/-- A face is always there, so in either order it is the layers behind it that are checked. -/
theorem Face.checkAll_swap_behind :
    Action.checkAll n [.behind face 1 depth turns.toInt, .turnFace face turns] =
      Action.checkAll n [.turnFace face turns, .behind face 1 depth turns.toInt] := by
  simp [Action.checkAll, Action.check, bind, Except.bind]

theorem Face.motionAll_swap_behind :
    Action.motionAll n [.behind face 1 depth turns.toInt, .turnFace face turns] =
      Action.motionAll n [.turnFace face turns, .behind face 1 depth turns.toInt] := by
  have commute := (face.turnBehind_commute_turn n 1 depth).zpow_zpow turns.toInt turns.toInt
  simpa [Action.motionAll, face.motion_turnFace, face.motion_behind] using commute.symm.eq

end Wide

/-- Where a move is two actions, it makes no difference which of them is applied first. -/
theorem Target.applyAll_swap {net : Net} (valid : net.validate none = .ok n) {target : Target}
    {turns : QuarterTurns} {first second : Action}
    (wide : target.actions turns = [first, second]) :
    net.applyAll [second, first] = net.applyAll [first, second] := by
  cases target with
  | single | middle | whole | innerSlice | innerBlock => simp [actions] at wide
  | wideLetter face | wide face | deepWide _ face | subscript face =>
    cases wide
    exact Net.applyAll_congr valid (face.checkAll_swap_behind _ turns)
      (face.motionAll_swap_behind _ turns)

/-- Turns about one axis can be made in either order, and so can the two actions of a move that
turns a face and layers behind it. -/
theorem turns_about_one_axis_commute {net : Net} {cube : Cube n}
    (valid : net.read none = .ok ⟨n, cube⟩) :
    (∀ axis first second, net.TurnsAbout axis first → net.TurnsAbout axis second →
      ∃ result, (first net >>= second) = .ok result ∧ (second net >>= first) = .ok result) ∧
    ∀ (target : Target) (turns : QuarterTurns) (first second : Action),
      target.actions turns = [first, second] →
        net.applyAll [second, first] = net.applyAll [first, second] := by
  refine ⟨fun axis first second about about' => ?_, fun target turns first second wide => ?_⟩
  · obtain ⟨start, count, amount, makes⟩ := about.makes valid
    obtain ⟨start', count', amount', makes'⟩ := about'.makes valid
    exact (makes.bind makes').agree (makes'.bind makes)
      ((Place.sweep_commute axis start' count' start count).zpow_zpow amount' amount) valid
  · have sized : net.validate none = .ok n := map_eq_ok.mpr ⟨_, valid, rfl⟩
    exact target.applyAll_swap sized wide

theorem turns_about_one_axis_commute_for_overlapping_slices :
    let cube := (Cube.solved 5).turnFace .front .clockwise
    let net := cube.toNet
    net.read none = .ok ⟨5, cube⟩ ∧
      (∃ result, (net.turnSlice (.text "X") 1 2 3 >>= (·.turnSlice (.text "X") 2 2 (-6))) =
          .ok result ∧
        (net.turnSlice (.text "X") 2 2 (-6) >>= (·.turnSlice (.text "X") 1 2 3)) = .ok result) ∧
      (∃ result, (net.turnFace (.text "bottom") 7 >>= (·.turnWhole (.text "X") 9)) = .ok result ∧
        (net.turnWhole (.text "X") 9 >>= (·.turnFace (.text "bottom") 7)) = .ok result) ∧
      net.applyAll [.behind .bottom 1 2 3, .turnFace .bottom .counterClockwise] =
        net.applyAll [.turnFace .bottom .counterClockwise, .behind .bottom 1 2 3] := by
  intro cube net
  have valid : net.read none = .ok ⟨5, cube⟩ := by rfl
  have axisNamed : Axis.ofValue (.text "X") = .ok .x := rfl
  have faceNamed : Face.ofValue (.text "bottom") = .ok .bottom := rfl
  have fits : (1 : Int) ≤ 1 ∧ (1 : Int) ≤ 2 ∧ (1 : Int) + 2 ≤ (5 : Nat) - 1 := by decide
  have fits' : (1 : Int) ≤ 2 ∧ (1 : Int) ≤ 2 ∧ (2 : Int) + 2 ≤ (5 : Nat) - 1 := by decide
  have slice : net.TurnsAbout .x (·.turnSlice (.text "X") 1 2 3) :=
    .slice axisNamed (Net.makes_turnSlice axisNamed fits 3 net cube valid)
  have slice' : net.TurnsAbout .x (·.turnSlice (.text "X") 2 2 (-6)) :=
    .slice axisNamed (Net.makes_turnSlice axisNamed fits' (-6) net cube valid)
  obtain ⟨commute, swap⟩ := turns_about_one_axis_commute valid
  have slices := commute .x _ _ slice slice'
  have outer := commute .x _ _ (.face faceNamed rfl 7) (.whole axisNamed 9)
  exact ⟨valid, slices, outer, swap (.subscript .bottom 2) .counterClockwise _ _ rfl⟩

end Cubing
