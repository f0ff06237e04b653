import Cubing.Proofs.Turn.Operations

/-!
# Amounts of turning

An operation that turns a net by any number of quarter turns makes the powers of
one motion, which comes back after four of them. So amounts of either sign add
up, whatever is turned (`Net.AddsUp`), and what is seen to turn in one direction
is seen to turn back in the opposite direction (`Net.Opposes`).
-/
namespace Cubing

variable {n : Nat}

namespace Net

/-- Do the amounts by which a net is turned add up? -/
structure AddsUp (turn : Net → Int → Except Fault Net) (net : Net) : Prop where
  still : turn net 0 = .ok net
  add : ∀ first second, ∃ result, (turn net first >>= (turn · second)) = .ok result ∧
    turn net (first + second) = .ok result
  back : ∀ turns, (turn net turns >>= (turn · (-turns))) = .ok net
  halves : ∀ turns, (turn net (2 * turns) >>= (turn · (2 * turns))) = .ok net
  quarters : ∀ turns,
    (turn net turns >>= (turn · turns) >>= (turn · turns) >>= (turn · turns)) = .ok net

/-- Is a net turned the other way round by another operation? -/
structure Opposes (turn reverse : Net → Int → Except Fault Net) (net : Net) : Prop where
  negative : ∀ turns, reverse net (-turns) = turn net turns
  back : ∀ turns, (turn net turns >>= (reverse · turns)) = .ok net

section Makes

variable {net : Net} {cube : Cube n} (valid : net.read none = .ok ⟨n, cube⟩)
include valid

/-- An operation whose motion moves nothing gives the net back. -/
theorem Makes.unmoved {operation : Net → Except Fault Net} {motion : Equiv.Perm (Place n)}
    (makes : Makes operation motion) (nothing : motion = 1) : operation net = .ok net := by
  rw [makes net cube valid, nothing, Cube.moved_one, ← (read_eq_ok_iff.mp valid).1]

theorem Makes.addsUp {turn : Net → Int → Except Fault Net} {motion : Equiv.Perm (Place n)}
    (four : motion ^ 4 = 1) (makes : ∀ turns, Makes (turn · turns) (motion ^ turns)) :
    AddsUp turn net where
  still := (makes 0).unmoved valid (zpow_zero motion)
  add first second := by
    refine ((makes first).bind (makes second)).agree (makes (first + second)) ?_ valid
    rw [← zpow_add, Int.add_comm]
  back turns := by
    refine ((makes turns).bind (makes (-turns))).unmoved valid ?_
    rw [← zpow_add, Int.add_left_neg, zpow_zero]
  halves turns := by
    refine ((makes (2 * turns)).bind (makes (2 * turns))).unmoved valid ?_
    have whole : 2 * turns + 2 * turns = (4 : Nat) * turns := by omega
    rw [← zpow_add, whole, zpow_mul, zpow_natCast, four, one_zpow]
  quarters turns := by
    have once := makes turns
    refine (((once.bind once).bind once).bind once).unmoved valid ?_
    have all := QuarterTurns.zpow_pow_four four turns
    simpa only [pow_succ', pow_zero, mul_one] using all

theorem Makes.opposes {turn reverse : Net → Int → Except Fault Net}
    {motion : Equiv.Perm (Place n)} (makes : ∀ turns, Makes (turn · turns) (motion ^ turns))
    (makes' : ∀ turns, Makes (reverse · turns) (motion ^ (-turns))) :
    Opposes turn reverse net where
  negative turns := by
    have reversed := makes' (-turns) net cube valid
    rw [Int.neg_neg] at reversed
    exact reversed.trans (makes turns net cube valid).symm
  back turns := by
    refine ((makes turns).bind (makes' turns)).unmoved valid ?_
    rw [← zpow_add, Int.add_left_neg, zpow_zero]

end Makes

end Net

namespace Face

/-- One turn in a direction of the layers that are seen to move in it. -/
def turnTowards (n : Nat) (face : Face) (direction : Direction) (start count : Nat) :
    Equiv.Perm (Place n) :=
  (face.edge direction).turnFrom n start count ^ direction.sense

theorem turnTowards_pow_four (face : Face) (direction : Direction) (start count : Nat) :
    face.turnTowards n direction start count ^ 4 = 1 :=
  QuarterTurns.zpow_pow_four (turnFrom_pow_four ..) _

theorem turnTowards_opposite_zpow (face : Face) (direction : Direction) (start count : Nat)
    (turns : Int) :
    face.turnTowards n direction.opposite start count ^ turns =
      face.turnTowards n direction start count ^ (-turns) := by
  simp [turnTowards]

end Face

namespace Net

section Seen

variable {faceValue directionValue : Value} {face : Face} {direction : Direction}
  (faceNamed : Face.ofValue faceValue = .ok face)
  (directionNamed : Direction.ofValue directionValue = .ok direction)
include faceNamed directionNamed

theorem makes_turnSliceTowards {axisValue : Value} {axis : Axis}
    (axisNamed : Axis.ofValue axisValue = .ok axis) (seen : axis = (face.sight direction).axis)
    {start count : Int} (fits : 1 ≤ start ∧ 1 ≤ count ∧ start + count ≤ (n : Int) - 1)
    (turns : Int) :
    Makes (turnSliceFrom · faceValue axisValue start count directionValue turns)
      (face.turnTowards n direction start.toNat count.toNat ^ turns) := by
  subst seen
  rw [Face.turnTowards, ← zpow_mul]
  exact makes_turnSliceFrom faceNamed directionNamed axisNamed fits turns

theorem makes_turnWholeTowards (turns : Int) :
    Makes (turnWholeFrom · faceValue directionValue turns)
      (face.turnTowards n direction 0 n ^ turns) := by
  rw [Face.turnTowards, ← zpow_mul]
  exact makes_turnWholeFrom faceNamed directionNamed turns

end Seen

end Net

/-- Amounts of turning add up, for a face, a slice, the whole cube, and a slice or the whole cube
as they are seen to turn from a face. What is seen to turn in one direction turns the other way
round in the opposite direction. A slice must be one that can be turned by some amount. -/
theorem turns_add_up {net : Net} {cube : Cube n} (valid : net.read none = .ok ⟨n, cube⟩)
    {faceValue axisValue directionValue oppositeValue : Value} {face : Face} {axis : Axis}
    {direction : Direction} (faceNamed : Face.ofValue faceValue = .ok face)
    (axisNamed : Axis.ofValue axisValue = .ok axis)
    (directionNamed : Direction.ofValue directionValue = .ok direction)
    (oppositeNamed : Direction.ofValue oppositeValue = .ok direction.opposite)
    (start count : Int) :
    net.AddsUp (fun net turns => net.turnFace faceValue turns) ∧
    (∀ amount turned, net.turnSlice axisValue start count amount = .ok turned →
      net.AddsUp fun net turns => net.turnSlice axisValue start count turns) ∧
    net.AddsUp (fun net turns => net.turnWhole axisValue turns) ∧
    (∀ amount turned,
      net.turnSliceFrom faceValue axisValue start count directionValue amount = .ok turned →
      net.AddsUp (fun net turns =>
        net.turnSliceFrom faceValue axisValue start count directionValue turns) ∧
      net.Opposes
        (fun net turns => net.turnSliceFrom faceValue axisValue start count directionValue turns)
        (fun net turns =>
          net.turnSliceFrom faceValue axisValue start count oppositeValue turns)) ∧
    net.AddsUp (fun net turns => net.turnWholeFrom faceValue directionValue turns) ∧
    net.Opposes (fun net turns => net.turnWholeFrom faceValue directionValue turns)
      (fun net turns => net.turnWholeFrom faceValue oppositeValue turns) := by
  refine ⟨?_, fun amount turned accepted => ?_, ?_, fun amount turned accepted => ?_, ?_, ?_⟩
  · exact Net.Makes.addsUp valid (face.turnFrom_pow_four 0 1) (Net.makes_turnFace faceNamed)
  · obtain ⟨fits, -⟩ := (Net.turnSlice_eq_ok_iff valid axisNamed).mp accepted
    exact Net.Makes.addsUp valid (Place.sweep_pow_four ..) (Net.makes_turnSlice axisNamed fits)
  · exact Net.Makes.addsUp valid (Place.quarter_pow_four axis) (Net.makes_turnWhole axisNamed)
  · obtain ⟨⟨seen, fits⟩, -⟩ :=
      (Net.turnSliceFrom_eq_ok_iff faceNamed directionNamed valid axisNamed).mp accepted
    have towards := Net.makes_turnSliceTowards faceNamed directionNamed axisNamed seen fits
    refine ⟨Net.Makes.addsUp valid (face.turnTowards_pow_four ..) towards,
      Net.Makes.opposes valid towards fun turns => ?_⟩
    rw [← face.axis_sight_opposite] at seen
    rw [← face.turnTowards_opposite_zpow]
    exact Net.makes_turnSliceTowards faceNamed oppositeNamed axisNamed seen fits turns
  · exact Net.Makes.addsUp valid (face.turnTowards_pow_four ..)
      (Net.makes_turnWholeTowards faceNamed directionNamed)
  · refine Net.Makes.opposes valid (Net.makes_turnWholeTowards faceNamed directionNamed)
      fun turns => ?_
    rw [← face.turnTowards_opposite_zpow]
    exact Net.makes_turnWholeTowards faceNamed oppositeNamed turns

theorem turns_add_up_on_right_of_front_turned :
    let cube := (Cube.solved 4).turnFace .front .clockwise
    let net := cube.toNet
    net.read none = .ok ⟨4, cube⟩ ∧
      (∃ result, (net.turnFace (.text "right") 7 >>= (·.turnFace (.text "right") (-2))) =
          .ok result ∧ net.turnFace (.text "right") 5 = .ok result) ∧
      (∃ result, (net.turnSlice (.text "Z") 1 2 7 >>= (·.turnSlice (.text "Z") 1 2 (-2))) =
          .ok result ∧ net.turnSlice (.text "Z") 1 2 5 = .ok result) ∧
      (net.turnWhole (.text "Z") 7 >>= (·.turnWhole (.text "Z") (-7))) = .ok net ∧
      (net.turnSliceFrom (.text "right") (.text "Z") 1 2 (.text "Up") 6 >>=
        (·.turnSliceFrom (.text "right") (.text "Z") 1 2 (.text "Up") 6)) = .ok net ∧
      (net.turnSliceFrom (.text "right") (.text "Z") 1 2 (.text "Up") 7 >>=
        (·.turnSliceFrom (.text "right") (.text "Z") 1 2 (.text "Down") 7)) = .ok net ∧
      net.turnWholeFrom (.text "right") (.text "Up") 0 = .ok net ∧
      net.turnWholeFrom (.text "right") (.text "Down") (-7) =
        net.turnWholeFrom (.text "right") (.text "Up") 7 := by
  intro cube net
  have valid : net.read none = .ok ⟨4, cube⟩ := by rfl
  have faceNamed : Face.ofValue (.text "right") = .ok .right := rfl
  have axisNamed : Axis.ofValue (.text "Z") = .ok .z := rfl
  have directionNamed : Direction.ofValue (.text "Up") = .ok .up := rfl
  have oppositeNamed : Direction.ofValue (.text "Down") = .ok .down := rfl
  have fits : (1 : Int) ≤ 1 ∧ (1 : Int) ≤ 2 ∧ (1 : Int) + 2 ≤ (4 : Nat) - 1 := by decide
  have slice := Net.makes_turnSlice axisNamed fits 0
  have seen := Net.makes_turnSliceFrom faceNamed directionNamed axisNamed fits 0
  obtain ⟨faces, slices, wholes, slicesFrom, wholesFrom, wholesBack⟩ :=
    turns_add_up valid faceNamed axisNamed directionNamed oppositeNamed 1 2
  obtain ⟨sliced, slicedBack⟩ := slicesFrom 0 _ (seen net cube valid)
  exact ⟨valid, faces.add 7 (-2), (slices 0 _ (slice net cube valid)).add 7 (-2), wholes.back 7,
    sliced.halves 3, slicedBack.back 7, wholesFrom.still, wholesBack.negative 7⟩

end Cubing
