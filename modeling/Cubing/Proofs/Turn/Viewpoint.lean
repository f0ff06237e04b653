import Cubing.Proofs.Turn.Operations

/-!
# Turning from another point of view

It makes no difference whether a face, or layers behind it, are turned before or
after the whole cube is turned, provided that the face from which they are named
is carried along. And what is named by the way it looks from a face is the same,
for every face, as what is named by the way it looks from the front once the
face has been brought there.
-/
namespace Cubing

variable {n : Nat}

/-- Turning a face or layers behind it and then the whole cube is turning the whole cube and then
the face to which it carries the face, or layers behind that. In particular a face can be turned
where it is, or at the front. -/
theorem turning_commutes_with_viewpoint {net : Net} {cube : Cube n}
    (valid : net.read none = .ok ⟨n, cube⟩) {axisValue faceValue imageValue : Value} {axis : Axis}
    {face : Face} (axisNamed : Axis.ofValue axisValue = .ok axis)
    (faceNamed : Face.ofValue faceValue = .ok face) (amount turns : Int)
    (imageNamed : Face.ofValue imageValue = .ok ((Face.quarter axis ^ amount) face)) :
    (∃ result, (net.turnFace faceValue turns >>= (·.turnWhole axisValue amount)) = .ok result ∧
      (net.turnWhole axisValue amount >>= (·.turnFace imageValue turns)) = .ok result) ∧
    (∀ start depth : Int, 1 ≤ start → 1 ≤ depth → start + depth ≤ (n : Int) - 1 →
      ∃ result, (net.apply (.behind face start depth turns) >>=
          (·.turnWhole axisValue amount)) = .ok result ∧
        (net.turnWhole axisValue amount >>=
          (·.apply (.behind ((Face.quarter axis ^ amount) face) start depth turns))) =
            .ok result) ∧
    ∀ frontValue, Face.ofValue frontValue = .ok .front →
      ∃ result, (net.turnFace faceValue turns >>= (·.refocus faceValue)) = .ok result ∧
        (net.refocus faceValue >>= (·.turnFace frontValue turns)) = .ok result := by
  obtain ⟨-, large, -⟩ := Net.read_eq_ok_iff.mp valid
  refine ⟨?_, fun start depth inner nonempty fits => ?_, fun frontValue frontNamed => ?_⟩
  · exact ((Net.makes_turnFace faceNamed turns).bind (Net.makes_turnWhole axisNamed amount)).agree
      ((Net.makes_turnWhole axisNamed amount).bind (Net.makes_turnFace imageNamed turns))
      (Face.semiconjBy_turnFrom_zpow axis amount face (by omega) turns) valid
  · exact ((Net.makes_behind inner nonempty fits turns).bind
        (Net.makes_turnWhole axisNamed amount)).agree
      ((Net.makes_turnWhole axisNamed amount).bind (Net.makes_behind inner nonempty fits turns))
      (Face.semiconjBy_turnFrom_zpow axis amount face (by omega) turns) valid
  · have outermost : 0 + 1 ≤ n := by omega
    have viewed := face.semiconjBy_focus face outermost turns
    rw [face.focus_self] at viewed
    exact ((Net.makes_turnFace faceNamed turns).bind (Net.makes_refocus faceNamed)).agree
      ((Net.makes_refocus faceNamed).bind (Net.makes_turnFace frontNamed turns)) viewed valid

theorem turning_commutes_with_viewpoint_from_right_to_back :
    let cube := (Cube.solved 4).turnFace .front .clockwise
    let net := cube.toNet
    net.read none = .ok ⟨4, cube⟩ ∧
      (∃ result, (net.turnFace (.text "right") 5 >>= (·.turnWhole (.text "X") (-1))) = .ok result ∧
        (net.turnWhole (.text "X") (-1) >>= (·.turnFace (.int 4) 5)) = .ok result) ∧
      (∃ result, (net.apply (.behind .right 1 2 5) >>= (·.turnWhole (.text "X") (-1))) =
          .ok result ∧
        (net.turnWhole (.text "X") (-1) >>= (·.apply (.behind .back 1 2 5))) = .ok result) ∧
      ∃ result, (net.turnFace (.text "right") 5 >>= (·.refocus (.text "right"))) = .ok result ∧
        (net.refocus (.text "right") >>= (·.turnFace (.int 2) 5)) = .ok result := by
  intro cube net
  have valid : net.read none = .ok ⟨4, cube⟩ := by rfl
  have image : (Face.quarter .x ^ (-1 : Int)) .right = .back := by decide
  have axisNamed : Axis.ofValue (.text "X") = .ok .x := rfl
  have faceNamed : Face.ofValue (.text "right") = .ok .right := rfl
  have imageNamed : Face.ofValue (.int 4) = .ok ((Face.quarter .x ^ (-1 : Int)) .right) := by
    rw [image]
    rfl
  obtain ⟨faces, layers, focused⟩ :=
    turning_commutes_with_viewpoint valid axisNamed faceNamed (-1) 5 imageNamed
  rw [image] at layers
  exact ⟨valid, faces, layers 1 2 (by decide) (by decide) (by decide), focused (.int 2) rfl⟩

/-- The axis that is seen to turn from the front when cells move in a direction. -/
def Direction.axis : Direction → Axis
  | .left | .right => .x
  | .up | .down => .y

theorem Direction.axis_eq (direction : Direction) :
    direction.axis = (Face.front.sight direction).axis := by
  cases direction <;> rfl

theorem Face.edge_front (direction : Direction) : Face.front.edge direction = direction.edge := rfl

/-- A slice can be turned as it is seen from a face just if it consists of inner layers of the axis
that is seen to turn in the direction, and looks the same from the front once the face has been
brought there. So does a turn of the whole cube. -/
theorem turns_look_alike_from_all_faces {net : Net} {cube : Cube n}
    (valid : net.read none = .ok ⟨n, cube⟩) {faceValue frontValue directionValue : Value}
    {face : Face} {direction : Direction} (faceNamed : Face.ofValue faceValue = .ok face)
    (frontNamed : Face.ofValue frontValue = .ok .front)
    (directionNamed : Direction.ofValue directionValue = .ok direction) (turns : Int) :
    (∀ axisValue axis start count, Axis.ofValue axisValue = .ok axis →
      ((∃ turned, net.turnSliceFrom faceValue axisValue start count directionValue turns =
          .ok turned) ↔
        axis = (face.sight direction).axis ∧ 1 ≤ start ∧ 1 ≤ count ∧
          start + count ≤ (n : Int) - 1)) ∧
    (∀ axisValue seenValue start count, Axis.ofValue axisValue = .ok (face.sight direction).axis →
      Axis.ofValue seenValue = .ok direction.axis →
      1 ≤ start ∧ 1 ≤ count ∧ start + count ≤ (n : Int) - 1 →
      ∃ result, (net.turnSliceFrom faceValue axisValue start count directionValue turns >>=
          (·.refocus faceValue)) = .ok result ∧
        (net.refocus faceValue >>=
          (·.turnSliceFrom frontValue seenValue start count directionValue turns)) =
            .ok result) ∧
    ∃ result, (net.turnWholeFrom faceValue directionValue turns >>= (·.refocus faceValue)) =
        .ok result ∧
      (net.refocus faceValue >>= (·.turnWholeFrom frontValue directionValue turns)) =
        .ok result := by
  have focused := Net.makes_refocus (n := n) faceNamed
  have viewed {start count : Nat} (inside : start + count ≤ n) :
      SemiconjBy (Place.focus face)
        ((face.edge direction).turnFrom n start count ^ (direction.sense * turns))
        ((Face.front.edge direction).turnFrom n start count ^ (direction.sense * turns)) := by
    rw [Face.edge_front, ← face.focus_edge direction]
    exact face.semiconjBy_focus _ inside _
  refine ⟨fun axisValue axis start count axisNamed => ?_,
    fun axisValue seenValue start count axisNamed seenNamed fits => ?_, ?_⟩
  · simp only [Net.turnSliceFrom_eq_ok_iff faceNamed directionNamed valid axisNamed,
      exists_and_left, exists_eq, and_true]
  · rw [direction.axis_eq] at seenNamed
    exact ((Net.makes_turnSliceFrom faceNamed directionNamed axisNamed fits turns).bind
        focused).agree
      (focused.bind (Net.makes_turnSliceFrom frontNamed directionNamed seenNamed fits turns))
      (viewed (by omega)) valid
  · exact ((Net.makes_turnWholeFrom faceNamed directionNamed turns).bind focused).agree
      (focused.bind (Net.makes_turnWholeFrom frontNamed directionNamed turns))
      (viewed (by omega)) valid

theorem turns_look_alike_from_right :
    let cube := (Cube.solved 4).turnFace .front .clockwise
    let net := cube.toNet
    net.read none = .ok ⟨4, cube⟩ ∧
      (∃ turned, net.turnSliceFrom (.text "Right") (.text "Z") 1 1 (.text "Up") 3 = .ok turned) ∧
      (∃ result, (net.turnSliceFrom (.text "Right") (.text "Z") 1 1 (.text "Up") 3 >>=
          (·.refocus (.text "Right"))) = .ok result ∧
        (net.refocus (.text "Right") >>=
          (·.turnSliceFrom (.int 2) (.text "Y") 1 1 (.text "Up") 3)) = .ok result) ∧
      ∃ result, (net.turnWholeFrom (.text "Right") (.text "Up") 3 >>=
          (·.refocus (.text "Right"))) = .ok result ∧
        (net.refocus (.text "Right") >>= (·.turnWholeFrom (.int 2) (.text "Up") 3)) =
          .ok result := by
  intro cube net
  have valid : net.read none = .ok ⟨4, cube⟩ := by rfl
  have faceNamed : Face.ofValue (.text "Right") = .ok .right := rfl
  have frontNamed : Face.ofValue (.int 2) = .ok .front := rfl
  have directionNamed : Direction.ofValue (.text "Up") = .ok .up := rfl
  obtain ⟨accepted, slices, wholes⟩ :=
    turns_look_alike_from_all_faces valid faceNamed frontNamed directionNamed 3
  exact ⟨valid, (accepted (.text "Z") .z 1 1 rfl).mpr (by decide),
    slices (.text "Z") (.text "Y") 1 1 rfl rfl (by decide), wholes⟩

end Cubing
