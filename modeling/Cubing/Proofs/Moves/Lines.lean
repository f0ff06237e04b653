import Cubing.Proofs.Moves.Viability
import Cubing.Proofs.Text.Lines

/-!
# Lines and columns

The position of a failure is in one of the lines of the text: the lines above it, each with the
newline after it, and the part of the line itself before the position come to the position
(`Failure.exists_lines`). So line and column are those of a place in the text, and of no other
(`Failure.position_eq`), and the caret of the message is under the character at the position.
-/
namespace Cubing

namespace Failure

variable {failure other : Failure}

/-- The part of the line before the position has no newline in it, and comes after one or at the
beginning of the text. -/
theorem before_cases (failure : Failure) :
    '\n' ∉ failure.lead ∧ (failure.before = failure.lead ∨
      ∃ above, failure.before = above ++ '\n' :: failure.lead) := by
  obtain ⟨free, cases⟩ := takeWhile_cases '\n' failure.before.reverse
  refine ⟨by simpa [lead] using free, cases.imp (fun whole => ?_) fun ⟨later, cut⟩ => ?_⟩
  · rw [lead, ← whole, List.reverse_reverse]
  · refine ⟨later.reverse, ?_⟩
    rw [← failure.before.reverse_reverse, cut, lead]
    simp

/-- The line that the position is in stands among the lines of the text. -/
theorem exists_lines (inside : failure.position ≤ failure.text.length) :
    ∃ above below, failure.text.splitOn '\n' = above ++ failure.lineText :: below ∧
      failure.line = above.length + 1 ∧
      (above.map fun line => line.length + 1).sum + failure.lead.length = failure.position := by
  have position : failure.before.length = failure.position := List.length_take_of_le inside
  have text : failure.text = failure.before ++ failure.text.drop failure.position :=
    (List.take_append_drop ..).symm
  obtain ⟨free, first | ⟨above, later⟩⟩ := failure.before_cases
  -- On the first line there is nothing above.
  · obtain ⟨below, lines⟩ := exists_splitOn_append free (failure.text.drop failure.position)
    refine ⟨[], below, ?_, ?_, ?_⟩
    · rw [text, first]
      exact lines
    · rw [line, first, List.count_eq_zero_of_not_mem free]
      rfl
    · rw [← first, position]
      exact Nat.zero_add _
  · obtain ⟨below, lines⟩ := exists_splitOn_append free (failure.text.drop failure.position)
    refine ⟨above.splitOn '\n', below, ?_, ?_, ?_⟩
    · rw [text, later, List.append_assoc, List.cons_append, List.splitOn_append_cons_self]
      exact congrArg _ lines
    · rw [line, later, length_splitOn, List.count_append, List.count_cons_self,
        List.count_eq_zero_of_not_mem free]
    · rw [sum_length_splitOn, ← position, later, List.length_append, List.length_cons]
      omega

/-- Line and column tell the position in a text. -/
theorem position_eq (text : other.text = failure.text)
    (inside : failure.position ≤ failure.text.length) (inside' : other.position ≤ other.text.length)
    (sameLine : other.line = failure.line) (sameColumn : other.column = failure.column) :
    other.position = failure.position := by
  obtain ⟨above, below, lines, line, position⟩ := exists_lines inside
  obtain ⟨above', below', lines', line', position'⟩ := exists_lines inside'
  rw [text, lines] at lines'
  obtain rfl := List.append_inj_left lines' (by omega)
  simp only [column] at sameColumn
  omega

/-- The character at the position stands in the line where the column says. -/
theorem getElem?_lineText {c : Char} (here : failure.text[failure.position]? = some c)
    (ordinary : c ≠ '\n') : failure.lineText[failure.column - 1]? = some c := by
  rw [← List.head?_drop] at here
  obtain ⟨later, rest⟩ := List.head?_eq_some_iff.mp here
  rw [lineText, column, Nat.add_sub_cancel, List.getElem?_append_right le_rfl, Nat.sub_self, rest,
    List.takeWhile_cons_of_pos (by simpa using ordinary)]
  rfl

/-- The line ends at the position if there is a newline or nothing more. -/
theorem length_lineText (ends : ∀ c ∈ failure.text[failure.position]?, c = '\n') :
    failure.lineText.length = failure.column - 1 := by
  rw [← List.head?_drop] at ends
  rw [lineText, column, Nat.add_sub_cancel]
  cases rest : failure.text.drop failure.position with
  | nil => rw [List.takeWhile_nil, List.append_nil]
  | cons c later =>
    obtain rfl := ends c (by rw [rest]; rfl)
    rw [List.takeWhile_cons_of_neg (by simp), List.append_nil]

theorem message_eq (failure : Failure) :
    failure.message = failure.summary ++ "\n" ++ ("> " ++ String.ofList failure.lineText) ++ "\n" ++
      String.ofList (List.replicate (2 + (failure.column - 1)) ' ') ++ "^" := by
  apply String.toList_inj.mp
  simp [message, toString, List.replicate_add, List.replicate_succ]

end Failure

/-- A text that cannot be read fails at a line of the text, and in this line: the lines above, each
with its newline, and the part of the line before the column come to the position, and no other
position has the same line and column. The message shows the line, with a caret below the character
at the position, or just after the end of the line if no character of the line is there. -/
theorem failure_points_at_position {text : String} {failure : Failure}
    (failed : readMoves text = .error failure) :
    let lines := text.toList.splitOn '\n'
    ∃ line, lines[failure.line - 1]? = some line ∧
      1 ≤ failure.line ∧ failure.line ≤ lines.length ∧
      1 ≤ failure.column ∧ failure.column - 1 ≤ line.length ∧
      failure.position ≤ text.length ∧
      ((lines.take (failure.line - 1)).map fun line => line.length + 1).sum +
        (failure.column - 1) = failure.position ∧
      (∀ first second : Failure, first.text = text.toList → second.text = text.toList →
        first.position ≤ text.length → second.position ≤ text.length →
        first.position ≠ second.position →
        (first.line, first.column) ≠ (second.line, second.column)) ∧
      ∃ excerpt margin, excerpt = "> " ++ String.ofList line ∧
        margin = String.ofList (List.replicate (2 + (failure.column - 1)) ' ') ∧
        failure.message =
          failure.summary ++ "\n" ++ excerpt ++ "\n" ++ margin ++ "^" ∧
        (∀ c, text.toList[failure.position]? = some c → c ≠ '\n' →
          excerpt.toList[margin.length]? = some c) ∧
        ((∀ c, text.toList[failure.position]? = some c → c = '\n') →
          margin.length = excerpt.length) := by
  intro lines
  obtain ⟨ours, inside⟩ :
      failure.text = text.toList ∧ failure.position ≤ failure.text.length := by
    obtain ⟨word, rest, reader, split, -, -, -, rfl⟩ := readMoveChars_eq_error failed
    exact ⟨rfl, by simp [split]⟩
  obtain ⟨above, below, split, line, position⟩ := Failure.exists_lines inside
  have split' : lines = above ++ failure.lineText :: below := by rw [← split, ours]
  have column : failure.column = failure.lead.length + 1 := rfl
  refine ⟨failure.lineText, ?_, by omega, ?_, by omega, ?_, ?_, ?_, ?_, _, _, rfl, rfl,
    failure.message_eq, ?_, ?_⟩
  · rw [split', line, Nat.add_sub_cancel, List.getElem?_append_right le_rfl, Nat.sub_self]
    rfl
  · rw [split', List.length_append, List.length_cons]
    omega
  · rw [column, Nat.add_sub_cancel, Failure.lineText, List.length_append]
    exact Nat.le_add_right ..
  · rwa [ours, String.length_toList] at inside
  · rw [split', line, column, Nat.add_sub_cancel, Nat.add_sub_cancel, List.take_left, position]
  · intro first second text' text'' inside' inside'' distinct same
    obtain ⟨sameLine, sameColumn⟩ := Prod.mk.inj same
    rw [← String.length_toList] at inside' inside''
    exact distinct (Failure.position_eq (text'.trans text''.symm) (text'' ▸ inside'')
      (text' ▸ inside') sameLine sameColumn)
  · intro c here ordinary
    rw [← ours] at here
    simpa [Nat.add_comm 2] using Failure.getElem?_lineText here ordinary
  · intro ends
    rw [← ours] at ends
    have reach := Failure.length_lineText ends
    have mark : "> ".length = 2 := rfl
    simp only [String.length_append, String.length_ofList, List.length_replicate, reach, mark]

theorem failure_points_at_position_on_second_line :
    ∃ failure, readMoves "R U\n  R Q'\nF" = .error failure ∧ failure.position = 8 ∧
      failure.line = 2 ∧ failure.column = 5 ∧
      ∃ excerpt margin, excerpt = "> " ++ "  R Q'" ∧
        failure.message = failure.summary ++ "\n" ++ excerpt ++ "\n" ++ margin ++ "^" ∧
        excerpt.toList[margin.length]? = some 'Q' := by
  obtain ⟨failure, failed, position, line, column⟩ : ∃ failure,
      readMoves "R U\n  R Q'\nF" = .error failure ∧ failure.position = 8 ∧ failure.line = 2 ∧
        failure.column = 5 := ⟨_, rfl, rfl, rfl, rfl⟩
  obtain ⟨shown, at', -, -, -, -, -, -, -, excerpt, margin, shows, -, message, under, -⟩ :=
    failure_points_at_position failed
  rw [line] at at'
  obtain rfl : "  R Q'".toList = shown := Option.some.inj at'
  rw [position] at under
  refine ⟨failure, failed, position, line, column, excerpt, margin, ?_, message,
    under 'Q' rfl (by decide)⟩
  rw [shows, String.ofList_toList]

end Cubing
