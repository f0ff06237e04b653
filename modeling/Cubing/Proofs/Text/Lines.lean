import Mathlib.Algebra.BigOperators.Group.List.Basic
import Mathlib.Algebra.GroupWithZero.Nat

/-!
# The lines of a text

A text that is split at a separator has one line more than separators, and the lines with their
separators are as long as the text with one more (`length_splitOn`, `sum_length_splitOn`). What is
printed line by line is split into these lines again (`splitOn_printed`), as long as no newline
is in a line; there is none in a number.
-/
namespace Cubing

section Splitting

variable {sep : Char}

theorem length_splitOn (chars : List Char) :
    (chars.splitOn sep).length = chars.count sep + 1 := by
  induction chars with
  | nil => rfl
  | cons c chars ih =>
    rw [List.splitOn_cons_eq_if_modifyHead, List.count_cons]
    split
    · rw [List.length_cons, ih]
    · rw [List.length_modifyHead, ih, Nat.add_zero]

/-- The lines of a text, each with a separator after it, are as long as the text and a separator. -/
theorem sum_length_splitOn (chars : List Char) :
    ((chars.splitOn sep).map fun line => line.length + 1).sum = chars.length + 1 := by
  induction chars with
  | nil => rfl
  | cons c chars ih =>
    rw [List.splitOn_cons_eq_if_modifyHead, List.length_cons, ← ih]
    split
    · rw [List.map_cons, List.sum_cons, List.length_nil]
      omega
    · -- The character makes the first line longer.
      obtain ⟨first, lines, split⟩ := List.exists_cons_of_ne_nil (List.splitOn_ne_nil sep chars)
      simp only [split, List.modifyHead_cons, List.map_cons, List.sum_cons, List.length_cons]
      omega

/-- A text up to its first separator, if it has one. -/
theorem takeWhile_cases (sep : Char) (chars : List Char) :
    sep ∉ chars.takeWhile (· ≠ sep) ∧ (chars = chars.takeWhile (· ≠ sep) ∨
      ∃ later, chars = chars.takeWhile (· ≠ sep) ++ sep :: later) := by
  induction chars with
  | nil => exact ⟨List.not_mem_nil, .inl rfl⟩
  | cons c chars ih =>
    by_cases ends : c = sep
    · subst ends
      simp
    · obtain ⟨free, cases⟩ := ih
      rw [List.takeWhile_cons_of_pos (by simpa using ends)]
      refine ⟨List.not_mem_cons_of_ne_of_not_mem (Ne.symm ends) free, cases.imp ?_ ?_⟩
      · exact congrArg (List.cons c)
      · rintro ⟨later, cut⟩
        exact ⟨later, congrArg (List.cons c) cut⟩

/-- Without a separator at the beginning, the first line goes on to the first separator after it. -/
theorem exists_splitOn_append {lead : List Char} (free : sep ∉ lead) (rest : List Char) :
    ∃ below, (lead ++ rest).splitOn sep = (lead ++ rest.takeWhile (· ≠ sep)) :: below := by
  obtain ⟨free', whole | ⟨later, cut⟩⟩ := takeWhile_cases sep rest
  · refine ⟨[], ?_⟩
    rw [← whole] at free' ⊢
    exact List.splitOn_eq_singleton fun member => (List.mem_append.mp member).elim free free'
  · refine ⟨later.splitOn sep, ?_⟩
    conv_lhs => rw [cut, ← List.append_assoc]
    exact List.splitOn_append_cons_self_of_not_mem
      (fun member => (List.mem_append.mp member).elim free free') later

end Splitting

section Printing

/-- Printed lines are the lines of what is printed, with nothing after the last newline. -/
theorem splitOn_printed {lines : List String} (whole : ∀ line ∈ lines, '\n' ∉ line.toList) :
    (String.join (lines.map (· ++ "\n"))).toList.splitOn '\n' =
      lines.map String.toList ++ [[]] := by
  induction lines with
  | nil => rfl
  | cons line lines ih =>
    obtain ⟨first, later⟩ := List.forall_mem_cons.mp whole
    rw [List.map_cons, List.map_cons, String.join_cons, String.toList_append, String.toList_append,
      List.append_assoc, List.cons_append, ← ih later]
    exact List.splitOn_append_cons_self_of_not_mem first _

theorem isDigit_of_mem_natText {number : Nat} {c : Char} (member : c ∈ (toString number).toList) :
    c.isDigit = true := by
  rw [Nat.toString_eq_repr, Nat.toList_repr] at member
  exact Nat.isDigit_of_mem_toDigits (by decide) (by decide) member

theorem newline_not_mem_natText (number : Nat) : '\n' ∉ (toString number).toList :=
  fun member => absurd (isDigit_of_mem_natText member) (by decide)

theorem newline_not_mem_intText (number : Int) : '\n' ∉ (toString number).toList := by
  rw [Int.toString_eq_repr, Int.repr_eq_if]
  split
  · exact newline_not_mem_natText _
  · rw [String.toList_append, List.mem_append, not_or]
    exact ⟨by decide, newline_not_mem_natText _⟩

end Printing

end Cubing
