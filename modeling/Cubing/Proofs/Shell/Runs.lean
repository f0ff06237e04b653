import Cubing.Proofs.Shell.Steps

/-!
# Runs of lines

Lines are answered one after the other, and no line ends the run
(`Shell.getElem?_runAll`). What each line preserves holds after any number of them
(`Shell.holds_after`), and what lines can only set is what the last of them has set
(`Shell.after_eq_last`).
-/
namespace Cubing.Shell

/-- The shell after some lines. -/
def after (shell : Shell) (lines : List String) : Shell :=
  lines.foldl (fun shell line => (shell.run line).shell) shell

@[simp] theorem after_nil (shell : Shell) : shell.after [] = shell := rfl

@[simp] theorem after_cons (shell : Shell) (line : String) (lines : List String) :
    shell.after (line :: lines) = (shell.run line).shell.after lines := rfl

theorem after_concat (shell : Shell) (lines : List String) (line : String) :
    shell.after (lines ++ [line]) = ((shell.after lines).run line).shell :=
  List.foldl_append

section Answers

variable (shell : Shell)

theorem runAll_cons (line : String) (lines : List String) :
    shell.runAll (line :: lines) = shell.run line :: (shell.run line).shell.runAll lines := by
  rw [runAll, uncaught_run]
  rfl

theorem length_runAll (lines : List String) : (shell.runAll lines).length = lines.length := by
  induction lines generalizing shell with
  | nil => rfl
  | cons line lines ih => rw [runAll_cons, List.length_cons, List.length_cons, ih]

/-- A line is answered by the shell that the earlier ones have left. -/
theorem getElem?_runAll (earlier : List String) (line : String) (later : List String) :
    (shell.runAll (earlier ++ line :: later))[earlier.length]? =
      some ((shell.after earlier).run line) := by
  induction earlier generalizing shell with
  | nil => rw [List.nil_append, runAll_cons, List.length_nil, List.getElem?_cons_zero, after_nil]
  | cons first earlier ih =>
    rw [List.cons_append, runAll_cons, List.length_cons, List.getElem?_cons_succ, ih, after_cons]

end Answers

section Invariants

variable {P : Shell → Prop} (kept : ∀ shell text, P shell → P (shell.run text).shell)
include kept

theorem holds_after {shell : Shell} (holds : P shell) (lines : List String) :
    P (shell.after lines) := by
  induction lines generalizing shell with
  | nil => exact holds
  | cons line lines ih => exact ih (kept shell line holds)

theorem after_eq_last {α : Type} (value : Shell → α) (set? : Line → Option α)
    (sets : ∀ shell text, P shell →
      value (shell.run text).shell = (set? (Line.ofText text)).getD (value shell))
    {shell : Shell} (holds : P shell) (lines : List String) :
    value (shell.after lines) =
      (lines.filterMap fun line => set? (Line.ofText line)).getLastD (value shell) := by
  induction lines generalizing shell with
  | nil => rfl
  | cons line lines ih =>
    rw [after_cons, ih (kept shell line holds), sets shell line holds, List.filterMap_cons]
    cases set? (Line.ofText line) with
    | none => rfl
    | some last => rw [List.getLastD_cons, Option.getD_some]

end Invariants

end Cubing.Shell
