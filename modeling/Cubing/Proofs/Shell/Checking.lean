import Cubing.Proofs.Puzzle.Batches
import Cubing.Proofs.Shell.Commands
import Cubing.Proofs.Shell.Steps
import Cubing.Proofs.Text.Lines

/-!
# Checking and applying

To check a text of moves is to compile it and to print what it stands for, and to apply it is to
compile it and to do that. The two agree (`Shell.Agree`): a text that cannot be read gets the same
message from both, and the actions listed by the one are those that the other applies.
-/
namespace Cubing

theorem Action.newline_not_mem_text (action : Action) : '\n' ∉ action.text.toList := by
  have ofFace (face : Face) : '\n' ∉ (faceText face).toList := by cases face <;> decide
  have ofAxis (axis : Axis) : '\n' ∉ (axisText axis).toList := by cases axis <;> decide
  have ofTurns (turns : QuarterTurns) : '\n' ∉ (turnsText turns).toList := by
    revert turns
    decide
  have ofInt := newline_not_mem_intText
  -- One piece of the text after the other, either fixed or the text of a field.
  cases action <;> unfold text <;> simp only [String.toList_append, List.mem_append, not_or]
  case turnFace face turns =>
    exact ⟨⟨⟨⟨by decide, ofFace face⟩, by decide⟩, ofTurns turns⟩, by decide⟩
  case turnSlice axis offset count turns =>
    exact ⟨⟨⟨⟨⟨by decide, ofAxis axis⟩, by decide⟩, ofInt offset⟩, by decide⟩,
      ⟨⟨⟨by decide, ofInt count⟩, by decide⟩, ofTurns turns⟩, by decide⟩
  case turnWhole axis turns =>
    exact ⟨⟨⟨⟨by decide, ofAxis axis⟩, by decide⟩, ofTurns turns⟩, by decide⟩
  case focus face turns =>
    exact ⟨⟨⟨⟨by decide, ofFace face⟩, by decide⟩, ofTurns turns⟩, by decide⟩

namespace Shell

variable {shell : Shell}

section Answers

variable {line : String} {command : Command} {argument : String}

theorem attempt_of_call (called : Line.ofText line = .call command argument) :
    shell.attempt line = shell.perform argument command := by
  rw [attempt, called]

theorem uncomplaining_of_ok {response : Response}
    (done : (shell.attempt line).outcome = .ok response)
    (quiet : (shell.attempt line).Uncomplaining) :
    ∀ record ∈ (shell.run line).records, record.level ≠ .error := by
  rw [run_of_ok done]
  exact fun record shown => quiet record (List.mem_filter.mp shown).1

/-- The complaint is the only one, and every journal shows it. -/
theorem complaints_of_error {fault : Fault} (failed : (shell.attempt line).outcome = .error fault)
    (quiet : (shell.attempt line).Uncomplaining) :
    (shell.run line).records.filter (·.level = .error) = [.complained (.failed fault)] := by
  have shown : (Event.complained (.failed fault)).shownAt shell.threshold = true := by
    cases level : shell.threshold <;> rfl
  have others : ((shell.attempt line).events.filter (·.shownAt shell.threshold)).filter
      (·.level = .error) = [] := by
    refine List.filter_eq_nil_iff.mpr fun event member => ?_
    simpa using quiet event (List.mem_filter.mp member).1
  rw [run_of_error failed, Answer.records, List.filter_append, List.filter_append, others,
    List.filter_cons_of_pos shown]
  rfl

end Answers

/-- The lines that tell what a text of moves stands for. -/
def listing (actions : List Action) : List String :=
  s!"{actions.length} action(s)" :: actions.map fun action => "  " ++ action.text

theorem splitOn_listing (actions : List Action) :
    (String.join ((listing actions).map (· ++ "\n"))).toList.splitOn '\n' =
      (listing actions).map String.toList ++ [[]] := by
  refine splitOn_printed (List.forall_mem_cons.mpr ⟨?_, fun line member => ?_⟩)
  · simp only [toString, String.toList_append, List.mem_append, not_or]
    exact ⟨newline_not_mem_natText _, by decide⟩
  · obtain ⟨action, -, rfl⟩ := List.mem_map.mp member
    rw [String.toList_append, List.mem_append, not_or]
    exact ⟨by decide, action.newline_not_mem_text⟩

/-- Is a text printed that tells why some text of moves cannot be read? -/
def PrintsFailure (output : String) : Prop :=
  ∃ failure : Failure, output = failure.message ++ "\n"

theorem not_printsFailure_empty : ¬ PrintsFailure "" := by
  rintro ⟨failure, printed⟩
  simpa using congrArg String.toList printed

/-- A message begins with a letter, and a number does not. -/
theorem not_printsFailure_listing (actions : List Action) :
    ¬ PrintsFailure (String.join ((listing actions).map (· ++ "\n"))) := by
  rintro ⟨failure, printed⟩
  have letter : (failure.message ++ "\n").toList.head? = some 'L' := by
    simp [Failure.message, Failure.summary, toString]
  rw [← printed, listing, List.map_cons, String.join_cons] at letter
  simp only [toString, String.toList_append, List.append_assoc] at letter
  cases digits : actions.length.repr.toList with
  | nil => simp [digits] at letter
  | cons first later =>
    have member : first ∈ (toString actions.length).toList := digits ▸ List.mem_cons_self
    rw [digits, List.cons_append, List.head?_cons] at letter
    cases letter
    exact absurd (isDigit_of_mem_natText member) (by decide)

section Outcomes

variable {text : String} {actions : List Action} {failure : Failure}

theorem check_of_uncompiled (failed : compileMoves text = .error failure) :
    (shell.check text).outcome = .ok ⟨failure.message ++ "\n", false, shell⟩ := by
  rw [check, failed]
  rfl

theorem check_of_compiled (compiled : compileMoves text = .ok actions) :
    (shell.check text).outcome =
      .ok ⟨String.join ((listing actions).map (· ++ "\n")), false, shell⟩ := by
  have heading : s!"{actions.length} action(s)\n" = s!"{actions.length} action(s)" ++ "\n" := by
    apply String.toList_inj.mp
    simp [toString]
  have line (action : Action) : s!"  {action.text}\n" = "  " ++ action.text ++ "\n" := rfl
  rw [check, compiled, listing, List.map_cons, String.join_cons, List.map_map]
  simp only [listed, heading, line]
  rfl

theorem applyText_of_uncompiled (failed : compileMoves text = .error failure) :
    (shell.applyText text).outcome = .ok ⟨failure.message ++ "\n", false, shell⟩ := by
  rw [applyText, Puzzle.applyMoves, failed]
  rfl

theorem applyText_of_compiled (compiled : compileMoves text = .ok actions) :
    (shell.applyText text).outcome =
      (fun puzzle => ⟨"", false, { shell with puzzle }⟩) <$>
        (shell.puzzle.applyAll actions).outcome := by
  rw [applyText, Noted.map, Puzzle.outcome_applyMoves_of_compiled _ compiled, Functor.map_map]
  rfl

/-- The shell notes what the puzzle does. -/
theorem uncomplaining_applyText (shell : Shell) (text : String) :
    (shell.applyText text).Uncomplaining :=
  shell.puzzle.uncomplaining_run (.applyMoves text)

end Outcomes

/-- What comes of applying actions: all of them lead to the next puzzle, or nothing changes and
there is one complaint, about the first that fails. -/
inductive Applies (shell : Shell) (actions : List Action) (answer : Answer) : Prop where
  | succeeds (last : Puzzle) (leads : shell.puzzle.Leads actions last)
    (counted : last.applied = shell.puzzle.applied + actions.length)
    (changed : answer.shell = { shell with puzzle := last })
    (quiet : ∀ record ∈ answer.records, record.level ≠ .error)
  | fails (k : Nat) (fault : Fault) (breaks : shell.puzzle.BreaksAt actions k fault)
    (unchanged : answer.shell = shell)
    (complains : answer.records.filter (·.level = .error) = [.complained (.failed fault)])

/-- What checking a text of moves tells about applying it. -/
structure Agree (shell : Shell) (moves : String) (checked applied : Answer) : Prop where
  answered : checked.uncaught = none ∧ applied.uncaught = none
  unchanged : checked.shell = shell
  fails_iff : PrintsFailure checked.output ↔ PrintsFailure applied.output
  /-- A text that cannot be read gets the same message from both, and changes nothing. -/
  unread : PrintsFailure checked.output →
    applied.output = checked.output ∧ applied.shell = shell ∧
      ∃ failure, readMoves moves = .error failure ∧ checked.output = failure.message ++ "\n"
  /-- What is listed for any other text is what is applied. -/
  read : ¬ PrintsFailure checked.output →
    ∃ actions, compileMoves moves = .ok actions ∧
      checked.output.toList.splitOn '\n' = (listing actions).map String.toList ++ [[]] ∧
      applied.output = "" ∧ shell.Applies actions applied

section Agreement

variable {moves checking applying : String} {actions : List Action}

theorem applies_of_compiled (shell : Shell) (applies : Line.ofText applying = .call .apply moves)
    (compiled : compileMoves moves = .ok actions) :
    (shell.run applying).output = "" ∧ shell.Applies actions (shell.run applying) := by
  have does : shell.attempt applying = shell.applyText moves := attempt_of_call applies
  have quiet : (shell.attempt applying).Uncomplaining := does ▸ shell.uncomplaining_applyText moves
  have outcome : (shell.attempt applying).outcome = _ := does ▸ applyText_of_compiled compiled
  rcases shell.puzzle.leads_or_breaks actions with ⟨last, leads⟩ | ⟨k, fault, breaks⟩
  · have reached := Puzzle.leads_iff.mp leads
    rw [reached] at outcome
    rw [Puzzle.outcome_applyAll] at reached
    obtain ⟨cube, -, rfl⟩ := map_eq_ok.mp reached
    have records := uncomplaining_of_ok outcome quiet
    rw [run_of_ok outcome] at records ⊢
    exact ⟨rfl, .succeeds _ leads rfl rfl records⟩
  · rw [breaks.applyAll] at outcome
    have records := complaints_of_error outcome quiet
    rw [run_of_error outcome] at records ⊢
    exact ⟨rfl, .fails k fault breaks rfl records⟩

theorem agree_of_calls (checks : Line.ofText checking = .call .check moves)
    (applies : Line.ofText applying = .call .apply moves) :
    shell.Agree moves (shell.run checking) (shell.run applying) := by
  have tries : shell.attempt checking = shell.check moves := attempt_of_call checks
  have does : shell.attempt applying = shell.applyText moves := attempt_of_call applies
  cases compiled : compileMoves moves with
  | error failure =>
    rw [run_of_ok (tries ▸ check_of_uncompiled compiled),
      run_of_ok (does ▸ applyText_of_uncompiled compiled)]
    have prints : PrintsFailure (failure.message ++ "\n") := ⟨failure, rfl⟩
    exact {
      answered := ⟨rfl, rfl⟩
      unchanged := rfl
      fails_iff := Iff.rfl
      unread := fun _ => ⟨rfl, rfl, failure, map_eq_error.mp compiled, rfl⟩
      read := fun readable => absurd prints readable }
  | ok actions =>
    obtain ⟨silent, applied⟩ := shell.applies_of_compiled applies compiled
    rw [run_of_ok (tries ▸ check_of_compiled compiled)]
    have lists := not_printsFailure_listing actions
    exact {
      answered := ⟨rfl, uncaught_run shell applying⟩
      unchanged := rfl
      fails_iff := iff_of_false lists (silent ▸ not_printsFailure_empty)
      unread := fun fails => absurd fails lists
      read := fun _ => ⟨actions, compiled, splitOn_listing actions, silent, applied⟩ }

end Agreement

/-- Checking a text of moves leaves the shell as it is, and tells what comes of applying it. If the
text cannot be read, both print the same message and neither changes anything. Otherwise the check
prints how many actions there are and lists them, a line each; applied in order these actions lead
to the next puzzle and are all counted, or one of them fails, is complained about, and nothing has
changed. -/
theorem checking_agrees_with_applying (shell : Shell) (text : String) :
    shell.Agree (Text.trim text) (shell.run ("check " ++ text)) (shell.run ("apply " ++ text)) :=
  agree_of_calls (Line.ofText_command .check text) (Line.ofText_command .apply text)

/-- The slice of a wide turn does not fit the smallest cube. -/
theorem checking_agrees_with_applying_on_wide_turn :
    let small : Shell := ⟨⟨2, .solved 2, 0⟩, .warning, promptFor 2⟩
    let large : Shell := ⟨⟨3, .solved 3, 0⟩, .warning, promptFor 3⟩
    let wide : List Action :=
      [.turnFace .right .clockwise, .turnSlice .y (-2) 1 .clockwise, .turnFace .top .clockwise]
    compileMoves "r U" = .ok wide ∧
      (small.run "check r U").output.toList.splitOn '\n' =
        (listing wide).map String.toList ++ [[]] ∧
      small.Applies wide (small.run "apply r U") ∧
      (small.run "apply r U").shell = small ∧
      large.Applies wide (large.run "apply r U") ∧
      (large.run "apply r U").shell.puzzle.applied = 3 ∧
      PrintsFailure (large.run "check r Q").output ∧
      (large.run "apply r Q").output = (large.run "check r Q").output := by
  intro small large wide
  have compiled : compileMoves "r U" = .ok wide := rfl
  have listed (shell : Shell) : (shell.run "check r U").output.toList.splitOn '\n' =
      (listing wide).map String.toList ++ [[]] ∧ shell.Applies wide (shell.run "apply r U") := by
    have agree : shell.Agree "r U" (shell.run "check r U") (shell.run "apply r U") :=
      checking_agrees_with_applying shell "r U"
    have readable : ¬ PrintsFailure (shell.run "check r U").output := by
      intro fails
      obtain ⟨-, -, failure, failed, -⟩ := agree.unread fails
      cases failed
    obtain ⟨actions, compiled', lines, -, applies⟩ := agree.read readable
    obtain rfl := Except.ok.inj (compiled.symm.trans compiled')
    exact ⟨lines, applies⟩
  have fails : PrintsFailure (large.run "check r Q").output :=
    by_contra fun readable => by
      obtain ⟨actions, compiled', -⟩ := (checking_agrees_with_applying large "r Q").read readable
      cases compiled'
  refine ⟨compiled, (listed small).1, (listed small).2, ?_, (listed large).2, ?_, fails,
    ((checking_agrees_with_applying large "r Q").unread fails).1⟩
  · cases (listed small).2 with
    | succeeds last leads => cases Puzzle.leads_iff.mp leads
    | fails k fault breaks unchanged => exact unchanged
  · cases (listed large).2 with
    | succeeds last leads counted changed =>
      rw [changed]
      exact counted
    | fails k fault breaks => cases breaks.applyAll

end Shell

end Cubing
