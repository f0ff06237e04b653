import Cubing.Proofs.Shell.Methods
import Cubing.Proofs.Shell.Runs

/-!
# Sessions

A session begins with a solved cube, and whatever lines are given to it, the puzzle
stays a valid cube and the prompt tells its size (`Shell.Sound`): this holds at the
beginning, and every line preserves it (`Shell.Sound.run`).
-/
namespace Cubing

namespace Shell

/-- The puzzle is a cube, and the prompt tells its size. -/
structure Sound (shell : Shell) : Prop where
  valid : shell.puzzle.Valid
  prompt_eq : shell.prompt = promptFor shell.puzzle.size

/-- A session begins with a solved cube of the size asked for. -/
theorem exists_ofSize {size : Nat} (large : 2 ≤ size) :
    ∃ shell, Shell.ofSize (.int size) = .ok shell ∧ shell.Sound ∧ shell.puzzle.size = size := by
  have made := Puzzle.ofSize_of_large large
  exact ⟨_, map_eq_ok.mpr ⟨_, made, rfl⟩, ⟨⟨large, Cube.balanced_solved⟩, rfl⟩, rfl⟩

namespace Sound

variable {shell : Shell} (sound : shell.Sound)
include sound

theorem size_run (text : String) :
    (shell.run text).shell.puzzle.size =
      (Line.ofText text).sizeSet?.getD shell.puzzle.size := by
  cases given : (Line.ofText text).sizeSet? with
  | some size =>
    rw [run_of_sizeSet? given]
    rfl
  | none =>
    rw [shell_run, heeding]
    cases named : (Line.ofText text).step? with
    | none => rfl
    | some step =>
      refine sound.valid.size_next fun size resizes => ?_
      obtain ⟨size, given'⟩ := Line.exists_sizeSet? (resizes ▸ named)
      rw [given] at given'
      cases given'

theorem run (text : String) : (shell.run text).shell.Sound := by
  have sized := sound.size_run text
  constructor
  · rw [shell_run, heeding]
    cases (Line.ofText text).step? with
    | none => exact sound.valid
    | some step => exact sound.valid.next step
  · rw [sized, shell_run, heeding]
    cases (Line.ofText text).sizeSet? with
    | none => exact sound.prompt_eq
    | some size => rfl

/-- A line that leaves the puzzle alone leaves the prompt alone. -/
theorem prompt_run {text : String} (same : (shell.run text).shell.puzzle = shell.puzzle) :
    (shell.run text).shell.prompt = shell.prompt := by
  rw [(sound.run text).prompt_eq, same, sound.prompt_eq]

theorem after (lines : List String) : (shell.after lines).Sound :=
  holds_after (fun _ text sound => sound.run text) sound lines

theorem size_after (lines : List String) :
    (shell.after lines).puzzle.size =
      (lines.filterMap fun line => (Line.ofText line).sizeSet?).getLastD shell.puzzle.size :=
  after_eq_last (fun _ text sound => sound.run text) (fun shell => shell.puzzle.size)
    Line.sizeSet? (fun _ text sound => sound.size_run text) sound lines

/-- Carried out on the fields of the shell, lines leave what their answers leave, note and print. -/
theorem fields_after (lines : List String) (notes : List Event) (output : String) :
    (shell.fields notes output).after lines =
      (shell.after lines).fields
        (notes ++ (shell.runAll lines).flatMap fun answer => answer.events)
        (output ++ String.join ((shell.runAll lines).map fun answer => answer.output)) := by
  induction lines generalizing shell notes output with
  | nil =>
    rw [runAll, List.flatMap_nil, List.append_nil, List.map_nil, String.join_nil,
      String.append_empty]
    rfl
  | cons line lines ih =>
    have later := ih (sound.run line) (notes ++ (shell.run line).events)
      (output ++ (shell.run line).output)
    rw [Fields.after, List.foldl_cons, Method.run_fields sound.valid line notes output]
    refine later.trans ?_
    rw [runAll_cons, List.flatMap_cons, List.map_cons, String.join_cons, List.append_assoc,
      String.append_assoc]
    rfl

/-- The size of the puzzle is the first one, or has been set by a line. -/
theorem size_eq_or_set (lines : List String) :
    (shell.after lines).puzzle.size = shell.puzzle.size ∨
      ∃ line ∈ lines, (Line.ofText line).sizeSet? = some (shell.after lines).puzzle.size := by
  rw [sound.size_after]
  rcases List.mem_cons.mp List.getLastD_mem_cons with first | set
  · exact .inl first
  · exact .inr (List.mem_filterMap.mp set)

end Sound

namespace Line

/-- Does a line ask nothing of the puzzle, or nothing that can be read? -/
def Idle : Line → Prop
  | .empty | .unknown _ => True
  | .call .apply text => ∃ failure, readMoves text = .error failure
  | .call command _ => command ∈ [.check, .debugLevel, .help, .isSolved, .printCube, .quit]

theorem Idle.puzzle_heeding {line : Line} (idle : line.Idle) (shell : Shell) :
    (shell.heeding line).puzzle = shell.puzzle := by
  cases line with
  | empty | unknown => rfl
  | call command argument =>
    cases command
    case apply =>
      obtain ⟨failure, unread⟩ := idle
      exact Puzzle.next_of_unread unread
    case check | debugLevel | help | isSolved | printCube | quit => rfl
    all_goals simp [Idle] at idle

end Line

/-- However a session goes on after it has begun with a puzzle of any size, each line is answered,
the puzzle stays a cube and the prompt tells its size, which is the first one or has been set by a
line. A line that complains, cannot be read or asks for nothing leaves puzzle and prompt as they
were; another one changes the puzzle only by the step that it names. The fields of the shell, which
are assigned one after the other and kept when a line fails, come to the same. -/
theorem sessions_keep_puzzle_and_prompt {size : Nat} (large : 2 ≤ size) :
    ∃ shell, Shell.ofSize (.int size) = .ok shell ∧
      ∀ (earlier : List String) (line : String) (later : List String),
        let answers := shell.runAll (earlier ++ line :: later)
        let given := shell.runAll (earlier ++ [line])
        let before := shell.after earlier
        let answer := before.run line
        let puzzle := answer.shell.puzzle
        answers.length = (earlier ++ line :: later).length ∧
          answers[earlier.length]? = some answer ∧
          answer.uncaught = none ∧
          puzzle.cube.toNet.validate none = .ok puzzle.size ∧
          answer.shell.prompt = s!"PUZZLECUBE {puzzle.size}x{puzzle.size}> " ∧
          (puzzle.size = size ∨
            ∃ resizing ∈ earlier ++ [line], ∃ argument,
              Line.ofText resizing = .call .resize argument ∧
                readInt argument = .ok (puzzle.size : Int) ∧ 2 ≤ puzzle.size ∧ puzzle.size ≤ 9) ∧
          ((∃ record ∈ answer.records, record.level = .error) ∨ (Line.ofText line).Idle →
            puzzle = before.puzzle ∧ answer.shell.prompt = before.prompt) ∧
          puzzle = (Line.ofText line).step?.elim before.puzzle before.puzzle.next ∧
          (shell.fields [] "").after (earlier ++ [line]) =
            answer.shell.fields (given.flatMap fun answer => answer.events)
              (String.join (given.map fun answer => answer.output)) := by
  obtain ⟨shell, made, start, sized⟩ := exists_ofSize large
  refine ⟨shell, made, fun earlier line later => ?_⟩
  intro answers given before answer puzzle
  have reached : shell.after (earlier ++ [line]) = answer.shell := after_concat ..
  have sound : answer.shell.Sound := reached ▸ start.after _
  have heeds : answer.shell = before.heeding (Line.ofText line) := shell_run before line
  refine ⟨shell.length_runAll _, shell.getElem?_runAll .., uncaught_run before line,
    sound.valid.validate_eq_ok, sound.prompt_eq, ?_, fun idle => ?_,
    congrArg Shell.puzzle heeds, ?_⟩
  · have sizes := start.size_eq_or_set (earlier ++ [line])
    rw [reached] at sizes
    rcases sizes with first | ⟨resizing, member, given⟩
    · exact .inl (first.trans sized)
    · exact .inr ⟨resizing, member, Line.sizeSet?_eq_some.mp given⟩
  · have same : answer.shell.puzzle = before.puzzle := by
      rcases idle with ⟨record, shown, complaint⟩ | idle
      · exact before.puzzle_run_of_complaint line
          ⟨record, (List.mem_filter.mp shown).1, complaint⟩
      · rw [heeds, idle.puzzle_heeding]
    exact ⟨same, (start.after earlier).prompt_run same⟩
  · have carried := start.fields_after (earlier ++ [line]) [] ""
    rwa [List.nil_append, String.empty_append, reached] at carried

theorem sessions_keep_puzzle_and_prompt_after_failing_slice :
    ∃ shell, Shell.ofSize (.int 3) = .ok shell ∧
      let before := shell.after ["resize 2"]
      let answer := before.run "rotate_slice X 1 1"
      (shell.runAll ["resize 2", "rotate_slice X 1 1", "apply R"])[1]? = some answer ∧
        answer.journal =
          ["ERROR:puzzlecube_cli:InvalidSliceRange: Offset must be in range [1, 0]"] ∧
        answer.shell.puzzle = before.puzzle ∧ answer.shell.prompt = "PUZZLECUBE 2x2> " := by
  obtain ⟨shell, made, keeps⟩ := sessions_keep_puzzle_and_prompt (show 2 ≤ 3 by decide)
  obtain ⟨-, answered, -, -, -, -, unchanged, -, -⟩ :=
    keeps ["resize 2"] "rotate_slice X 1 1" ["apply R"]
  have start : Shell.ofSize (.int 3) = .ok ⟨⟨3, .solved 3, 0⟩, .warning, promptFor 3⟩ := rfl
  obtain rfl := Except.ok.inj (start.symm.trans made)
  have given : (Line.ofText "resize 2").sizeSet? = some 2 := rfl
  have smaller : (⟨⟨3, .solved 3, 0⟩, .warning, promptFor 3⟩ : Shell).after ["resize 2"] =
      ⟨⟨2, .solved 2, 0⟩, .warning, promptFor 2⟩ := by
    rw [after_cons, run_of_sizeSet? given, after_nil]
  rw [smaller] at answered unchanged
  have complains : ∃ record ∈ [Event.complained (.failed (.sliceStart 2))],
      record.level = .error := ⟨_, List.mem_singleton_self _, rfl⟩
  obtain ⟨puzzle, prompt⟩ := unchanged (.inl complains)
  refine ⟨_, made, ?_⟩
  rw [smaller]
  exact ⟨answered, rfl, puzzle, prompt⟩

end Shell

end Cubing
