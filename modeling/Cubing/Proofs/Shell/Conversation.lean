import Cubing.Proofs.Shell.Sessions

/-!
# Conversations

What is typed is read line by line, and each line is answered after the prompt until one asks to
stop (`Shell.converse_eq`). Only the command that quits asks for this, and a line that fails does
not (`Shell.stop_run`). So a session prints what the lines print one by one, with the prompts before
them, and what is typed later is not looked at.
-/
namespace Cubing.Shell

section Lines

theorem typedLines_append {line : List Char} (whole : '\n' ∉ line) (chars : List Char) :
    typedLines (line ++ '\n' :: chars) = line :: typedLines chars := by
  induction line with
  | nil => rfl
  | cons c line ih =>
    rw [List.mem_cons, not_or] at whole
    rw [List.cons_append, typedLines, if_neg (Ne.symm whole.1), ih whole.2]

/-- Lines as they are typed. -/
def typing (lines : List String) : String := String.join (lines.map (· ++ "\n"))

theorem typedLines_typing {lines : List String} (whole : ∀ line ∈ lines, '\n' ∉ line.toList)
    (later : String) :
    (typedLines (typing lines ++ later).toList).map String.ofList =
      lines ++ (typedLines later.toList).map String.ofList := by
  induction lines with
  | nil => simp [typing]
  | cons line lines ih =>
    obtain ⟨first, rest⟩ := List.forall_mem_cons.mp whole
    have chars : (typing (line :: lines) ++ later).toList =
        line.toList ++ '\n' :: (typing lines ++ later).toList := by
      simp [typing]
    rw [chars, typedLines_append first, List.map_cons, String.ofList_toList, ih rest]
    rfl

end Lines

section Stopping

/-- Does a line ask the shell to stop? -/
def Line.quits : Line → Bool
  | .call .quit _ => true
  | _ => false

/-- Whatever comes of it, the shell is not asked to stop. -/
def GoesOn (noted : Noted Response) : Prop :=
  ∀ response, noted.outcome = .ok response → response.stop = false

variable (shell : Shell)

theorem goesOn_printing (output : String) : GoesOn (shell.printing output) := by
  rintro response ⟨⟩
  rfl

theorem goesOn_complaining (complaint : Complaint) : GoesOn (shell.complaining complaint) := by
  rintro response ⟨⟩
  rfl

theorem goesOn_map {α : Type} {noted : Noted α} {respond : α → Response}
    (goesOn : ∀ value, (respond value).stop = false) : GoesOn (noted.map respond) := by
  intro response done
  obtain ⟨value, -, rfl⟩ := map_eq_ok.mp done
  exact goesOn value

theorem goesOn_applying (action : Except Fault Action) : GoesOn (shell.applying action) := by
  cases action with
  | ok action => exact goesOn_map fun _ => rfl
  | error fault => exact nofun

theorem goesOn_perform (argument : String) {command : Command} (goesOn : command ≠ .quit) :
    GoesOn (shell.perform argument command) := by
  cases command with
  | quit => exact absurd rfl goesOn
  | apply | reset => exact goesOn_map fun _ => rfl
  | help | isSolved | printCube => exact shell.goesOn_printing _
  | focus => exact shell.goesOn_applying _
  | debugLevel =>
    rintro response ⟨⟩
    rfl
  | check =>
    rw [perform, check]
    split
    · exact shell.goesOn_printing _
    · rintro response ⟨⟩
      rfl
  | resize =>
    rw [perform, resize]
    split
    · exact shell.goesOn_complaining _
    · split
      · exact shell.goesOn_complaining _
      · exact goesOn_map fun _ => rfl
  | rotateFace =>
    rw [perform]
    cases Text.words argument with
    | nil => exact shell.goesOn_complaining _
    | cons face rest => exact shell.goesOn_applying _
  | rotateSlice =>
    rw [perform]
    rcases Text.words argument with _ | ⟨axis, _ | ⟨start, _ | ⟨count, rest⟩⟩⟩
    · exact shell.goesOn_complaining _
    · exact shell.goesOn_complaining _
    · exact shell.goesOn_complaining _
    · exact shell.goesOn_applying _
  | rotateCube =>
    rw [perform, rotateCube]
    split
    · exact shell.goesOn_complaining _
    · exact shell.goesOn_applying _

theorem stop_run_of_goesOn {line : String} (goesOn : GoesOn (shell.attempt line)) :
    (shell.run line).stop = false := by
  cases done : (shell.attempt line).outcome with
  | ok response =>
    rw [run_of_ok done]
    exact goesOn response done
  | error fault => rw [run_of_error done]

/-- The shell is asked to stop by the command that quits, and by nothing that fails. -/
theorem stop_run (line : String) : (shell.run line).stop = (Line.ofText line).quits := by
  cases asked : Line.ofText line with
  | empty | unknown =>
    refine shell.stop_run_of_goesOn ?_
    rw [attempt, asked]
    exact shell.goesOn_printing _
  | call command argument =>
    by_cases quits : command = .quit
    · subst quits
      have done : (shell.attempt line).outcome = .ok ⟨"", true, shell⟩ := by
        rw [attempt, asked]
        rfl
      rw [run_of_ok done]
      rfl
    · have goesOn : GoesOn (shell.attempt line) := by
        rw [attempt, asked]
        exact shell.goesOn_perform argument quits
      rw [shell.stop_run_of_goesOn goesOn]
      cases command <;> first | rfl | exact absurd rfl quits

end Stopping

section Runs

variable (shell : Shell)

theorem stops_runAll (lines : List String) :
    (shell.runAll lines).map (·.stop) = lines.map fun line => (Line.ofText line).quits := by
  induction lines generalizing shell with
  | nil => rfl
  | cons line lines ih =>
    rw [runAll_cons, List.map_cons, List.map_cons, stop_run, ih]

theorem runAll_append (lines later : List String) :
    shell.runAll (lines ++ later) = shell.runAll lines ++ (shell.after lines).runAll later := by
  induction lines generalizing shell with
  | nil => rfl
  | cons line lines ih =>
    rw [List.cons_append, runAll_cons, runAll_cons, ih, after_cons, List.cons_append]

theorem Sound.runAll {shell : Shell} (sound : shell.Sound) (lines : List String) :
    ∀ answer ∈ shell.runAll lines, answer.shell.Sound := by
  induction lines generalizing shell with
  | nil => exact fun _ member => absurd member List.not_mem_nil
  | cons line lines ih =>
    rw [runAll_cons]
    exact List.forall_mem_cons.mpr ⟨sound.run line, ih (sound.run line)⟩

/-- What is printed when lines are answered, each after the prompt that the line before has left. -/
def dialogue (answers : List Answer) : String :=
  let prompts := shell.prompt :: answers.map (·.shell.prompt)
  String.join (List.zipWith (fun prompt answer => prompt ++ answer.output) prompts answers)

theorem dialogue_cons (answer : Answer) (answers : List Answer) :
    shell.dialogue (answer :: answers) =
      shell.prompt ++ answer.output ++ answer.shell.dialogue answers :=
  String.join_cons

/-- The induction is on the answers before the first one that asks to stop. -/
theorem converse_eq {lines : List String} {heard unheard : List Answer} {last : Answer}
    (answers : shell.runAll lines = heard ++ last :: unheard)
    (goesOn : ∀ answer ∈ heard, answer.stop = false) (stops : last.stop = true) :
    shell.converse lines =
      (shell.dialogue (heard ++ [last]), (heard ++ [last]).flatMap Answer.journal) := by
  induction heard generalizing shell lines with
  | nil =>
    cases lines with
    | nil => cases answers
    | cons line lines =>
      rw [runAll_cons] at answers
      obtain ⟨rfl, -⟩ := List.cons.inj answers
      rw [converse, stops]
      simp [dialogue]
  | cons first heard ih =>
    cases lines with
    | nil => cases answers
    | cons line lines =>
      rw [runAll_cons] at answers
      obtain ⟨rfl, following⟩ := List.cons.inj answers
      obtain ⟨here, later⟩ := List.forall_mem_cons.mp goesOn
      rw [converse, here, uncaught_run, ih _ following later, List.cons_append, dialogue_cons]
      rfl

/-- Among the answers to lines of which one quits there is a first one that asks to stop. -/
theorem exists_first_stop {lines : List String}
    (quits : ∃ line ∈ lines, (Line.ofText line).quits = true) :
    ∃ heard last unheard, shell.runAll lines = heard ++ last :: unheard ∧
      (∀ answer ∈ heard, answer.stop = false) ∧ last.stop = true := by
  have stops : true ∈ (shell.runAll lines).map (·.stop) := by
    rw [stops_runAll]
    exact List.mem_map.mpr quits
  obtain ⟨last, first⟩ := Option.isSome_iff_exists.mp
    (List.find?_isSome.mpr (List.mem_map.mp stops))
  obtain ⟨stops, heard, unheard, answers, goesOn⟩ := List.find?_eq_some_iff_append.mp first
  exact ⟨heard, last, unheard, answers, by simpa using goesOn, stops⟩

end Runs

/-- Whatever lines are typed, with a line that quits after them, a session answers them one by one
as a new shell does, each after the prompt of the moment. It ends with the first line that quits,
and nothing that is typed later makes a difference. The prompt always tells the size of the
puzzle. -/
theorem sessions_answer_line_by_line (lines : List String) (later : String)
    (whole : ∀ line ∈ lines, '\n' ∉ line.toList) :
    let typed := lines ++ ["quit"]
    ∃ shell heard last unheard,
      Shell.ofSize (.int 3) = .ok shell ∧
      shell.runAll typed = heard ++ last :: unheard ∧
      (∀ answer ∈ heard, answer.stop = false) ∧ last.stop = true ∧
      (shell.runAll typed).map (·.stop) = typed.map (fun line => (Line.ofText line).quits) ∧
      session (typing typed ++ later) =
        .ok (banner ++ shell.dialogue (heard ++ [last]),
          (heard ++ [last]).flatMap Answer.journal) ∧
      shell.prompt = "PUZZLECUBE 3x3> " ∧
      ∀ answer ∈ shell.runAll typed,
        let size := answer.shell.puzzle.size
        answer.shell.prompt = s!"PUZZLECUBE {size}x{size}> " := by
  intro typed
  obtain ⟨shell, made, sound, sized⟩ := exists_ofSize (show 2 ≤ 3 by decide)
  have prompt : shell.prompt = promptFor 3 := by rw [sound.prompt_eq, sized]
  have quits : ∃ line ∈ typed, (Line.ofText line).quits = true :=
    ⟨"quit", List.mem_concat_self, by decide⟩
  obtain ⟨heard, last, unheard, answers, goesOn, stops⟩ := shell.exists_first_stop quits
  refine ⟨shell, heard, last, unheard, made, answers, goesOn, stops, shell.stops_runAll typed, ?_,
    prompt, fun answer member => (sound.runAll typed answer member).prompt_eq⟩
  have whole : ∀ line ∈ typed, '\n' ∉ line.toList :=
    List.forall_mem_append.mpr ⟨whole, by decide⟩
  -- Whatever is typed later is answered behind the first answer that asks to stop.
  have following (rest : List String) : shell.runAll (typed ++ rest) =
      heard ++ last :: (unheard ++ (shell.after typed).runAll rest) := by
    rw [runAll_append, answers, List.append_assoc, List.cons_append]
  have first : ofSize (.int Puzzle.defaultSize) = .ok shell := made
  rw [session, first, typedLines_typing whole]
  exact congrArg (fun heard => Except.ok (banner ++ heard.1, heard.2))
    (shell.converse_eq (following _) goesOn stops)

/-- The second line fails, and the third one quits. -/
theorem sessions_answer_line_by_line_until_early_quit :
    let lines := ["resize 2", "rotate_slice X 1 1", " quit now", "apply R"]
    (∀ line ∈ lines, '\n' ∉ line.toList) ∧
      session (typing (lines ++ ["quit"]) ++ "apply L\n") =
        .ok (banner ++ "PUZZLECUBE 3x3> PUZZLECUBE 2x2> PUZZLECUBE 2x2> ",
          ["ERROR:puzzlecube_cli:InvalidSliceRange: Offset must be in range [1, 0]"]) := by
  intro lines
  have whole : ∀ line ∈ lines, '\n' ∉ line.toList := by decide
  obtain ⟨shell, heard, last, unheard, made, answers, goesOn, stops, flags, printed, -⟩ :=
    sessions_answer_line_by_line lines "apply L\n" whole
  refine ⟨whole, printed.trans ?_⟩
  have start : Shell.ofSize (.int 3) = .ok ⟨⟨3, .solved 3, 0⟩, .warning, promptFor 3⟩ := rfl
  obtain rfl := Except.ok.inj (start.symm.trans made)
  have quits : (lines ++ ["quit"]).map (fun line => (Line.ofText line).quits) =
      [false, false, true, false, true] := by decide
  rw [answers, quits] at flags
  have few : heard.length = 2 := by
    rcases heard with _ | ⟨a, _ | ⟨b, _ | ⟨c, heard⟩⟩⟩ <;> simp_all
  obtain ⟨first, second, rfl⟩ := List.length_eq_two.mp few
  simp only [lines, List.cons_append, List.nil_append, runAll_cons, List.cons.injEq] at answers
  obtain ⟨rfl, rfl, rfl, -⟩ := answers
  have given : (Line.ofText "resize 2").sizeSet? = some 2 := rfl
  rw [run_of_sizeSet? given]
  rfl

end Cubing.Shell
