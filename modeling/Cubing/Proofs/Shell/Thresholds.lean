import Cubing.Proofs.Shell.Runs

/-!
# Thresholds

The threshold of a shell decides which events are shown, and nothing else: under
another threshold a line does the same and notes the same (`Shell.run_withThreshold`).
So lines that only set the threshold can be put anywhere among other lines without a
difference to these but in what is shown of their events (`Shell.Alike.after`).
-/
namespace Cubing.Shell

/-- The same shell with another threshold. -/
def withThreshold (shell : Shell) (threshold : Level) : Shell := { shell with threshold }

def Response.withThreshold (response : Response) (threshold : Level) : Response :=
  { response with shell := response.shell.withThreshold threshold }

def Answer.withThreshold (answer : Answer) (threshold : Level) : Answer :=
  { answer with toResponse := answer.toResponse.withThreshold threshold }

section Indifference

variable (shell : Shell) (level : Level)

theorem applying_withThreshold (action : Except Fault Action) :
    (shell.withThreshold level).applying action =
      (shell.applying action).map (·.withThreshold level) := by
  cases action with
  | error fault => rfl
  | ok action =>
    simp only [applying, changing, Noted.map_map]
    rfl

/-- No command but one looks at the threshold. -/
theorem perform_withThreshold (argument : String) {command : Command}
    (ordinary : command ≠ .debugLevel) :
    (shell.withThreshold level).perform argument command =
      (shell.perform argument command).map (·.withThreshold level) := by
  cases command with
  | debugLevel => exact absurd rfl ordinary
  | help | isSolved | printCube | quit | reset => rfl
  | apply =>
    simp only [perform, applyText, Noted.map_map]
    rfl
  | check =>
    simp only [perform, check]
    split <;> rfl
  | resize =>
    simp only [perform, resize]
    split
    · rfl
    · split
      · rfl
      · rw [Noted.map_map]
        rfl
  | focus => exact applying_withThreshold ..
  | rotateFace =>
    simp only [perform, rotateFace]
    split
    · rfl
    · exact applying_withThreshold ..
  | rotateSlice =>
    simp only [perform, rotateSlice]
    split
    · exact applying_withThreshold ..
    · rfl
  | rotateCube =>
    simp only [perform, rotateCube]
    split
    · rfl
    · exact applying_withThreshold ..

/-- A line does the same under every threshold, and leaves the threshold that it has set. -/
theorem run_withThreshold (text : String) :
    (shell.withThreshold level).run text =
      (shell.run text).withThreshold ((Line.ofText text).levelSet?.getD level) := by
  rw [run, run, attempt, attempt]
  cases Line.ofText text with
  | empty | unknown => rfl
  | call command argument =>
    by_cases sets : command = .debugLevel
    · subst sets
      rfl
    · have unset : (Line.call command argument).levelSet? = none := by
        rw [Option.eq_none_iff_forall_ne_some]
        intro threshold set
        obtain ⟨_, ⟨⟩, -⟩ := Line.levelSet?_eq_some.mp set
        exact sets rfl
      rw [unset]
      simp only [perform_withThreshold shell level argument sets, Noted.map]
      cases (shell.perform argument command).outcome with
      | ok response => rfl
      | error fault =>
        simp only [Functor.map, Except.map]
        split <;> rfl

end Indifference

section Shown

/-- A line that sets the threshold does nothing else. -/
theorem run_of_debugLevel (shell : Shell) {text argument : String}
    (sets : Line.ofText text = .call .debugLevel argument) :
    shell.run text =
      ⟨⟨"", false, shell.withThreshold ((levelIn? argument).getD shell.threshold)⟩, [], none⟩ := by
  rw [run, attempt, sets]
  rfl

/-- Among the events that a line notes, those at the threshold and above are shown. -/
theorem records_run (shell : Shell) (text : String) :
    (shell.run text).records =
      ((shell.withThreshold .debug).run text).records.filter (·.shownAt shell.threshold) := by
  have everything (events : List Event) : events.filter (·.shownAt .debug) = events :=
    List.filter_eq_self.mpr fun event _ => by cases event <;> rfl
  rw [run_withThreshold]
  cases set : (Line.ofText text).levelSet? with
  | none =>
    have same : (shell.run text).shell.threshold = shell.threshold := by
      rw [shell_run, heeding, set]
      rfl
    rw [Answer.records, same]
    exact congrArg _ (everything _).symm
  | some level =>
    -- Nothing is noted, so nothing is shown.
    obtain ⟨argument, sets, -⟩ := Line.levelSet?_eq_some.mp set
    rw [run_of_debugLevel shell sets]
    rfl

end Shown

/-- Two shells that differ in nothing but their thresholds. -/
structure Alike (shell other : Shell) : Prop where
  puzzle_eq : other.puzzle = shell.puzzle
  prompt_eq : other.prompt = shell.prompt

namespace Alike

variable {shell other : Shell} (alike : Alike shell other)
include alike

theorem withThreshold_eq (level : Level) :
    other.withThreshold level = shell.withThreshold level := by
  rw [withThreshold, withThreshold, alike.puzzle_eq, alike.prompt_eq]

theorem run_eq (text : String) :
    other.run text =
      (shell.run text).withThreshold ((Line.ofText text).levelSet?.getD other.threshold) := by
  rw [← run_withThreshold, ← alike.withThreshold_eq]
  rfl

theorem run (text : String) : Alike (shell.run text).shell (other.run text).shell := by
  rw [alike.run_eq]
  exact ⟨rfl, rfl⟩

end Alike

/-- A line of the longer of two sessions: one that both have, or one that sets the threshold and
has been put in between. -/
inductive Entry where
  | shared (line : String)
  | inserted (line argument : String) (sets : Line.ofText line = .call .debugLevel argument)

namespace Entry

def line : Entry → String
  | shared line | inserted line _ _ => line

def shared? : Entry → Option String
  | shared line => some line
  | inserted _ _ _ => none

end Entry

/-- The lines of the longer session. -/
def longer (entries : List Entry) : List String := entries.map Entry.line

/-- The lines of the shorter session. -/
def shorter (entries : List Entry) : List String := entries.filterMap Entry.shared?

theorem Alike.after {shell other : Shell} (alike : Alike shell other) (entries : List Entry) :
    Alike (shell.after (shorter entries)) (other.after (longer entries)) := by
  induction entries generalizing shell other with
  | nil => exact alike
  | cons entry entries ih =>
    cases entry with
    | shared line => exact ih (alike.run line)
    | inserted line argument sets =>
      have still : Alike shell (other.run line).shell := by
        rw [run_of_debugLevel other sets]
        exact ⟨alike.puzzle_eq, alike.prompt_eq⟩
      exact ih still

/-- The threshold in force after some lines: the last that has been set. -/
def thresholdAfter (first : Level) (lines : List String) : Level :=
  (lines.filterMap fun line => (Line.ofText line).levelSet?).getLastD first

theorem threshold_after (shell : Shell) (lines : List String) :
    (shell.after lines).threshold = thresholdAfter shell.threshold lines :=
  after_eq_last (P := fun _ => True) (fun _ _ _ => trivial) threshold Line.levelSet?
    (fun shell text _ => by rw [shell_run]; rfl) trivial lines

theorem threshold_of_ofSize {shell : Shell} {size : Value} (made : Shell.ofSize size = .ok shell) :
    shell.threshold = .warning := by
  obtain ⟨puzzle, -, rfl⟩ := map_eq_ok.mp made
  rfl

theorem shorter_split (earlier : List Entry) (line : String) (later : List Entry) :
    shorter (earlier ++ .shared line :: later) = shorter earlier ++ line :: shorter later :=
  List.filterMap_append

theorem longer_split (earlier : List Entry) (line : String) (later : List Entry) :
    longer (earlier ++ .shared line :: later) = longer earlier ++ line :: longer later :=
  List.map_append

/-- Lines that set the threshold can be put anywhere into a session. Each of its other lines
prints, stops, prompts and changes the puzzle as before, and of one and the same list of events,
those that it notes under the lowest threshold, each session shows just what is at the threshold
in force and above. A session begins with warnings. -/
theorem thresholds_decide_what_is_shown (shell : Shell) (earlier : List Entry) (line : String)
    (later : List Entry) :
    let entries := earlier ++ .shared line :: later
    ∃ answer answer' : Answer,
      (shell.runAll (shorter entries))[(shorter earlier).length]? = some answer ∧
        (shell.runAll (longer entries))[(longer earlier).length]? = some answer' ∧
        answer'.output = answer.output ∧ answer'.stop = answer.stop ∧
        answer'.shell.prompt = answer.shell.prompt ∧
        answer'.shell.puzzle = answer.shell.puzzle ∧
        answer'.uncaught = answer.uncaught ∧
        (∃ records,
          (((shell.after (shorter earlier)).withThreshold .debug).run line).records = records ∧
          (((shell.after (longer earlier)).withThreshold .debug).run line).records = records ∧
          answer.records =
            records.filter (·.shownAt (thresholdAfter shell.threshold (shorter earlier))) ∧
          answer'.records =
            records.filter (·.shownAt (thresholdAfter shell.threshold (longer earlier)))) ∧
        ∀ size, Shell.ofSize size = .ok shell → shell.threshold = .warning := by
  intro entries
  have alike : Alike (shell.after (shorter earlier)) (shell.after (longer earlier)) :=
    Alike.after ⟨rfl, rfl⟩ earlier
  refine ⟨(shell.after (shorter earlier)).run line, (shell.after (longer earlier)).run line,
    ?_, ?_, ?_, ?_, ?_, ?_, ?_, ⟨_, rfl, ?_, ?_, ?_⟩, fun _ => threshold_of_ofSize⟩
  · rw [shorter_split, getElem?_runAll]
  · rw [longer_split, getElem?_runAll]
  -- The answers differ in nothing but the thresholds.
  iterate 5
    rw [alike.run_eq]
    rfl
  · rw [alike.withThreshold_eq]
  · rw [records_run, threshold_after]
  · rw [records_run, threshold_after, alike.withThreshold_eq]

end Cubing.Shell
