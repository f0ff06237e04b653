import Mathlib.Data.List.Basic
import Mathlib.Data.List.TakeWhile
import Cubing.Shell.Command

/-!
# Lines with a command word

A line that begins with the word of a command and a blank calls this command, whatever comes after,
and the argument is what comes after without the blanks around it (`Shell.Line.ofText_command`).
-/
namespace Cubing

namespace Text

variable {test : Char → Bool} {core blanks : List Char}

theorem trimBy_append (core : List Char) (blank : ∀ c ∈ blanks, test c = true) :
    trimBy test (core ++ blanks) = trimBy test core := by
  have none : blanks.dropWhile test = [] := List.dropWhile_eq_nil_iff.mpr blank
  rw [trimBy, trimBy, List.dropWhile_append, none]
  split
  next empty =>
    -- Everything is blank.
    rw [List.isEmpty_iff.mp empty]
  next =>
    rw [List.reverse_append, List.dropWhile_append_of_pos fun c member =>
      blank c (List.mem_reverse.mp member)]

theorem trimBy_cons {c : Char} (blank : test c = true) (chars : List Char) :
    trimBy test (c :: chars) = trimBy test chars := by
  rw [trimBy, trimBy, List.dropWhile_cons_of_pos blank]

theorem trimBy_eq_self {chars : List Char} (begins : ∀ c ∈ chars.head?, test c = false)
    (ends : ∀ c ∈ chars.getLast?, test c = false) : trimBy test chars = chars := by
  have solid {chars : List Char} (begins : ∀ c ∈ chars.head?, test c = false) :
      chars.dropWhile test = chars := by
    cases chars with
    | nil => rfl
    | cons c chars => exact List.dropWhile_cons_of_neg (by simp [begins c rfl])
  rw [trimBy, solid begins, solid (by rwa [List.head?_reverse]), List.reverse_reverse]

/-- A text without the blanks at its end, and these blanks. -/
theorem exists_core (test : Char → Bool) (chars : List Char) :
    ∃ core blanks, chars = core ++ blanks ∧ (∀ c ∈ blanks, test c = true) ∧
      ∀ c ∈ core.getLast?, test c = false := by
  refine ⟨(chars.reverse.dropWhile test).reverse, (chars.reverse.takeWhile test).reverse,
    ?_, fun c member => ?_, fun c last => ?_⟩
  · rw [← List.reverse_append, List.takeWhile_append_dropWhile, List.reverse_reverse]
  · exact List.mem_takeWhile_imp (List.mem_reverse.mp member)
  · rw [List.getLast?_reverse] at last
    have stops := List.head?_dropWhile_not test chars.reverse
    rwa [Option.mem_def.mp last] at stops

end Text

namespace Shell

theorem Command.ofWord?_word (command : Command) : ofWord? command.word = some command := by
  cases command <;> rfl

theorem Command.word_chars (command : Command) :
    ∀ c ∈ command.word.toList, isWordChar c = true ∧ Text.isBlank c = false := by
  have solid : (command.word.toList.all fun c => isWordChar c && !Text.isBlank c) = true := by
    cases command <;> rfl
  intro c member
  simpa using List.all_eq_true.mp solid c member

/-- What comes after the word must not make the word longer. -/
theorem Line.ofText_of_trimmed {text : String} {command : Command} {tail : List Char}
    (trimmed : Text.trimBy Text.isBlank text.toList = command.word.toList ++ tail)
    (apart : ∀ c ∈ tail.head?, isWordChar c = false) :
    ofText text = .call command (String.ofList (Text.trimBy Text.isBlank tail)) := by
  have unmarked : ofText text = ofChars (command.word.toList ++ tail) := by
    rw [ofText, trimmed]
    cases command <;> rfl
  have word (c : Char) (member : c ∈ command.word.toList) := (command.word_chars c member).1
  have later : tail.takeWhile isWordChar = [] ∧ tail.dropWhile isWordChar = tail := by
    cases tail with
    | nil => exact ⟨rfl, rfl⟩
    | cons c tail =>
      have ends : ¬ isWordChar c = true := by simp [apart c rfl]
      exact ⟨List.takeWhile_cons_of_neg ends, List.dropWhile_cons_of_neg ends⟩
  rw [unmarked, ofChars, List.takeWhile_append_of_pos word, List.dropWhile_append_of_pos word,
    later.1, later.2, List.append_nil, String.ofList_toList, Command.ofWord?_word]

theorem Line.ofText_command (command : Command) (text : String) :
    ofText (command.word ++ " " ++ text) = .call command (Text.trim text) := by
  obtain ⟨core, blanks, split, blank, solid⟩ := Text.exists_core Text.isBlank text.toList
  have space : Text.isBlank ' ' = true := by decide
  have whole (c : Char) (member : c ∈ command.word.toList) := (command.word_chars c member).2
  have chars : (command.word ++ " " ++ text).toList =
      command.word.toList ++ ' ' :: core ++ blanks := by
    simp [split]
  have argument : Text.trim text = String.ofList (Text.trimBy Text.isBlank core) := by
    rw [Text.trim, split, Text.trimBy_append core blank]
  have begins (tail : List Char) :
      ∀ c ∈ (command.word.toList ++ tail).head?, Text.isBlank c = false := by
    intro c first
    have nonempty : command.word.toList ≠ [] := by cases command <;> decide
    rw [List.head?_append_of_ne_nil _ nonempty] at first
    exact whole c (List.mem_of_head? first)
  rcases List.eq_nil_or_concat' core with rfl | ⟨before, last, rfl⟩
  -- Without an argument the blank after the word is one at the end.
  · have trimmed : Text.trimBy Text.isBlank (command.word ++ " " ++ text).toList =
        command.word.toList ++ [] := by
      have ends : ∀ c ∈ (command.word.toList ++ []).getLast?, Text.isBlank c = false := by
        rw [List.append_nil]
        exact fun c final => whole c (List.mem_of_getLast? final)
      rw [chars, Text.trimBy_append _ blank, Text.trimBy_append _ (by simpa using space)]
      simpa using Text.trimBy_eq_self (begins []) ends
    rw [ofText_of_trimmed trimmed nofun, argument]
  · have trimmed : Text.trimBy Text.isBlank (command.word ++ " " ++ text).toList =
        command.word.toList ++ ' ' :: (before ++ [last]) := by
      rw [chars, Text.trimBy_append _ blank]
      refine Text.trimBy_eq_self (begins _) fun c final => solid c ?_
      rwa [List.getLast?_concat, ← List.cons_append, ← List.append_assoc,
        List.getLast?_concat] at *
    have apart : ∀ c ∈ (' ' :: (before ++ [last])).head?, isWordChar c = false := by
      rintro c ⟨⟩
      decide
    rw [ofText_of_trimmed trimmed apart, Text.trimBy_cons space, argument]

end Shell

end Cubing
