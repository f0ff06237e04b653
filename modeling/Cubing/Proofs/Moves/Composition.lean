import Cubing.Proofs.Moves.Undoing
import Cubing.Proofs.Puzzle.Replay

/-!
# Putting moves together

Texts of moves can be written one after the other with blanks between them, put in
parentheses, and repeated. What such a text does is put together in the same way
from what its parts do, however deep they are nested (`Composed.compileMoves_eq`).
A word derives the same items wherever it stands, apart from their places
(`Grammar.Derives.shift`), so a part is read as it is alone.
-/
namespace Cubing

open Grammar

section Words

variable {symbol : Symbol} {position : Nat} {word : List Char} {items : List Item}

theorem Grammar.Derives.exists_item (derivation : Derives .item position word items) :
    ∃ item, items = [item] := by
  cases derivation with
  | move => exact ⟨_, rfl⟩
  | group => exact ⟨_, rfl⟩

/-- A word derives the same items at another position. -/
theorem Grammar.Derives.shift (derivation : Derives symbol position word items) (other : Nat) :
    ∃ placed, Derives symbol other word placed ∧
      Item.unplacedAll placed = Item.unplacedAll items := by
  -- The induction is on the derivation; each part has a new position of its own.
  induction derivation generalizing other with
  | move modifier spelled => exact ⟨_, .move modifier spelled, rfl⟩
  | @group _ times blanks _ _ _ lead _ repeats ih =>
    obtain ⟨placed, inner, same⟩ := ih (other + 1 + blanks.length)
    exact ⟨_, .group lead inner repeats, by simp only [Item.unplacedAll, Item.unplaced, same]⟩
  | @expression _ word _ _ _ _ _ first later =>
    obtain ⟨placed, derived, same⟩ := first other
    obtain ⟨others, more, same'⟩ := later (other + word.length)
    obtain ⟨item, rfl⟩ := derived.exists_item
    simp only [Item.unplacedAll, List.cons.injEq, and_true] at same
    exact ⟨_, .expression derived more, by simp only [Item.unplacedAll, same, same']⟩
  | last trail => exact ⟨[], .last trail, rfl⟩
  | @next _ blanks word _ _ _ gap apart _ _ first later =>
    obtain ⟨placed, derived, same⟩ := first (other + blanks.length)
    obtain ⟨others, more, same'⟩ := later (other + blanks.length + word.length)
    obtain ⟨item, rfl⟩ := derived.exists_item
    simp only [Item.unplacedAll, List.cons.injEq, and_true] at same
    exact ⟨_, .next gap apart derived more, by simp only [Item.unplacedAll, same, same']⟩

/-- An expression may follow another one, or what follows an item, after a blank. -/
theorem Grammar.Derives.join (derivation : Derives symbol position word items)
    (sequence : symbol ≠ .item) {gap other : List Char} {others : List Item}
    (blank : Blanks gap) (apart : gap ≠ [])
    (later : Derives .expression (position + word.length + gap.length) other others) :
    Derives symbol position (word ++ gap ++ other) (items ++ others) := by
  induction derivation with
  | move | group => exact absurd rfl sequence
  | @expression _ word tail _ _ first _ _ ih =>
    have more := ih nofun (later.at (by simp; omega))
    simpa using Derives.expression first more
  | @last position blanks trail =>
    -- The blanks at the end and the gap together come before the next item.
    cases later with
    | @expression _ word tail item others first more =>
      have wider := blanks_append_iff.mpr ⟨trail, blank⟩
      have next : Derives .more position (blanks ++ gap ++ word ++ tail) (item :: others) :=
        .next wider (List.append_ne_nil_of_right_ne_nil _ apart)
          (first.at (by simp; omega)) (more.at (by simp; omega))
      simpa using next
  | @next _ blanks word tail _ _ gap' apart' first _ _ ih =>
    have more := ih nofun (later.at (by simp; omega))
    simpa using Derives.next gap' apart' first more

end Words

section Compiling

variable {first second gap lead text : String} {actions others : List Action} {times : Nat}

/-- The actions of a text are those of the items that the grammar derives from it. -/
theorem compileMoves_eq_ok_iff : compileMoves text = .ok actions ↔
    ∃ items, Derives .expression 0 text.toList items ∧ Item.actionsOfAll items = actions := by
  simp only [compileMoves, map_eq_ok, readMoves_eq_ok_iff]

/-- A text that has been compiled alone can stand anywhere. -/
theorem exists_derives_of_compileMoves (compiled : compileMoves text = .ok actions)
    (position : Nat) :
    ∃ items, Derives .expression position text.toList items ∧
      Item.actionsOfAll items = actions := by
  obtain ⟨items, derivation, rfl⟩ := compileMoves_eq_ok_iff.mp compiled
  obtain ⟨placed, derived, same⟩ := derivation.shift position
  refine ⟨placed, derived, ?_⟩
  rw [← Item.actionsOfAll_unplacedAll, same, Item.actionsOfAll_unplacedAll]

theorem compileMoves_join (compiled : compileMoves first = .ok actions)
    (compiled' : compileMoves second = .ok others) (blank : Blanks gap.toList)
    (apart : gap ≠ "") : compileMoves (first ++ gap ++ second) = .ok (actions ++ others) := by
  obtain ⟨items, derivation, rfl⟩ := compileMoves_eq_ok_iff.mp compiled
  obtain ⟨placed, later, rfl⟩ :=
    exists_derives_of_compileMoves compiled' (0 + first.toList.length + gap.toList.length)
  have nonempty : gap.toList ≠ [] := by simpa using apart
  refine compileMoves_eq_ok_iff.mpr ⟨items ++ placed, ?_, Item.actionsOfAll_append ..⟩
  rw [String.toList_append, String.toList_append]
  exact derivation.join nofun blank nonempty later

/-- A text in parentheses, with what counts its repetitions after it. -/
theorem compileMoves_parenthesised (compiled : compileMoves text = .ok actions)
    (blank : Blanks lead.toList) {count : String} (repeats : Repeats times count.toList) :
    compileMoves ("(" ++ lead ++ text ++ ")" ++ count) =
      .ok (List.replicate times actions).flatten := by
  obtain ⟨items, derivation, rfl⟩ :=
    exists_derives_of_compileMoves compiled (0 + 1 + lead.toList.length)
  have group := Derives.group blank derivation repeats
  have alone : Derives .expression 0 ("(" ++ lead ++ text ++ ")" ++ count).toList
      [.group items times 0] := by
    simpa using Derives.expression group (.last blanks_nil)
  refine compileMoves_eq_ok_iff.mpr ⟨_, alone, ?_⟩
  rw [Item.actionsOfAll, Item.actionsOfAll, Item.actions, List.append_nil]

theorem compileMoves_group (compiled : compileMoves text = .ok actions)
    (blank : Blanks lead.toList) : compileMoves ("(" ++ lead ++ text ++ ")") = .ok actions := by
  have uncounted : Repeats 1 "".toList := .once
  simpa using compileMoves_parenthesised compiled blank uncounted

theorem repeats_toString (least : 2 ≤ times) (greatest : times ≤ 9) :
    Repeats times (toString times).toList := by
  have digit : (toString times).toList = [digitChar times] := by
    interval_cases times <;> rfl
  exact digit ▸ .times times least greatest

theorem compileMoves_repeated (compiled : compileMoves text = .ok actions)
    (blank : Blanks lead.toList) (least : 2 ≤ times) (greatest : times ≤ 9) :
    compileMoves ("(" ++ lead ++ text ++ ")" ++ toString times) =
      .ok (List.replicate times actions).flatten :=
  compileMoves_parenthesised compiled blank (repeats_toString least greatest)

/-- A text written out several times, with the same gap between any two of them. -/
def writtenOut (gap text : String) (times : Nat) : String :=
  gap.intercalate (List.replicate times text)

theorem compileMoves_writtenOut (compiled : compileMoves text = .ok actions)
    (blank : Blanks gap.toList) (apart : gap ≠ "") (least : 1 ≤ times) :
    compileMoves (writtenOut gap text times) = .ok (List.replicate times actions).flatten := by
  induction times, least using Nat.le_induction with
  | base => simpa [writtenOut] using compiled
  | succ times least ih =>
    have longer : writtenOut gap text (times + 1) = text ++ gap ++ writtenOut gap text times := by
      obtain ⟨fewer, rfl⟩ := Nat.exists_eq_add_of_le' least
      simp only [writtenOut, List.replicate_succ, String.intercalate_cons_cons]
    rw [longer, List.replicate_succ, List.flatten_cons]
    exact compileMoves_join compiled ih blank apart

end Compiling

/-- Texts put together from texts of moves, at any depth, with what their parts do put together in
the same way. -/
inductive Composed : String → List Action → Prop where
  | moves {text : String} {actions : List Action} (compiled : compileMoves text = .ok actions) :
    Composed text actions
  | join {first second gap : String} {actions others : List Action}
    (before : Composed first actions) (after : Composed second others)
    (blank : Blanks gap.toList) (apart : gap ≠ "") :
    Composed (first ++ gap ++ second) (actions ++ others)
  | group {text lead : String} {actions : List Action} (inner : Composed text actions)
    (blank : Blanks lead.toList) : Composed ("(" ++ lead ++ text ++ ")") actions
  | repeated {text lead : String} {actions : List Action} {times : Nat}
    (inner : Composed text actions) (blank : Blanks lead.toList) (least : 2 ≤ times)
    (greatest : times ≤ 9) :
    Composed ("(" ++ lead ++ text ++ ")" ++ toString times) (List.replicate times actions).flatten

theorem Composed.compileMoves_eq {text : String} {actions : List Action}
    (composed : Composed text actions) : compileMoves text = .ok actions := by
  induction composed with
  | moves compiled => exact compiled
  | join _ _ blank apart before after => exact compileMoves_join before after blank apart
  | group _ blank inner => exact compileMoves_group inner blank
  | repeated _ blank least greatest inner =>
    exact compileMoves_repeated inner blank least greatest

section Effects

theorem Cube.applyAll_append {n : Nat} (cube : Cube n) (first second : List Action) :
    cube.applyAll (first ++ second) = cube.applyAll first >>= (applyAll · second) := by
  induction first generalizing cube with
  | nil => rfl
  | cons action first ih =>
    rw [List.cons_append, applyAll, applyAll, bind_assoc]
    exact bind_congr fun _ => ih _

/-- Applies a text of moves to a net. -/
def Net.applyMoves (net : Net) (text : String) : Except Fault Net :=
  performMoves text >>= net.applyAll

theorem Net.applyMoves_of_compiled {text : String} {actions : List Action}
    (compiled : compileMoves text = .ok actions) (net : Net) :
    net.applyMoves text = net.applyAll actions := by
  rw [applyMoves, performMoves, compiled]
  rfl

namespace Puzzle

variable (puzzle : Puzzle)

theorem outcome_applyAll (actions : List Action) :
    (puzzle.applyAll actions).outcome =
      (fun cube => ⟨puzzle.size, cube, puzzle.applied + actions.length⟩) <$>
        puzzle.cube.applyAll actions := by
  rw [← Cube.outcome_applyAllNoted]
  rfl

/-- Actions count together just as they count one after the other. -/
theorem outcome_applyAll_append (first second : List Action) :
    (puzzle.applyAll (first ++ second)).outcome =
      (puzzle.applyAll first).outcome >>= fun between => (between.applyAll second).outcome := by
  simp only [outcome_applyAll, Cube.applyAll_append, List.length_append, ← Nat.add_assoc]
  cases puzzle.cube.applyAll first <;> rfl

theorem outcome_applyMoves_of_compiled {text : String} {actions : List Action}
    (compiled : compileMoves text = .ok actions) :
    (puzzle.applyMoves text).outcome = (none, ·) <$> (puzzle.applyAll actions).outcome := by
  rw [applyMoves, compiled]
  rfl

end Puzzle

end Effects

/-- Two texts with a blank between them do what they do one after the other, a text in parentheses
does what it does alone, and a repeated one does it as often as it is repeated; so it is at any
depth. Their effects on nets and on puzzles, with the number of actions, are those of the parts, and
a text that fails as a whole fails in one of its parts. -/
theorem compiling_is_compositional {first second gap lead : String} {actions others : List Action}
    {times : Nat} (compiled : compileMoves first = .ok actions)
    (compiled' : compileMoves second = .ok others) (blank : Blanks gap.toList) (apart : gap ≠ "")
    (blank' : Blanks lead.toList) (least : 2 ≤ times) (greatest : times ≤ 9) :
    let joined := first ++ gap ++ second
    let group := "(" ++ lead ++ first ++ ")"
    let repeated := group ++ toString times
    compileMoves joined = .ok (actions ++ others) ∧ compileMoves group = .ok actions ∧
      compileMoves repeated = .ok (List.replicate times actions).flatten ∧
      (∀ text composed, Composed text composed → compileMoves text = .ok composed) ∧
      (∀ net : Net,
        net.applyMoves joined = net.applyMoves first >>= (Net.applyMoves · second) ∧
        net.applyMoves repeated = net.applyMoves (writtenOut gap first times)) ∧
      ∀ puzzle : Puzzle,
        (puzzle.applyMoves joined).outcome = (puzzle.applyMoves first).outcome >>=
          (fun (_, between) => (between.applyMoves second).outcome) ∧
        (puzzle.applyMoves repeated).outcome =
          (puzzle.applyMoves (writtenOut gap first times)).outcome := by
  intro joined group repeated
  have join : compileMoves joined = .ok (actions ++ others) :=
    compileMoves_join compiled compiled' blank apart
  have again : compileMoves repeated = .ok (List.replicate times actions).flatten :=
    compileMoves_repeated compiled blank' least greatest
  have written := compileMoves_writtenOut compiled blank apart (Nat.le_of_succ_le least)
  refine ⟨join, compileMoves_group compiled blank', again, fun _ _ => Composed.compileMoves_eq,
    fun net => ⟨?_, ?_⟩, fun puzzle => ⟨?_, ?_⟩⟩
  · simp only [Net.applyMoves_of_compiled join, Net.applyMoves_of_compiled compiled,
      Net.applyMoves_of_compiled compiled', Net.applyAll_append]
  · rw [Net.applyMoves_of_compiled again, Net.applyMoves_of_compiled written]
  · simp only [Puzzle.outcome_applyMoves_of_compiled _ join,
      Puzzle.outcome_applyMoves_of_compiled _ compiled,
      Puzzle.outcome_applyMoves_of_compiled _ compiled', Puzzle.outcome_applyAll_append,
      map_bind, bind_map_left]
  · rw [Puzzle.outcome_applyMoves_of_compiled _ again,
      Puzzle.outcome_applyMoves_of_compiled _ written]

theorem compiling_is_compositional_for_repeated_pair :
    let pair := [Action.turnFace .right .clockwise, .turnFace .top .counterClockwise]
    compileMoves "R U'" = .ok pair ∧ compileMoves "( R U')2" = .ok (pair ++ pair) ∧
      compileMoves "R U' F2" = .ok (pair ++ [.turnFace .front .halfway]) ∧
      ∃ first last, (Puzzle.applyMoves ⟨3, .solved 3, 0⟩ "R U'").outcome = .ok (none, first) ∧
        (first.applyMoves "F2").outcome = .ok (none, last) ∧ last.applied = 3 ∧
        (Puzzle.applyMoves ⟨3, .solved 3, 0⟩ "R U' F2").outcome = .ok (none, last) := by
  intro pair
  have compiled : compileMoves "R U'" = .ok pair := rfl
  have compiled' : compileMoves "F2" = .ok [.turnFace .front .halfway] := rfl
  have blank : Blanks " ".toList := blanks_singleton_iff.mpr rfl
  obtain ⟨join, -, again, -, -, puzzles⟩ := compiling_is_compositional compiled compiled' blank
    (by decide) blank (le_refl 2) (by decide)
  exact ⟨compiled, again, join, _, _, rfl, rfl, rfl, (puzzles _).1⟩

end Cubing
