import Mathlib.Tactic.IntervalCases
import Cubing.Moves.Reader
import Cubing.Proofs.Moves.Grammar

/-!
# Everything in the grammar is read

The reader goes through a text once, from left to right, and never turns back.
Nothing that the grammar derives is lost by that: wherever a symbol may stand,
reading its word adds the derived items to the innermost sequence and leaves the
reader where the sequence may end (`understands_of_derives`). The characters that
may follow an item decide at once that it is over.
-/
namespace Cubing

open Grammar

section Characters

/-- What is found by a key has the key. -/
theorem key_eq_of_find?_eq_some {α β : Type} [DecidableEq β] {all : List α} {key : α → β}
    {wanted : β} {a : α} (found : (all.find? fun a => key a = wanted) = some a) :
    key a = wanted :=
  of_decide_eq_true (List.find?_some (p := fun a => decide (key a = wanted)) found)

theorem digitAmong?_eq_some_iff {first least greatest value : Nat} {c : Char}
    (low : first + greatest < 0xD800) :
    digitAmong? first least greatest c = some value ↔
      least ≤ value ∧ value ≤ greatest ∧ c = Char.ofNat (first + value) := by
  simp only [digitAmong?, Option.ite_none_right_eq_some, Option.some.injEq]
  constructor
  · rintro ⟨⟨above, below⟩, rfl⟩
    refine ⟨by omega, by omega, ?_⟩
    rw [Nat.add_sub_cancel' (by omega), Char.ofNat_toNat]
  · rintro ⟨above, below, rfl⟩
    have code : (Char.ofNat (first + value)).toNat = first + value := by
      rw [Char.ofNat, dif_pos (Or.inl (by omega))]
      rfl
    rw [code]
    omega

theorem layerCount?_eq_some_iff {c : Char} {count : Nat} :
    layerCount? c = some count ↔ 1 ≤ count ∧ count ≤ 9 ∧ c = digitChar count :=
  digitAmong?_eq_some_iff (by decide)

theorem repeatCount?_eq_some_iff {c : Char} {count : Nat} :
    repeatCount? c = some count ↔ 2 ≤ count ∧ count ≤ 9 ∧ c = digitChar count :=
  digitAmong?_eq_some_iff (by decide)

theorem depthAfterLowLine?_eq_some_iff {c : Char} {depth : Nat} :
    depthAfterLowLine? c = some depth ↔ 2 ≤ depth ∧ depth ≤ 8 ∧ c = digitChar depth :=
  digitAmong?_eq_some_iff (by decide)

theorem loweredDepth?_eq_some_iff {c : Char} {depth : Nat} :
    loweredDepth? c = some depth ↔ 2 ≤ depth ∧ depth ≤ 8 ∧ c = loweredChar depth :=
  digitAmong?_eq_some_iff (by decide)

theorem Face.ofLetter?_eq_some_iff {c : Char} {face : Face} :
    Face.ofLetter? c = some face ↔ c = face.letter := by
  constructor
  · intro found
    exact (key_eq_of_find?_eq_some found).symm
  · rintro rfl
    cases face <;> rfl

/-- A letter that stands for a target alone spells it. -/
theorem Target.spells_of_ofLetter? {c : Char} {target : Target}
    (found : Target.ofLetter? c = some target) : Spells target [c] := by
  unfold Target.ofLetter? at found
  -- The letter is looked up among faces, wide turns, middle layers and whole turns, in this order.
  split at found
  next single =>
    cases found
    rw [Face.ofLetter?_eq_some_iff] at single
    exact single ▸ .single _
  next small _ =>
    cases found
    exact key_eq_of_find?_eq_some small ▸ .wideLetter _
  next middle _ _ =>
    cases found
    exact key_eq_of_find?_eq_some middle ▸ .middle _
  next =>
    obtain ⟨axis, whole, rfl⟩ := Option.map_eq_some_iff.mp found
    have letter := List.find?_some whole
    simp only [Bool.or_eq_true, decide_eq_true_eq] at letter
    -- A letter for the whole cube is a capital one or a small one.
    by_cases capital : axis.wholeLetter true = c
    · simpa [capital] using Spells.whole axis true
    · have small := letter.resolve_left capital
      simpa [capital, small] using Spells.whole axis false

/-- Letters of targets are neither blanks nor parentheses nor digits. -/
theorem Target.separate_of_ofLetter? {c : Char} {target : Target}
    (found : Target.ofLetter? c = some target) :
    Text.isBlank c = false ∧ c ≠ ')' ∧ c ≠ '(' ∧ layerCount? c = none := by
  -- There are only finitely many letters, and each of them can be looked at.
  cases Target.spells_of_ofLetter? found with
  | single face => cases face <;> decide
  | middle axis => cases axis <;> decide
  | whole axis capital => cases axis <;> cases capital <;> decide
  | wideLetter face => cases face <;> decide
  | subscript face written => nomatch written

theorem digitChar_separate {count : Nat} (least : 1 ≤ count) (greatest : count ≤ 9) :
    Text.isBlank (digitChar count) = false ∧ digitChar count ≠ ')' ∧ digitChar count ≠ '(' := by
  interval_cases count <;> decide

theorem loweredChar_separate {depth : Nat} (least : 2 ≤ depth) (greatest : depth ≤ 8) :
    Modifier.ofMark? (loweredChar depth) = none ∧ loweredChar depth ≠ 'w' ∧
      loweredChar depth ≠ '_' := by
  interval_cases depth <;> decide

/-- What may follow an item neither continues a move nor counts a group. -/
theorem boundary_separate {c : Char} (boundary : Text.isBlank c = true ∨ c = ')') :
    Modifier.ofMark? c = none ∧ c ≠ 'w' ∧ c ≠ '_' ∧ loweredDepth? c = none ∧
      repeatCount? c = none := by
  -- A character that is neither a blank nor a closing parenthesis is not the one at hand.
  have apart {other : Char} (plain : Text.isBlank other = false ∧ other ≠ ')') : c ≠ other := by
    rintro rfl
    rcases boundary with blank | closing
    · rw [plain.1] at blank
      cases blank
    · exact plain.2 closing
  refine ⟨?_, apart (by decide), apart (by decide), ?_, ?_⟩
  · have prime : c ≠ Char.ofNat 39 := apart (by decide)
    have double : c ≠ '2' := apart (by decide)
    simp [Modifier.ofMark?, Modifier.mark?, prime.symm, double.symm]
  · rw [Option.eq_none_iff_forall_ne_some]
    intro depth found
    obtain ⟨least, greatest, rfl⟩ := loweredDepth?_eq_some_iff.mp found
    exact apart (by interval_cases depth <;> decide) rfl
  · rw [Option.eq_none_iff_forall_ne_some]
    intro count found
    obtain ⟨least, greatest, rfl⟩ := repeatCount?_eq_some_iff.mp found
    obtain ⟨plain, open', -⟩ := digitChar_separate (by omega) greatest
    exact apart ⟨plain, open'⟩ rfl

end Characters

namespace Reader

/-- Reading a word from a position on leads from one reader to another. -/
def Reads (reader : Reader) (position : Nat) (word : List Char) (next : Reader) : Prop :=
  reader.readAll position word = (next, [])

theorem reads_nil (reader : Reader) (position : Nat) : reader.Reads position [] reader := rfl

theorem reads_cons_iff {reader next : Reader} {position : Nat} {c : Char} {word : List Char} :
    reader.Reads position (c :: word) next ↔
      ∃ between, reader.read position c = some between ∧
        between.Reads (position + 1) word next := by
  simp only [Reads, readAll]
  cases reader.read position c <;> simp

theorem reads_append_iff {reader next : Reader} {position : Nat} {first second : List Char} :
    reader.Reads position (first ++ second) next ↔
      ∃ between, reader.Reads position first between ∧
        between.Reads (position + first.length) second next := by
  induction first generalizing reader position with
  | nil => simp [Reads, readAll]
  | cons c first ih =>
    simp only [List.cons_append, reads_cons_iff, ih, List.length_cons]
    constructor
    · rintro ⟨mid, read, between, reads, later⟩
      exact ⟨between, ⟨mid, read, reads⟩, by rwa [Nat.add_comm first.length, ← Nat.add_assoc]⟩
    · rintro ⟨between, ⟨mid, read, reads⟩, later⟩
      refine ⟨mid, read, between, reads, ?_⟩
      rwa [Nat.add_comm first.length, ← Nat.add_assoc] at later

theorem Reads.trans {reader between next : Reader} {position later : Nat}
    {first second : List Char} (reads : reader.Reads position first between)
    (reads' : between.Reads later second next) (at' : position + first.length = later) :
    reader.Reads position (first ++ second) next :=
  reads_append_iff.mpr ⟨between, reads, at' ▸ reads'⟩

theorem Reads.cons {reader between next : Reader} {position : Nat} {c : Char} {word : List Char}
    (read : reader.read position c = some between)
    (reads : between.Reads (position + 1) word next) : reader.Reads position (c :: word) next :=
  reads_cons_iff.mpr ⟨between, read, reads⟩

/-- The sequence of items may end with what the reader has read: the open groups and the items of
the innermost sequence, latest first. -/
inductive Ended : Reader → List OpenGroup → List Item → Prop where
  | gap (opened : List OpenGroup) (items : List Item) : Ended ⟨opened, items, .gap⟩ opened items
  | complete (opened : List OpenGroup) (items : List Item) :
    Ended ⟨opened, items, .complete⟩ opened items
  | target (opened : List OpenGroup) (items : List Item) (position : Nat) (target : Target) :
    Ended ⟨opened, items, .target position target⟩ opened
      (.move target .none position :: items)
  | group (opened : List OpenGroup) (items : List Item) (position : Nat) (inner : List Item) :
    Ended ⟨opened, items, .group position inner⟩ opened (.group inner 1 position :: items)

variable {reader : Reader} {opened : List OpenGroup} {items : List Item}

/-- After a sequence that may end, a blank and a closing parenthesis are read as after its last
item. -/
theorem Ended.read_boundary (ended : Ended reader opened items) (position : Nat) {c : Char}
    (boundary : Text.isBlank c = true ∨ c = ')') :
    reader.read position c = (Reader.mk opened items .complete).readBoundary c := by
  obtain ⟨unmarked, narrow, high, unlowered, uncounted⟩ := boundary_separate boundary
  cases ended with
  | gap =>
    -- After a gap the innermost sequence is the same as after its latest item.
    rcases boundary with blank | rfl
    · simp only [read, readBoundary, blank, if_true]
    · rfl
  | complete => rfl
  | target =>
    simp only [read, readAfterTarget, grow?, unmarked, narrow, unlowered, high, if_false,
      Option.bind_none, false_and]
    rfl
  | group =>
    simp only [read, readAfterGroup, uncounted]
    rfl

theorem Ended.read_blank (ended : Ended reader opened items) (position : Nat) {c : Char}
    (blank : Text.isBlank c = true) : reader.read position c = some ⟨opened, items, .gap⟩ := by
  rw [ended.read_boundary position (.inl blank), readBoundary, if_pos blank]

theorem Ended.read_closing {group : OpenGroup} (ended : Ended reader (group :: opened) items)
    (position : Nat) : reader.read position ')' =
      some ⟨opened, group.before, .group group.position items.reverse⟩ := by
  rw [ended.read_boundary position (.inr rfl)]
  rfl

theorem Ended.finish? (ended : Ended reader [] items) : reader.finish? = some items.reverse := by
  cases ended <;> rfl

theorem Ended.reads_blanks (ended : Ended reader opened items) (position : Nat)
    {blanks : List Char} (blank : Blanks blanks) :
    ∃ next, reader.Reads position blanks next ∧ Ended next opened items ∧
      (blanks ≠ [] → next = ⟨opened, items, .gap⟩) := by
  induction blanks generalizing reader position with
  | nil => exact ⟨reader, reads_nil .., ended, fun absurd => (absurd rfl).elim⟩
  | cons c blanks ih =>
    have first := ended.read_blank position (blank c List.mem_cons_self)
    obtain ⟨next, reads, still, gap⟩ := ih (.gap opened items) (position + 1)
      fun d member => blank d (List.mem_cons_of_mem _ member)
    refine ⟨next, reads_cons_iff.mpr ⟨_, first, reads⟩, still, fun _ => ?_⟩
    -- The first blank makes the gap, and further ones keep it.
    cases blanks with
    | nil => exact (Prod.mk.inj reads).1.symm
    | cons d blanks => exact gap (List.cons_ne_nil _ _)

theorem reads_lead (group : OpenGroup) (opened : List OpenGroup) (position : Nat)
    {blanks : List Char} (blank : Blanks blanks) :
    (Reader.mk (group :: opened) [] .first).Reads position blanks
      ⟨group :: opened, [], .first⟩ := by
  induction blanks generalizing position with
  | nil => exact reads_nil ..
  | cons c blanks ih =>
    refine reads_cons_iff.mpr ⟨_, ?_, ih _ fun d member => blank d (List.mem_cons_of_mem _ member)⟩
    simp [read, blank c List.mem_cons_self]

/-- Where an item may begin, a character that is neither a blank nor a closing parenthesis begins
one. -/
theorem read_begin {pending : Pending} (ready : pending = .first ∨ pending = .gap)
    (position : Nat) {c : Char} (dark : Text.isBlank c = false) (opens : c ≠ ')') :
    (Reader.mk opened items pending).read position c =
      (Reader.mk opened items pending).beginItem position c := by
  rcases ready with rfl | rfl
  · simp only [read, dark, Bool.false_eq_true, false_and, if_false]
  · simp only [read, dark, opens, Bool.false_eq_true, if_false]

theorem read_letter {pending : Pending} (ready : pending = .first ∨ pending = .gap)
    (position : Nat) {c : Char} {target : Target} (found : Target.ofLetter? c = some target) :
    (Reader.mk opened items pending).read position c =
      some ⟨opened, items, .target position target⟩ := by
  obtain ⟨dark, opens, closes, plain⟩ := Target.separate_of_ofLetter? found
  rw [read_begin ready position dark opens]
  simp only [beginItem, closes, if_false, plain, found, Option.map_some]

theorem read_count {pending : Pending} (ready : pending = .first ∨ pending = .gap)
    (position : Nat) {count : Nat} (least : 1 ≤ count) (greatest : count ≤ 9) :
    (Reader.mk opened items pending).read position (digitChar count) =
      some ⟨opened, items, .layers position count⟩ := by
  obtain ⟨dark, opens, closes⟩ := digitChar_separate least greatest
  rw [read_begin ready position dark opens]
  simp only [beginItem, closes, if_false, layerCount?_eq_some_iff.mpr ⟨least, greatest, rfl⟩]

theorem read_face (position start count : Nat) (face : Face) :
    (Reader.mk opened items (.layers start count)).read position face.letter =
      some ⟨opened, items, .target start (.innerSlice count face)⟩ := by
  simp only [read, Face.ofLetter?_eq_some_iff.mpr rfl, Option.map_some]

theorem read_wideMark (position start : Nat) {target wide : Target}
    (widens : target.widen? = some wide) :
    (Reader.mk opened items (.target start target)).read position 'w' =
      some ⟨opened, items, .target start wide⟩ := by
  have unmarked : Modifier.ofMark? 'w' = none := rfl
  simp only [read, readAfterTarget, unmarked, grow?, if_true, widens]

theorem read_lowLine (position start : Nat) {target : Target} (grows : target.isOpen = true) :
    (Reader.mk opened items (.target start target)).read position '_' =
      some ⟨opened, items, .lowLine start target⟩ := by
  have unmarked : Modifier.ofMark? '_' = none := rfl
  have unlowered : loweredDepth? '_' = none := rfl
  simp [read, readAfterTarget, unmarked, grow?, unlowered, grows]

theorem read_depth (position start : Nat) {target deep : Target} {depth : Nat}
    (deepens : target.deepen? depth = some deep) (least : 2 ≤ depth) (greatest : depth ≤ 8) :
    (Reader.mk opened items (.lowLine start target)).read position (digitChar depth) =
      some ⟨opened, items, .target start deep⟩ := by
  simp only [read, depthAfterLowLine?_eq_some_iff.mpr ⟨least, greatest, rfl⟩,
    Option.bind_some, deepens, Option.map_some]

/-- A subscript is read as a whole after a target that may have one. -/
theorem reads_subscript (position start : Nat) {target deep : Target} {depth : Nat}
    {word : List Char} (deepens : target.deepen? depth = some deep)
    (written : Subscript depth word) :
    (Reader.mk opened items (.target start target)).Reads position word
      ⟨opened, items, .target start deep⟩ := by
  cases written with
  | lowLine least greatest =>
    have grows : target.isOpen = true := by
      cases target <;> simp [Target.deepen?, Target.isOpen] at deepens ⊢
    exact .cons (read_lowLine position start grows)
      (.cons (read_depth _ start deepens least greatest) (reads_nil ..))
  | lowered least greatest =>
    obtain ⟨unmarked, narrow, -⟩ := loweredChar_separate least greatest
    have first : (Reader.mk opened items (.target start target)).read position
        (loweredChar depth) = some ⟨opened, items, .target start deep⟩ := by
      simp only [read, readAfterTarget, unmarked, grow?, narrow, if_false,
        loweredDepth?_eq_some_iff.mpr ⟨least, greatest, rfl⟩, Option.bind_some, deepens]
    exact reads_cons_iff.mpr ⟨_, first, reads_nil ..⟩

theorem reads_target {pending : Pending} (ready : pending = .first ∨ pending = .gap)
    (position : Nat) {target : Target} {word : List Char} (spelled : Spells target word) :
    (Reader.mk opened items pending).Reads position word
      ⟨opened, items, .target position target⟩ := by
  cases spelled with
  | single face =>
    exact reads_cons_iff.mpr ⟨_, read_letter ready position (by cases face <;> rfl), reads_nil ..⟩
  | middle axis =>
    exact reads_cons_iff.mpr ⟨_, read_letter ready position (by cases axis <;> rfl), reads_nil ..⟩
  | whole axis capital =>
    exact reads_cons_iff.mpr ⟨_, read_letter ready position
      (by cases axis <;> cases capital <;> rfl), reads_nil ..⟩
  | wideLetter face =>
    exact reads_cons_iff.mpr ⟨_, read_letter ready position (by cases face <;> rfl), reads_nil ..⟩
  | wide face =>
    have letter : Target.ofLetter? face.letter = some (.single face) := by cases face <;> rfl
    exact reads_cons_iff.mpr ⟨_, read_letter ready position letter,
      reads_cons_iff.mpr ⟨_, read_wideMark _ position rfl, reads_nil ..⟩⟩
  | deepWide digit face least greatest =>
    exact reads_cons_iff.mpr ⟨_, read_count ready position least greatest,
      reads_cons_iff.mpr ⟨_, read_face .., reads_cons_iff.mpr
        ⟨_, read_wideMark _ position rfl, reads_nil ..⟩⟩⟩
  | subscript face written =>
    have letter : Target.ofLetter? face.letter = some (.single face) := by cases face <;> rfl
    exact reads_cons_iff.mpr ⟨_, read_letter ready position letter,
      reads_subscript _ position rfl written⟩
  | innerSlice digit face least greatest =>
    exact reads_cons_iff.mpr ⟨_, read_count ready position least greatest,
      reads_cons_iff.mpr ⟨_, read_face .., reads_nil ..⟩⟩
  | innerBlock digit face least greatest written =>
    exact reads_cons_iff.mpr ⟨_, read_count ready position least greatest,
      reads_cons_iff.mpr ⟨_, read_face .., reads_subscript _ position rfl written⟩⟩

theorem read_repeat (position start : Nat) (inner : List Item) {times : Nat} (least : 2 ≤ times)
    (greatest : times ≤ 9) :
    (Reader.mk opened items (.group start inner)).read position (digitChar times) =
      some ⟨opened, .group inner times start :: items, .complete⟩ := by
  simp only [read, readAfterGroup, repeatCount?_eq_some_iff.mpr ⟨least, greatest, rfl⟩, complete]

/-- A word of the grammar is read where its symbol may stand, and its items are added to the
innermost sequence. -/
def Understands (symbol : Symbol) (position : Nat) (word : List Char) (derived : List Item) :
    Prop :=
  match symbol with
  | .item | .expression => ∀ opened items pending, pending = .first ∨ pending = .gap →
    ∃ next, (Reader.mk opened items pending).Reads position word next ∧
      Ended next opened (derived.reverse ++ items)
  | .more => ∀ reader opened items, Ended reader opened items →
    ∃ next, reader.Reads position word next ∧ Ended next opened (derived.reverse ++ items)

theorem understands_of_derives {symbol : Symbol} {position : Nat} {word : List Char}
    {derived : List Item} (derivation : Derives symbol position word derived) :
    Understands symbol position word derived := by
  -- The induction is on the derivation; what it carries is stronger for an item than that a whole
  -- text is read, since the item may stand anywhere among others.
  induction derivation with
  | @move position target word modifier spelled =>
    intro opened items pending ready
    have reads : (Reader.mk opened items pending).Reads position word
        ⟨opened, items, .target position target⟩ := reads_target ready position spelled
    cases modifier with
    | none =>
      rw [Modifier.mark?, Option.toList_none, List.append_nil]
      exact ⟨_, reads, .target ..⟩
    | prime => exact ⟨_, reads.trans (.cons rfl (reads_nil ..)) rfl, .complete ..⟩
    | double => exact ⟨_, reads.trans (.cons rfl (reads_nil ..)) rfl, .complete ..⟩
  | @group position times blanks body count derived lead _ repeats ih =>
    intro opened items pending ready
    -- The opening parenthesis puts the items aside, and the body begins a sequence of its own.
    have opens : (Reader.mk opened items pending).read position '(' =
        some ⟨⟨position, items⟩ :: opened, [], .first⟩ := by
      rw [read_begin ready position rfl (by decide)]
      rfl
    have leads := reads_lead ⟨position, items⟩ opened (position + 1) lead
    obtain ⟨last, reads, ended⟩ := ih (⟨position, items⟩ :: opened) [] .first (.inl rfl)
    -- The closing one takes the items up again, and the body has become a group.
    have closes := ended.read_closing (position + 1 + blanks.length + body.length)
    rw [List.append_nil, List.reverse_reverse] at closes
    have counted : ∃ next, (Reader.mk opened items (.group position derived)).Reads
        (position + 1 + blanks.length + body.length + 1) count next ∧
        Ended next opened (.group derived times position :: items) := by
      cases repeats with
      | once => exact ⟨_, reads_nil .., .group ..⟩
      | times _ least greatest =>
        exact ⟨_, .cons (read_repeat _ position derived least greatest) (reads_nil ..),
          .complete opened _⟩
    obtain ⟨next, reads', ended'⟩ := counted
    exact ⟨next, ((Reads.cons opens leads).trans reads (by simp; omega)).trans (.cons closes reads')
      (by simp; omega), ended'⟩
  | expression _ _ first later =>
    intro opened items pending ready
    obtain ⟨between, reads, ended⟩ := first opened items pending ready
    obtain ⟨next, reads', ended'⟩ := later between opened _ ended
    exact ⟨next, reads.trans reads' rfl, by simpa using ended'⟩
  | last trail =>
    intro reader opened items ended
    obtain ⟨next, reads, still, -⟩ := ended.reads_blanks _ trail
    exact ⟨next, reads, still⟩
  | @next position blanks word tail item derived gap apart _ _ first later =>
    intro reader opened items ended
    -- There is a blank at least, and after it the next item may begin.
    obtain ⟨between, blank, -, waits⟩ := ended.reads_blanks position gap
    obtain ⟨middle, reads, ended'⟩ := first opened items .gap (.inr rfl)
    obtain ⟨next, reads', ended''⟩ := later middle opened _ ended'
    rw [waits apart] at blank
    exact ⟨next, (blank.trans reads rfl).trans reads' (by simp; omega), by simpa using ended''⟩

end Reader
end Cubing
