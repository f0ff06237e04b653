import Cubing.Proofs.Moves.Tokens
import Cubing.Proofs.Moves.Viability

/-!
# Reading token by token

When a text of moves is read, each of its tokens is of a kind that the reader
allows when it is its turn (`Reader.exists_follows`). What a token does depends on
the stage of the reader alone: what it waits for, and which groups are open. There
is one lemma for each stage and each kind that can come there (`Reader.Steps`), and
these are put together along the pattern of a text (`Reader.passes_of_pattern`).
-/
namespace Cubing

open Grammar

namespace Reader

/-- Reading a word token by token; each of the kinds is allowed when it is its turn. -/
inductive Follows : Reader → Nat → List Char → List Expectation → Reader → Prop where
  | nil (reader : Reader) (position : Nat) : Follows reader position [] [] reader
  | cons {reader between last : Reader} {position : Nat} {kind : Expectation}
    {kinds : List Expectation} {word rest : List Char} (token : IsToken kind word)
    (allowed : reader.allows kind = true) (reads : reader.Reads position word between)
    (later : Follows between (position + word.length) rest kinds last) :
    Follows reader position (word ++ rest) (kind :: kinds) last

/-- A token of the kind is allowed and read wherever the first condition holds, and the second one
holds after it. -/
def Steps (before : Reader → Prop) (kind : Expectation) (after : Reader → Prop) : Prop :=
  ∀ reader position word, before reader → IsToken kind word →
    reader.allows kind = true ∧ ∃ next, reader.Reads position word next ∧ after next

/-- Words made of tokens of the kinds are followed wherever the first condition holds, and the
second one holds after them. -/
def Passes (before : Reader → Prop) (kinds : List Expectation) (after : Reader → Prop) : Prop :=
  ∀ reader position word, before reader → MadeOf word kinds →
    ∃ last, Follows reader position word kinds last ∧ after last

section Composition

variable {before between after : Reader → Prop} {kind : Expectation}
  {kinds others : List Expectation}

theorem Follows.append {reader middle last : Reader} {position : Nat} {first second : List Char}
    (follows : Follows reader position first kinds middle)
    (follows' : Follows middle (position + first.length) second others last) :
    Follows reader position (first ++ second) (kinds ++ others) last := by
  induction follows with
  | nil => simpa using follows'
  | cons token allowed reads _ ih =>
    rw [List.append_assoc]
    exact .cons token allowed reads (ih (by simpa [Nat.add_assoc] using follows'))

theorem Passes.nil (implies : ∀ reader, before reader → after reader) :
    Passes before [] after := by
  rintro reader position _ holds ⟨⟩
  exact ⟨reader, .nil .., implies reader holds⟩

theorem Steps.passes (steps : Steps before kind after) : Passes before [kind] after := by
  intro reader position _ holds made
  cases made with
  | @cons _ _ word _ token later =>
    cases later
    obtain ⟨allowed, next, reads, holds'⟩ := steps reader position word holds token
    exact ⟨next, .cons token allowed reads (.nil ..), holds'⟩

theorem Passes.trans (passes : Passes before kinds between)
    (passes' : Passes between others after) : Passes before (kinds ++ others) after := by
  intro reader position word holds made
  obtain ⟨first, second, rfl, made, made'⟩ := madeOf_append_iff.mp made
  obtain ⟨middle, follows, holds'⟩ := passes reader position first holds made
  obtain ⟨last, follows', holds''⟩ := passes' middle (position + first.length) second holds' made'
  exact ⟨last, follows.append follows', holds''⟩

theorem Passes.cons (steps : Steps before kind between) (passes : Passes between kinds after) :
    Passes before (kind :: kinds) after := steps.passes.trans passes

theorem Steps.mono {before' after' : Reader → Prop} (steps : Steps before kind after)
    (strengthens : ∀ reader, before' reader → before reader)
    (weakens : ∀ reader, after reader → after' reader) : Steps before' kind after' := by
  intro reader position word holds token
  have held := strengthens reader holds
  obtain ⟨allowed, next, reads, holds'⟩ := steps reader position word held token
  exact ⟨allowed, next, reads, weakens next holds'⟩

theorem Passes.mono {before' after' : Reader → Prop} (passes : Passes before kinds after)
    (strengthens : ∀ reader, before' reader → before reader)
    (weakens : ∀ reader, after reader → after' reader) : Passes before' kinds after' := by
  intro reader position word holds made
  obtain ⟨last, follows, holds'⟩ := passes reader position word (strengthens reader holds) made
  exact ⟨last, follows, weakens last holds'⟩

theorem Passes.exists {ι : Type} {given : ι → Reader → Prop}
    (passes : ∀ i, Passes (given i) kinds after) :
    Passes (fun reader => ∃ i, given i reader) kinds after := by
  rintro reader position word ⟨i, holds⟩ made
  exact passes i reader position word holds made

theorem Passes.replicate (steps : Steps before kind before) (times : Nat) :
    Passes before (List.replicate times kind) before := by
  induction times with
  | zero => exact .nil fun _ holds => holds
  | succ times ih => exact .cons steps ih

end Composition

section Stages

variable (opened : List OpenGroup) (group : OpenGroup)

/-- An item may begin. -/
def Begins (reader : Reader) : Prop :=
  ∃ items pending, (pending = .first ∨ pending = .gap) ∧ reader = ⟨opened, items, pending⟩

/-- Nothing of the innermost sequence has been read. -/
def Fresh (reader : Reader) : Prop := reader = ⟨opened, [], .first⟩

def Counted (reader : Reader) : Prop :=
  ∃ items position count, reader = ⟨opened, items, .layers position count⟩

def Aimed (reader : Reader) : Prop :=
  ∃ items position target, reader = ⟨opened, items, .target position target⟩

/-- There is a target that may grow. -/
def Growing (reader : Reader) : Prop :=
  ∃ items position target, target.isOpen = true ∧
    reader = ⟨opened, items, .target position target⟩

/-- There is a target that may not grow any more. -/
def Grown (reader : Reader) : Prop :=
  ∃ items position target, target.isOpen = false ∧
    reader = ⟨opened, items, .target position target⟩

def Closed (reader : Reader) : Prop :=
  ∃ items position inner, reader = ⟨opened, items, .group position inner⟩

/-- There is an item that nothing can be added to. -/
def Done (reader : Reader) : Prop := ∃ items, reader = ⟨opened, items, .complete⟩

/-- There are blanks after an item. -/
def Waits (reader : Reader) : Prop := ∃ items, reader = ⟨opened, items, .gap⟩

/-- The innermost sequence may end. -/
def Ends (reader : Reader) : Prop := ∃ items, Ended reader opened items

theorem begins_of_fresh (reader : Reader) (fresh : Fresh opened reader) : Begins opened reader :=
  ⟨[], .first, .inl rfl, fresh⟩

theorem begins_of_waits (reader : Reader) : Waits opened reader → Begins opened reader := by
  rintro ⟨items, rfl⟩
  exact ⟨items, .gap, .inr rfl, rfl⟩

theorem aimed_of_growing (reader : Reader) : Growing opened reader → Aimed opened reader := by
  rintro ⟨items, position, target, -, rfl⟩
  exact ⟨items, position, target, rfl⟩

theorem aimed_of_grown (reader : Reader) : Grown opened reader → Aimed opened reader := by
  rintro ⟨items, position, target, -, rfl⟩
  exact ⟨items, position, target, rfl⟩

theorem ends_of_aimed (reader : Reader) : Aimed opened reader → Ends opened reader := by
  rintro ⟨items, position, target, rfl⟩
  exact ⟨_, .target ..⟩

theorem ends_of_closed (reader : Reader) : Closed opened reader → Ends opened reader := by
  rintro ⟨items, position, inner, rfl⟩
  exact ⟨_, .group ..⟩

theorem ends_of_done (reader : Reader) : Done opened reader → Ends opened reader := by
  rintro ⟨items, rfl⟩
  exact ⟨_, .complete ..⟩

theorem ends_of_waits (reader : Reader) : Waits opened reader → Ends opened reader := by
  rintro ⟨items, rfl⟩
  exact ⟨_, .gap ..⟩

theorem Begins.mayBegin {reader : Reader} : Begins opened reader → reader.mayBegin = true := by
  rintro ⟨items, pending, rfl | rfl, rfl⟩ <;> rfl

theorem Ended.mayEnd {reader : Reader} {items : List Item} (ended : Ended reader opened items) :
    reader.mayEnd = true ∧ reader.opened = opened := by
  cases ended <;> exact ⟨rfl, rfl⟩

theorem steps_groupStart :
    Steps (Begins opened) .groupStart fun reader => ∃ group, Fresh (group :: opened) reader := by
  rintro _ position _ begins ⟨⟩
  refine ⟨begins.mayBegin, ?_⟩
  obtain ⟨items, pending, ready, rfl⟩ := begins
  have opens : (Reader.mk opened items pending).read position '(' =
      some ⟨⟨position, items⟩ :: opened, [], .first⟩ := by
    rw [read_begin ready position rfl (by decide)]
    rfl
  exact ⟨_, .cons opens (reads_nil ..), _, rfl⟩

/-- A letter that is a target of its own. -/
theorem reads_letter {reader : Reader} {c : Char} {target : Target} (position : Nat)
    (begins : Begins opened reader) (spelled : Spells target [c]) :
    ∃ items, reader.Reads position [c] ⟨opened, items, .target position target⟩ := by
  obtain ⟨items, pending, ready, rfl⟩ := begins
  exact ⟨items, reads_target ready position spelled⟩

theorem steps_faceLetter : Steps (Begins opened) .faceLetter (Growing opened) := by
  rintro reader position _ begins token
  cases token with
  | faceLetter face =>
    obtain ⟨items, reads⟩ := reads_letter opened position begins (.single face)
    exact ⟨by simp only [allows, begins.mayBegin, Bool.true_or], _, reads, items, _, _, rfl, rfl⟩

theorem steps_middleLetter : Steps (Begins opened) .middleLetter (Grown opened) := by
  rintro reader position _ begins token
  cases token with
  | middleLetter axis =>
    obtain ⟨items, reads⟩ := reads_letter opened position begins (.middle axis)
    exact ⟨begins.mayBegin, _, reads, items, _, _, rfl, rfl⟩

theorem steps_wholeLetter : Steps (Begins opened) .wholeLetter (Grown opened) := by
  rintro reader position _ begins token
  cases token with
  | wholeLetter axis capital =>
    obtain ⟨items, reads⟩ := reads_letter opened position begins (.whole axis capital)
    exact ⟨begins.mayBegin, _, reads, items, _, _, rfl, rfl⟩

theorem steps_smallLetter : Steps (Begins opened) .smallLetter (Grown opened) := by
  rintro reader position _ begins token
  cases token with
  | smallLetter face =>
    obtain ⟨items, reads⟩ := reads_letter opened position begins (.wideLetter face)
    exact ⟨begins.mayBegin, _, reads, items, _, _, rfl, rfl⟩

theorem steps_layerCount : Steps (Begins opened) .layerCount (Counted opened) := by
  rintro reader position _ begins token
  cases token with
  | layerCount count least greatest =>
    refine ⟨begins.mayBegin, ?_⟩
    obtain ⟨items, pending, ready, rfl⟩ := begins
    exact ⟨_, .cons (read_count ready position least greatest) (reads_nil ..), items, _, _, rfl⟩

theorem steps_countedFace : Steps (Counted opened) .faceLetter (Growing opened) := by
  rintro _ position _ ⟨items, start, count, rfl⟩ token
  cases token with
  | faceLetter face =>
    refine ⟨rfl, _, .cons (read_face position start count face) (reads_nil ..), ?_⟩
    exact ⟨items, _, _, rfl, rfl⟩

theorem steps_wideMark : Steps (Growing opened) .wideMark (Grown opened) := by
  rintro _ position _ ⟨items, start, target, grows, rfl⟩ ⟨⟩
  obtain ⟨wide, widens, grown⟩ := Target.exists_widen grows
  refine ⟨grows, _, .cons (read_wideMark position start widens) (reads_nil ..), ?_⟩
  exact ⟨items, _, _, grown, rfl⟩

theorem steps_subscript : Steps (Growing opened) .subscript (Grown opened) := by
  rintro _ position word ⟨items, start, target, grows, rfl⟩ token
  cases token with
  | subscript depth _ written =>
    obtain ⟨deep, deepens, grown⟩ := Target.exists_deepen grows depth
    exact ⟨grows, _, reads_subscript position start deepens written, items, _, _, grown, rfl⟩

theorem steps_modifier : Steps (Aimed opened) .modifier (Done opened) := by
  rintro _ position _ ⟨items, start, target, rfl⟩ token
  cases token with
  | modifier modifier c marked =>
    refine ⟨rfl, ?_⟩
    cases modifier with
    | none => cases marked
    | prime => cases marked; exact ⟨_, .cons rfl (reads_nil ..), _, rfl⟩
    | double => cases marked; exact ⟨_, .cons rfl (reads_nil ..), _, rfl⟩

theorem steps_groupEnd : Steps (Ends (group :: opened)) .groupEnd (Closed opened) := by
  rintro reader position _ ⟨items, ended⟩ ⟨⟩
  obtain ⟨mayEnd, same⟩ := ended.mayEnd
  refine ⟨by simp [allows, mayEnd, same], _, .cons (ended.read_closing position) (reads_nil ..), ?_⟩
  exact ⟨_, _, _, rfl⟩

theorem steps_repeatCount : Steps (Closed opened) .repeatCount (Done opened) := by
  rintro _ position _ ⟨items, start, inner, rfl⟩ token
  cases token with
  | repeatCount count least greatest =>
    exact ⟨rfl, _, .cons (read_repeat position start inner least greatest) (reads_nil ..), _, rfl⟩

theorem steps_space : Steps (Ends opened) .space (Waits opened) := by
  rintro reader position _ ⟨items, ended⟩ token
  cases token with
  | space c blank =>
    obtain ⟨mayEnd, -⟩ := ended.mayEnd
    refine ⟨by simp [allows, mayEnd], _, .cons (ended.read_blank position blank) (reads_nil ..), ?_⟩
    exact ⟨_, rfl⟩

theorem steps_lead : Steps (Fresh (group :: opened)) .space (Fresh (group :: opened)) := by
  rintro _ position _ ⟨⟩ token
  cases token with
  | space c blank =>
    exact ⟨rfl, _, reads_lead group opened position (blanks_singleton_iff.mpr blank), rfl⟩

theorem passes_target (target : Target) : Passes (Begins opened) target.kinds (Aimed opened) := by
  have growing (reader : Reader) : Growing opened reader → Aimed opened reader :=
    aimed_of_growing opened reader
  have grown {before : Reader → Prop} {kind : Expectation}
      (steps : Steps before kind (Grown opened)) : Passes before [kind] (Aimed opened) :=
    steps.passes.mono (fun _ => id) (aimed_of_grown opened)
  cases target with
  | single => exact (steps_faceLetter opened).passes.mono (fun _ => id) growing
  | middle => exact grown (steps_middleLetter opened)
  | whole => exact grown (steps_wholeLetter opened)
  | wideLetter => exact grown (steps_smallLetter opened)
  | wide => exact .cons (steps_faceLetter opened) (grown (steps_wideMark opened))
  | deepWide =>
    exact .cons (steps_layerCount opened)
      (.cons (steps_countedFace opened) (grown (steps_wideMark opened)))
  | subscript => exact .cons (steps_faceLetter opened) (grown (steps_subscript opened))
  | innerSlice =>
    exact .cons (steps_layerCount opened)
      ((steps_countedFace opened).passes.mono (fun _ => id) growing)
  | innerBlock =>
    exact .cons (steps_layerCount opened)
      (.cons (steps_countedFace opened) (grown (steps_subscript opened)))

theorem passes_modifier (modifier : Modifier) :
    Passes (Aimed opened) modifier.kinds (Ends opened) := by
  cases modifier with
  | none => exact .nil (ends_of_aimed opened)
  | prime | double =>
    exact (steps_modifier opened).passes.mono (fun _ => id) (ends_of_done opened)

theorem passes_count {count : List Expectation} (counted : count ∈ [[], [.repeatCount]]) :
    Passes (Closed opened) count (Ends opened) := by
  simp only [List.mem_cons, List.not_mem_nil, or_false] at counted
  rcases counted with rfl | rfl
  · exact .nil (ends_of_closed opened)
  · exact (steps_repeatCount opened).passes.mono (fun _ => id) (ends_of_done opened)

end Stages

/-- Where the symbol may stand, words made of tokens of its kinds are followed to where the sequence
may end. -/
def PassesAs (symbol : Symbol) (kinds : List Expectation) : Prop :=
  match symbol with
  | .item | .expression => ∀ opened, Passes (Begins opened) kinds (Ends opened)
  | .more => ∀ opened, Passes (Ends opened) kinds (Ends opened)

theorem passes_of_pattern {symbol : Symbol} {kinds : List Expectation}
    (pattern : Pattern symbol kinds) : PassesAs symbol kinds := by
  -- The induction is on the pattern; any groups may be open around it, since its own groups open
  -- more of them.
  induction pattern with
  | move target modifier =>
    exact fun opened => (passes_target opened target).trans (passes_modifier opened modifier)
  | @group body count blanks _ counted ih =>
    intro opened
    have inside (group : OpenGroup) : Passes (Fresh (group :: opened))
        (List.replicate blanks .space ++ body ++ .groupEnd :: count) (Ends opened) := by
      have lead := Passes.replicate (steps_lead opened group) blanks
      have inner := (ih (group :: opened)).mono (begins_of_fresh _) fun _ => id
      have closing := Passes.cons (steps_groupEnd opened group) (passes_count opened counted)
      exact (lead.trans inner).trans closing
    simpa using Passes.cons (steps_groupStart opened) (.exists inside)
  | expression _ _ first later => exact fun opened => (first opened).trans (later opened)
  | last blanks =>
    intro opened
    exact .replicate ((steps_space opened).mono (fun _ => id) (ends_of_waits opened)) blanks
  | next blanks _ _ first later =>
    intro opened
    -- After the first blank an item may begin, and further blanks make no difference.
    have wider := (steps_space opened).mono (ends_of_waits opened) fun _ => id
    have gap := Passes.replicate wider blanks
    have item := (first opened).mono (begins_of_waits opened) fun _ => id
    exact ((Passes.cons (steps_space opened) gap).trans item).trans (later opened)

/-- The tokens of a text are followed from the start. -/
theorem exists_follows {word : List Char} {kinds : List Expectation} (made : MadeOf word kinds)
    (pattern : Pattern .expression kinds) :
    ∃ last, Follows start 0 word kinds last ∧ Ends [] last := by
  have begins : Begins [] start := ⟨[], .first, .inl rfl, rfl⟩
  exact passes_of_pattern pattern [] start 0 word begins made

end Reader

end Cubing
