import Cubing.Proofs.Moves.Looking

/-!
# Trying targets

The rules for targets are tried one after the other. Each of them makes a target that the grammar
spells, or misses all with which it could begin. There are two exceptions. After a layer count only
a face may come, so the text is dead if there is none (`Rules.dead_of_counted`). And a face without
a mark is passed over until a later rule takes it alone; by then the marks have been missed
(`Rules.Unmarked`).
-/
namespace Cubing.Rules

open Grammar

section Failing

variable {text rest : List Char} {position : Nat} {misses last : Misses}
  {kinds others : List Expectation}

/-- The rest of a text begins with something else than the end of a group. -/
def Inside (rest : List Char) : Prop := Missing .groupEnd rest ∧ rest ≠ []

/-- Nothing is made: the text is dead further on, or none of the kinds begins the rest. -/
def Fails (text : List Char) (kinds : List Expectation) (position : Nat) (rest : List Char)
    (misses : Misses) : Prop :=
  Dead text misses ∧ Inside rest ∨ ∀ kind ∈ kinds, Missed position rest kind misses

theorem inside_cons {c : Char} (opens : c ≠ ')') : Inside (c :: rest) := by
  refine ⟨⟨fun word token begins => ?_, nofun⟩, List.cons_ne_nil c rest⟩
  cases token
  exact opens (List.cons_prefix_cons.mp begins).1.symm

theorem fails_of_missed {kind : Expectation} (missed : Missed position rest kind misses) :
    Fails text [kind] position rest misses :=
  .inr fun _ listed => List.mem_singleton.mp listed ▸ missed

theorem Fails.later (fails : Fails text kinds position rest misses)
    (more : misses.Extends text last) : Fails text kinds position rest last :=
  fails.imp (fun dead => ⟨dead.1.later more, dead.2⟩) fun missed kind listed =>
    (missed kind listed).later more

/-- If one rule fails and then another one, all is missed with which either could begin. -/
theorem Fails.append (fails : Fails text kinds position rest misses)
    (fails' : Fails text others position rest misses) :
    Fails text (kinds ++ others) position rest misses := by
  rcases fails with dead | first
  · exact .inl dead
  rcases fails' with dead | second
  · exact .inl dead
  · exact .inr fun kind listed => (List.mem_append.mp listed).elim (first kind) (second kind)

end Failing

section Targets

variable {text rest : List Char} {opened : List OpenGroup} {position : Nat} {reader : Reader}
  {misses last : Misses}

/-- The kinds that make a target grow. -/
def markKinds : List Expectation := [.wideMark, .subscript]

/-- A target has been read, and it cannot grow any more. -/
def Targeted (text : List Char) (opened : List OpenGroup) (position : Nat) (rest : List Char)
    (misses : Misses) : Prop :=
  ∃ reader, Stands text position rest reader ∧ Reader.Aimed opened reader ∧
    ∀ kind ∈ markKinds, reader.allows kind = true → Missed position rest kind misses

theorem targeted_of_grown (reached : Reaches text (Reader.Grown opened) position rest misses) :
    Targeted text opened position rest misses := by
  obtain ⟨reader, stands, grown⟩ := reached
  refine ⟨reader, stands, Reader.aimed_of_grown opened reader grown, fun kind mark allowed => ?_⟩
  obtain ⟨items, start, target, closed, rfl⟩ := grown
  rcases List.mem_pair.mp mark with rfl | rfl
  · simp [Reader.allows, closed] at allowed
  · simp [Reader.allows, closed] at allowed

theorem targeted_of_growing (stands : Stands text position rest reader)
    (growing : Reader.Growing opened reader)
    (missed : ∀ kind ∈ markKinds, Missed position rest kind misses) :
    Targeted text opened position rest misses :=
  ⟨reader, stands, Reader.aimed_of_growing opened reader growing, fun kind mark _ =>
    missed kind mark⟩

theorem brings_lookUp {α : Type} {table : Table α} {kind : Expectation}
    {before after : Reader → Prop} (target : α → Target) (lists : table.Lists kind)
    (plain : kind ≠ .space ∧ kind ≠ .endOfInput) (steps : Reader.Steps before kind after)
    (sound : misses.Sound text) (stands : Stands text position rest reader)
    (holds : before reader) :
    Brings text misses (lookUp text table kind target position)
      (Comes (fun word made => ∃ value, (word, value) ∈ table ∧ made = target value)
        (Reaches text after) (Missed position rest kind) position rest) := by
  refine (brings_take lists plain steps sound stands holds).andThen ?_ fun _ _ => .lost
  rintro word tail value _ later more rfl listed rfl reached
  exact brings_return more.sound (.made rfl ⟨value, listed, rfl⟩ rfl reached)

section Marks

variable {base wide : Target} {deep : Nat → Target}

/-- Does the word make one target of the other? -/
def Completes (base : Target) (word : List Char) (target : Target) : Prop :=
  ∀ head, Spells base head → Spells target (head ++ word)

theorem brings_widen (widens : base.widen? = some wide) (sound : misses.Sound text)
    (stands : Stands text position rest reader) (growing : Reader.Growing opened reader) :
    Brings text misses (widen text wide position)
      (Comes (Completes base) (Targeted text opened) (Missed position rest .wideMark) position
        rest) := by
  have only (word : List Char) : IsToken .wideMark word ↔ word = ['w'] :=
    ⟨fun token => by cases token; rfl, fun same => same ▸ .wideMark⟩
  refine (brings_literal only (by decide) (Reader.steps_wideMark opened) sound stands
    growing).bind ?_ ?_
  · rintro _ later more (⟨tail, rfl, ⟨⟩, reached⟩ | ⟨⟨⟩, -⟩)
    have completes : Completes base ['w'] wide := fun _ spelled => spelled.widen widens
    exact brings_return more.sound (.made rfl completes rfl (targeted_of_grown reached))
  · rintro later - (⟨_, _, ⟨⟩, _⟩ | ⟨-, missed⟩)
    exact .lost missed

theorem brings_deepen (deepens : ∀ depth, base.deepen? depth = some (deep depth))
    (sound : misses.Sound text) (stands : Stands text position rest reader)
    (growing : Reader.Growing opened reader) :
    Brings text misses (lookUp text .subscripts .subscript deep position)
      (Comes (Completes base) (Targeted text opened) (Missed position rest .subscript) position
        rest) := by
  have brings := brings_lookUp deep Table.lists_subscripts (by decide)
    (Reader.steps_subscript opened) sound stands growing
  refine brings.mono fun _ later _ comes => comes.mono ?_ (fun _ _ => targeted_of_grown) id
  rintro word _ ⟨depth, listed, rfl⟩ head spelled
  exact spelled.deepen (deepens depth) (Table.mem_subscripts.mp listed)

/-- A counted face may be marked or not. -/
theorem brings_countedMark {digit : Nat} {face : Face} (sound : misses.Sound text)
    (stands : Stands text position rest reader) (growing : Reader.Growing opened reader) :
    Brings text misses
      (widen text (.deepWide digit face) position <|>
        lookUp text .subscripts .subscript (.innerBlock digit face) position <|>
        return (.innerSlice digit face, position))
      (Comes (Completes (.innerSlice digit face)) (Targeted text opened) (fun _ => False)
        position rest) := by
  have widens : Target.widen? (.innerSlice digit face) = some (.deepWide digit face) := rfl
  have deepens (depth : Nat) : Target.deepen? depth (.innerSlice digit face) =
      some (.innerBlock digit face depth) := rfl
  refine (brings_widen widens sound stands growing).otherwise fun _ more narrow => ?_
  refine (brings_deepen deepens more.sound stands growing).otherwise fun later more shallow => ?_
  have alone : Completes (.innerSlice digit face) [] (.innerSlice digit face) :=
    fun head spelled => by rwa [List.append_nil]
  have marks : ∀ kind ∈ markKinds, Missed position rest kind later := by
    simpa [markKinds] using ⟨narrow.later more, shallow⟩
  exact brings_return more.sound (.made rfl alone rfl (targeted_of_growing stands growing marks))

theorem brings_mark {face : Face} (sound : misses.Sound text)
    (stands : Stands text position rest reader) (growing : Reader.Growing opened reader) :
    Brings text misses
      (lookUp text .subscripts .subscript (.subscript face) position <|>
        widen text (.wide face) position)
      (Comes (Completes (.single face)) (Targeted text opened)
        (fun later => ∀ kind ∈ markKinds, Missed position rest kind later) position rest) := by
  have widens : Target.widen? (.single face) = some (.wide face) := rfl
  have deepens (depth : Nat) : Target.deepen? depth (.single face) =
      some (.subscript face depth) := rfl
  refine (brings_deepen deepens sound stands growing).otherwise fun _ more shallow => ?_
  refine (brings_widen widens more.sound stands growing).mono fun _ later more comes => ?_
  exact comes.of_fails fun narrow => by simpa [markKinds] using ⟨narrow, shallow.later more⟩

end Marks

/-- After a layer count only a face may come. -/
theorem dead_of_counted (stands : Stands text position rest reader)
    (counted : Reader.Counted opened reader) (missed : Missed position rest .faceLetter misses) :
    Dead text misses := by
  obtain ⟨items, start, count, rfl⟩ := counted
  refine ⟨position, rest, _, stands, rfl, fun kind allowed => ?_⟩
  obtain rfl : kind = .faceLetter := by cases kind <;> first | rfl | cases allowed
  exact missed

/-- What comes of a rule for targets that begins with the given kinds. -/
def ComesToTarget (text : List Char) (opened : List OpenGroup) (kinds : List Expectation)
    (position : Nat) (rest : List Char) : Option (Target × Nat) → Misses → Prop :=
  Comes (fun word target => Spells target word) (Targeted text opened)
    (Fails text kinds position rest) position rest

theorem brings_countedFace (sound : misses.Sound text)
    (stands : Stands text position rest reader) (begins : Reader.Begins opened reader) :
    Brings text misses (countedFace text position)
      (ComesToTarget text opened [.layerCount] position rest) := by
  refine (brings_take Table.lists_layerCounts (by decide) (Reader.steps_layerCount opened) sound
    stands begins).andThen ?_ fun _ _ missed => .lost (fails_of_missed missed)
  rintro _ rest digit _ later more rfl listed rfl ⟨next, stands', counted⟩
  obtain ⟨within, rfl⟩ := Table.mem_ofWords.mp listed
  obtain ⟨least, greatest⟩ := List.mem_range'_1.mp within
  refine (brings_take Table.lists_faces (by decide) (Reader.steps_countedFace opened) more.sound
    stands' counted).andThen ?_ fun _ _ missed => ?_
  · rintro _ rest face _ later more rfl listed rfl ⟨next, stands'', growing⟩
    obtain ⟨-, rfl⟩ := Table.mem_ofWords.mp listed
    refine (brings_countedMark more.sound stands'' growing).mono fun _ _ _ comes => ?_
    rw [← List.append_assoc]
    refine comes.after (by simp [Nat.add_assoc]) (fun word target completes => ?_) nofun
    exact completes _ (.innerSlice digit face least (by omega))
  · -- What begins with a digit is nothing else, so the other rules do not help.
    refine .lost (.inl ⟨dead_of_counted stands' counted missed, inside_cons ?_⟩)
    exact (digitChar_separate least (by omega)).2.1

/-- There is no face with a mark after it. -/
def Unmarked (position : Nat) (rest : List Char) (misses : Misses) : Prop :=
  Missed position rest .faceLetter misses ∨
    ∃ face tail, rest = [Face.letter face] ++ tail ∧
      ∀ kind ∈ markKinds, Missed (position + 1) tail kind misses

theorem Unmarked.later (unmarked : Unmarked position rest misses)
    (more : misses.Extends text last) : Unmarked position rest last := by
  rcases unmarked with missed | ⟨face, tail, split, missed⟩
  · exact .inl (missed.later more)
  · exact .inr ⟨face, tail, split, fun kind mark => (missed kind mark).later more⟩

theorem brings_markedFace (sound : misses.Sound text)
    (stands : Stands text position rest reader) (begins : Reader.Begins opened reader) :
    Brings text misses (markedFace text position)
      (Comes (fun word target => Spells target word) (Targeted text opened)
        (Unmarked position rest) position rest) := by
  refine (brings_take Table.lists_faces (by decide) (Reader.steps_faceLetter opened) sound stands
    begins).andThen ?_ fun _ _ missed => .lost (.inl missed)
  rintro _ tail face _ later more rfl listed rfl ⟨next, stands', growing⟩
  obtain ⟨-, rfl⟩ := Table.mem_ofWords.mp listed
  refine (brings_mark more.sound stands' growing).mono fun _ later _ comes => ?_
  refine comes.after rfl (fun word target completes => completes _ (.single face)) ?_
  exact fun marks => .inr ⟨face, tail, rfl, marks⟩

/-- A letter that is a target of its own, and cannot grow. -/
theorem brings_letter {α : Type} {table : Table α} {kind : Expectation} {target : α → Target}
    (lists : table.Lists kind) (plain : kind ≠ .space ∧ kind ≠ .endOfInput)
    (steps : Reader.Steps (Reader.Begins opened) kind (Reader.Grown opened))
    (spells : ∀ word value, (word, value) ∈ table → Spells (target value) word)
    (sound : misses.Sound text) (stands : Stands text position rest reader)
    (begins : Reader.Begins opened reader) :
    Brings text misses (lookUp text table kind target position)
      (ComesToTarget text opened [kind] position rest) := by
  have brings := brings_lookUp target lists plain steps sound stands begins
  refine brings.mono fun _ later _ comes =>
    comes.mono ?_ (fun _ _ => targeted_of_grown) fails_of_missed
  rintro word _ ⟨value, listed, rfl⟩
  exact spells word value listed

theorem brings_multiLayer (sound : misses.Sound text)
    (stands : Stands text position rest reader) (begins : Reader.Begins opened reader) :
    Brings text misses (multiLayer text position)
      (Comes (fun word target => Spells target word) (Targeted text opened)
        (fun later => Fails text [.layerCount, .smallLetter] position rest later ∧
          Unmarked position rest later) position rest) := by
  refine (brings_countedFace sound stands begins).otherwise fun _ more uncounted => ?_
  refine (brings_markedFace more.sound stands begins).otherwise fun _ more' unmarked => ?_
  have spells (word : List Char) (face : Face) (listed : (word, face) ∈ Table.smallFaces) :
      Spells (.wideLetter face) word := (Table.mem_ofWords.mp listed).2 ▸ .wideLetter face
  have brings := brings_letter Table.lists_smallFaces (by decide) (Reader.steps_smallLetter opened)
    spells more'.sound stands begins
  refine brings.mono fun _ _ more'' comes => comes.of_fails fun fails => ?_
  have uncounted := (uncounted.later more').later more''
  exact ⟨uncounted.append fails, unmarked.later more''⟩

/-- A face alone is tried when it is known that no mark follows. -/
theorem brings_face (unmarked : Unmarked position rest misses) (sound : misses.Sound text)
    (stands : Stands text position rest reader) (begins : Reader.Begins opened reader) :
    Brings text misses (lookUp text .faces .faceLetter .single position)
      (ComesToTarget text opened [.faceLetter] position rest) := by
  have brings := brings_lookUp .single Table.lists_faces (by decide)
    (Reader.steps_faceLetter opened) sound stands begins
  refine brings.mono fun _ later more comes => ?_
  cases comes with
  | lost missed => exact .lost (fails_of_missed missed)
  | made split made stops reached =>
    obtain ⟨face, listed, rfl⟩ := made
    obtain ⟨-, rfl⟩ := Table.mem_ofWords.mp listed
    obtain ⟨next, stands', growing⟩ := reached
    refine .made split (.single face) stops (targeted_of_growing stands' growing ?_)
    -- The same face has been read before, and no mark was found after it.
    rcases unmarked.later more with missed | ⟨_, tail, split', marks⟩
    · exact absurd ⟨_, split.symm⟩ (missed.1.1 _ (.faceLetter face))
    · obtain ⟨-, rfl⟩ := List.cons.inj (split.symm.trans split')
      exact stops ▸ marks

/-- The kinds that a target can begin with. -/
def targetKinds : List Expectation :=
  [.layerCount, .smallLetter, .faceLetter, .middleLetter, .wholeLetter]

theorem brings_target (sound : misses.Sound text)
    (stands : Stands text position rest reader) (begins : Reader.Begins opened reader) :
    Brings text misses (target text position)
      (ComesToTarget text opened targetKinds position rest) := by
  have middles (word : List Char) (axis : Axis) (listed : (word, axis) ∈ Table.middles) :
      Spells (.middle axis) word := (Table.mem_ofWords.mp listed).2 ▸ .middle axis
  have wholes (word : List Char) (whole : Axis × Bool) (listed : (word, whole) ∈ Table.wholes) :
      Spells (.whole whole.1 whole.2) word :=
    (Table.mem_ofWords.mp listed).2 ▸ .whole whole.1 whole.2
  -- What has been missed by the rules that have been tried is kept for the rule that makes nothing.
  refine (brings_multiLayer sound stands begins).otherwise fun _ more lost => ?_
  obtain ⟨fails, unmarked⟩ := lost
  refine (brings_face unmarked more.sound stands begins).otherwise fun _ more faceless => ?_
  have fails := (fails.later more).append faceless
  refine (brings_letter Table.lists_middles (by decide) (Reader.steps_middleLetter opened) middles
    more.sound stands begins).otherwise fun _ more unmiddled => ?_
  have fails := (fails.later more).append unmiddled
  refine (brings_letter Table.lists_wholes (by decide) (Reader.steps_wholeLetter opened) wholes
    more.sound stands begins).mono fun _ _ more comes => ?_
  exact comes.of_fails (fails.later more).append

end Targets

end Cubing.Rules
