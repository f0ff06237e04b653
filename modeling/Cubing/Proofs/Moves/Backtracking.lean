import Cubing.Proofs.Moves.Targets

/-!
# Trying alternatives comes to the same

Reading moves by rules that try alternatives comes to the same as reading them once from left to
right (`parse_eq_readMoveChars`): the same items with the same positions, or a failure at the same
position with the same kinds expected. After an item that has been read, all has been missed that
could be added to it (`Rules.Settled`). An expression that has been read can only end where it
stops, unless the text is dead further on (`Rules.Closes`); this is so when an item has been begun
there and given up, and then no way back makes the text whole again.
-/
namespace Cubing

open Grammar

namespace Rules

/-- The kinds that may come after an item that has been read. -/
def endKinds : List Expectation := [.space, .groupEnd, .endOfInput]

/-- The kinds that an item can begin with. -/
def itemKinds : List Expectation := .groupStart :: targetKinds

section Stages

variable {opened : List OpenGroup} {reader : Reader} {kind : Expectation}

theorem allows_of_aimed (aimed : Reader.Aimed opened reader)
    (allowed : reader.allows kind = true) :
    kind ∈ endKinds ∨ kind = .modifier ∨ kind ∈ markKinds := by
  obtain ⟨items, start, target, rfl⟩ := aimed
  cases kind <;> first | decide | cases allowed

theorem allows_of_closed (closed : Reader.Closed opened reader)
    (allowed : reader.allows kind = true) : kind ∈ endKinds ∨ kind = .repeatCount := by
  obtain ⟨items, start, inner, rfl⟩ := closed
  cases kind <;> first | decide | cases allowed

theorem allows_of_done (done : Reader.Done opened reader) (allowed : reader.allows kind = true) :
    kind ∈ endKinds := by
  obtain ⟨items, rfl⟩ := done
  cases kind <;> first | decide | cases allowed

theorem allows_of_waits (waits : Reader.Waits opened reader)
    (allowed : reader.allows kind = true) : kind ∈ endKinds ∨ kind ∈ itemKinds := by
  obtain ⟨items, rfl⟩ := waits
  cases kind <;> first | decide | cases allowed

theorem allows_of_fresh (fresh : Reader.Fresh opened reader)
    (allowed : reader.allows kind = true) :
    kind ∈ itemKinds ∨ kind = .space ∧ opened ≠ [] := by
  obtain rfl := fresh
  cases opened <;> cases kind <;>
    first | exact .inl (by decide) | exact .inr ⟨rfl, List.cons_ne_nil _ _⟩ | cases allowed

end Stages

variable {text rest : List Char} {opened : List OpenGroup} {position : Nat}
  {reader : Reader} {misses last : Misses}

/-- An item has been read, and nothing can be added to it. -/
def Settled (text : List Char) (opened : List OpenGroup) (position : Nat) (rest : List Char)
    (misses : Misses) : Prop :=
  ∃ reader, Stands text position rest reader ∧ Reader.Ends opened reader ∧
    ∀ kind, reader.allows kind = true → kind ∈ endKinds ∨ Missed position rest kind misses

theorem Settled.later (settled : Settled text opened position rest misses)
    (more : misses.Extends text last) : Settled text opened position rest last := by
  obtain ⟨reader, stands, ends, others⟩ := settled
  refine ⟨reader, stands, ends, fun kind allowed => ?_⟩
  exact (others kind allowed).imp_right fun missed => missed.later more

theorem settled_of_done (reached : Reaches text (Reader.Done opened) position rest misses) :
    Settled text opened position rest misses := by
  obtain ⟨reader, stands, done⟩ := reached
  exact ⟨reader, stands, Reader.ends_of_done opened reader done, fun kind allowed =>
    .inl (allows_of_done done allowed)⟩

/-- What comes of a rule for items that begins with the given kinds. -/
def ComesToItem (text : List Char) (opened : List OpenGroup) (kinds : List Expectation)
    (position : Nat) (rest : List Char) : Option (Item × Nat) → Misses → Prop :=
  Comes (fun word item => Derives .item position word [item]) (Settled text opened)
    (Fails text kinds position rest) position rest

section Moves

/-- If there is no modifier after a target, the move is over. -/
theorem brings_modifier (sound : misses.Sound text)
    (targeted : Targeted text opened position rest misses) :
    Brings text misses (take text .modifiers .modifier position <|> return (.none, position))
      (Comes (fun word modifier => word = modifier.mark?.toList) (Settled text opened)
        (fun _ => False) position rest) := by
  obtain ⟨reader, stands, aimed, marks⟩ := targeted
  have takes := (brings_take Table.lists_modifiers (by decide) (Reader.steps_modifier opened)
    sound stands aimed).mono fun _ _ _ comes => comes.mono
      (fun _ _ listed => (Table.mem_ofWords.mp listed).2) (fun _ _ => settled_of_done) id
  refine takes.otherwise fun _ more missed => ?_
  -- The marks that the target could have had were looked for when it was read.
  refine brings_return more.sound (.made rfl rfl rfl ⟨reader, stands, ?_, fun kind allowed => ?_⟩)
  · exact Reader.ends_of_aimed opened reader aimed
  · rcases allows_of_aimed aimed allowed with ending | rfl | mark
    · exact .inl ending
    · exact .inr missed
    · exact .inr ((marks kind mark allowed).later more)

theorem brings_move (sound : misses.Sound text) (stands : Stands text position rest reader)
    (begins : Reader.Begins opened reader) :
    Brings text misses (move text position)
      (ComesToItem text opened targetKinds position rest) := by
  refine (brings_target sound stands begins).andThen ?_ fun _ _ => .lost
  rintro word tail target stop later more rfl spelled rfl targeted
  refine (brings_modifier more.sound targeted).andThen ?_ nofun
  rintro _ tail modifier _ later more rfl rfl rfl settled
  refine brings_return more.sound (.made (List.append_assoc ..).symm ?_ ?_ settled)
  · exact .move modifier spelled
  · rw [List.length_append, Nat.add_assoc]

end Moves

/-- An expression has been read. It can only end here, unless the text is dead further on. -/
def Closes (text : List Char) (opened : List OpenGroup) (position : Nat) (rest : List Char)
    (misses : Misses) : Prop :=
  ∃ reader, Stands text position rest reader ∧ Reader.Ends opened reader ∧
    (Dead text misses ∧ Inside rest ∨ ∀ kind, reader.allows kind = true →
      kind ∈ [.groupEnd, .endOfInput] ∨ Missed position rest kind misses)

theorem Closes.later (closes : Closes text opened position rest misses)
    (more : misses.Extends text last) : Closes text opened position rest last := by
  obtain ⟨reader, stands, ends, others⟩ := closes
  refine ⟨reader, stands, ends, others.imp (fun dead => ⟨dead.1.later more, dead.2⟩) ?_⟩
  exact fun others kind allowed => (others kind allowed).imp_right fun missed => missed.later more

/-- The text is dead if an expression cannot end where it must end. -/
theorem Closes.dead (closes : Closes text opened position rest misses)
    (missed : ∀ reader, Reader.Ends opened reader → ∀ kind ∈ [Expectation.groupEnd, .endOfInput],
      reader.allows kind = true → Missed position rest kind misses) : Dead text misses := by
  obtain ⟨reader, stands, ends, ⟨dead, -⟩ | others⟩ := closes
  · exact dead
  · have whole : reader.isHalf = false :=
      reader.isHalf_eq_false_of_allows
        (allows_of_steps (Reader.steps_space opened) ends (by decide))
    refine ⟨position, rest, reader, stands, whole, fun kind allowed => ?_⟩
    exact (others kind allowed).elim (fun ending => missed reader ends kind ending allowed) id

/-- The rule is one for expressions, where less than the bound is to come. -/
def Expresses (text : List Char) (inner : Nat → Rule (List Item × Nat)) (bound : Nat) : Prop :=
  ∀ {opened misses position rest reader}, misses.Sound text →
    Stands text position rest reader → Reader.Begins opened reader → rest.length < bound →
    Brings text misses (inner position)
      (Comes (fun word items => Derives .expression position word items) (Closes text opened)
        (Fails text itemKinds position rest) position rest)

section Groups

variable {group : OpenGroup} {inner : Nat → Rule (List Item × Nat)} {bound : Nat}

theorem Table.repeats_of_mem {word : List Char} {times : Nat}
    (listed : (word, times) ∈ Table.repeatCounts) : Repeats times word := by
  obtain ⟨within, rfl⟩ := Table.mem_ofWords.mp listed
  obtain ⟨least, greatest⟩ := List.mem_range'_1.mp within
  exact .times times least (by omega)

theorem brings_repeat (sound : misses.Sound text) (stands : Stands text position rest reader)
    (closed : Reader.Closed opened reader) :
    Brings text misses (take text .repeatCounts .repeatCount position <|> return (1, position))
      (Comes (fun word times => Repeats times word) (Settled text opened) (fun _ => False)
        position rest) := by
  have takes : Brings text misses (take text .repeatCounts .repeatCount position)
      (Comes (fun word times => Repeats times word) (Settled text opened)
        (Missed position rest .repeatCount) position rest) :=
    (brings_take Table.lists_repeatCounts (by decide) (Reader.steps_repeatCount opened) sound
      stands closed).mono fun _ _ _ comes =>
        comes.mono (fun _ _ => Table.repeats_of_mem) (fun _ _ => settled_of_done) id
  refine takes.otherwise fun _ more missed => ?_
  refine brings_return more.sound (.made rfl .once rfl ⟨reader, stands, ?_, fun kind allowed => ?_⟩)
  · exact Reader.ends_of_closed opened reader closed
  · rcases allows_of_closed closed allowed with ending | rfl
    · exact .inl ending
    · exact .inr missed

/-- A group is closed after its last item, and not before. -/
theorem brings_closing {items : List Item} {start : Nat} (sound : misses.Sound text)
    (closes : Closes text (group :: opened) position rest misses) :
    Brings text misses
      (do
        let position ← literal text ')' .groupEnd position
        let (times, position) ←
          take text .repeatCounts .repeatCount position <|> return (1, position)
        return (Item.group items times start, position))
      (Comes (fun word item => ∃ times count, word = ')' :: count ∧ Repeats times count ∧
          item = .group items times start) (Settled text opened) (Dead text) position rest) := by
  obtain ⟨reader, stands, ends, -⟩ := id closes
  have only (word : List Char) : IsToken .groupEnd word ↔ word = [')'] :=
    ⟨fun token => by cases token; rfl, fun same => same ▸ .groupEnd⟩
  refine (brings_literal only (by decide) (Reader.steps_groupEnd opened group) sound stands
    ends).bind ?_ ?_
  · rintro _ later more (⟨tail, rfl, ⟨⟩, next, stands', closed⟩ | ⟨⟨⟩, -⟩)
    refine (brings_repeat more.sound stands' closed).andThen ?_ nofun
    rintro count tail times _ later more rfl repeats rfl settled
    have split := (List.append_assoc [')'] count tail).symm
    refine brings_return more.sound (.made split ⟨times, count, rfl, repeats, rfl⟩ ?_ settled)
    rw [List.length_append, ← Nat.add_assoc]
    rfl
  · rintro later more (⟨_, _, ⟨⟩, _⟩ | ⟨-, missed⟩)
    refine .lost ((closes.later more).dead fun reader ends kind ending allowed => ?_)
    rcases List.mem_pair.mp ending with rfl | rfl
    · exact missed
    · -- The text may not end within a group.
      obtain ⟨_, ended⟩ := ends
      simp [Reader.allows, ended.mayEnd.2] at allowed

/-- A sequence begins with an item. -/
theorem dead_of_fresh (stands : Stands text position rest reader)
    (fresh : Reader.Fresh opened reader)
    (missed : ∀ kind ∈ itemKinds, Missed position rest kind misses)
    (dark : opened ≠ [] → Missed position rest .space misses) : Dead text misses := by
  have whole : reader.isHalf = false := by rw [fresh]; rfl
  refine ⟨position, rest, reader, stands, whole, fun kind allowed => ?_⟩
  rcases allows_of_fresh fresh allowed with listed | ⟨rfl, inner⟩
  · exact missed kind listed
  · exact dark inner

theorem brings_group (expresses : Expresses text inner bound) (short : rest.length ≤ bound)
    (sound : misses.Sound text) (stands : Stands text position rest reader)
    (begins : Reader.Begins opened reader) :
    Brings text misses (Rules.group text inner position)
      (ComesToItem text opened [.groupStart] position rest) := by
  have only (word : List Char) : IsToken .groupStart word ↔ word = ['('] :=
    ⟨fun token => by cases token; rfl, fun same => same ▸ .groupStart⟩
  refine (brings_literal only (by decide) (Reader.steps_groupStart opened) sound stands
    begins).bind ?_ ?_
  · rintro _ later more (⟨tail, rfl, ⟨⟩, next, stands', group, fresh⟩ | ⟨⟨⟩, -⟩)
    have skips (blanks : List Char) (blank : Blanks blanks) :
        ∃ last, next.Reads (position + 1) blanks last ∧ last.allows .space = true ∧
          Reader.Fresh (group :: opened) last :=
      ⟨next, fresh ▸ Reader.reads_lead group opened _ blank, by rw [fresh]; rfl, fresh⟩
    refine (brings_skipSpaces more.sound stands' skips).bind_some ?_
    rintro _ later more ⟨blanks, tail, last, rfl, -, blank, rfl, stands'', fresh, unspaced⟩
    -- After the parenthesis there is no other way than that of a group.
    have dies {later : Misses} (dead : Dead text later) :
        Fails text [.groupStart] position (['('] ++ (blanks ++ tail)) later :=
      .inl ⟨dead, inside_cons (by decide)⟩
    have shorter : tail.length < bound := by
      simp only [List.length_append, List.length_singleton] at short
      omega
    have begins := Reader.begins_of_fresh _ _ fresh
    refine (expresses more.sound stands'' begins shorter).andThen ?_ fun later more' fails => ?_
    · rintro body tail items _ later more rfl inner rfl closes
      refine (brings_closing more.sound closes).mono fun _ later _ comes => ?_
      have split : ['('] ++ (blanks ++ (body ++ tail)) = ('(' :: blanks ++ body) ++ tail := by
        simp
      rw [split] at dies ⊢
      refine comes.after ?_ (fun word item made => ?_) dies
      · simp only [List.cons_append, List.length_cons, List.length_append]
        omega
      · obtain ⟨times, count, rfl, repeats, rfl⟩ := made
        exact .group blank inner repeats
    · refine .lost (dies ?_)
      rcases fails with ⟨dead, -⟩ | missed
      · exact dead
      · exact dead_of_fresh stands'' fresh missed fun _ => unspaced.later more'
  · rintro later - (⟨_, _, ⟨⟩, _⟩ | ⟨-, missed⟩)
    exact .lost (fails_of_missed missed)

theorem brings_item (expresses : Expresses text inner bound) (short : rest.length ≤ bound)
    (sound : misses.Sound text) (stands : Stands text position rest reader)
    (begins : Reader.Begins opened reader) :
    Brings text misses (item text inner position)
      (ComesToItem text opened itemKinds position rest) := by
  refine (brings_group expresses short sound stands begins).otherwise fun _ more ungrouped => ?_
  refine (brings_move more.sound stands begins).mono fun _ _ more comes => ?_
  exact comes.of_fails (ungrouped.later more).append

end Groups

section Sequences

variable {inner : Nat → Rule (List Item × Nat)} {bound : Nat}

/-- Items have been read, and no other one comes after the spaces that follow. -/
def Tried (text : List Char) (opened : List OpenGroup) (position : Nat) (rest : List Char)
    (misses : Misses) : Prop :=
  Settled text opened position rest misses ∧
    ∀ blanks tail, rest = blanks ++ tail → rest.takeWhile Text.isBlank = blanks → blanks ≠ [] →
      Fails text itemKinds (position + blanks.length) tail misses

/-- Does the word hold more items, whatever blanks come after it? -/
def Continues (position : Nat) (word : List Char) (items : List Item) : Prop :=
  ∀ blanks, Blanks blanks → Derives .more position (word ++ blanks) items

/-- Spaces after an item are skipped, and another item may begin after them. -/
theorem brings_gap (sound : misses.Sound text) (stands : Stands text position rest reader)
    (ends : Reader.Ends opened reader) :
    Brings text misses (skipSpaces text position) fun result later =>
      ∃ stop, result = some stop ∧ ∃ blanks tail next, rest = blanks ++ tail ∧
        rest.takeWhile Text.isBlank = blanks ∧ Blanks blanks ∧ stop = position + blanks.length ∧
        Stands text stop tail next ∧
        (Reader.Ends opened next ∧ (blanks = [] → next = reader) ∧
          (blanks ≠ [] → Reader.Waits opened next)) ∧ Missed stop tail .space later := by
  refine brings_skipSpaces sound stands fun blanks blank => ?_
  obtain ⟨items, ended⟩ := ends
  obtain ⟨next, reads, ended', waits⟩ := ended.reads_blanks position blank
  refine ⟨next, reads, ?_, ⟨items, ended'⟩, ?_, fun apart => ⟨items, waits apart⟩⟩
  · exact allows_of_steps (Reader.steps_space opened) ⟨items, ended'⟩ (by decide)
  · rintro rfl
    exact (Prod.mk.inj reads).1.symm

/-- No more items are read. -/
theorem brings_none (sound : misses.Sound text)
    (settled : Settled text opened position rest misses)
    (tried : ∀ blanks tail, rest = blanks ++ tail → rest.takeWhile Text.isBlank = blanks →
      blanks ≠ [] → Fails text itemKinds (position + blanks.length) tail misses) :
    Brings text misses (return ([], position))
      (Comes (Continues position) (Tried text opened) (fun _ => False) position rest) :=
  brings_return sound (.made (List.nil_append rest).symm (fun _ blank => .last blank) rfl
    ⟨settled, tried⟩)

theorem brings_more (expresses : Expresses text inner bound) (count : Nat)
    (short : rest.length ≤ bound) (few : rest.length ≤ count) (sound : misses.Sound text)
    (settled : Settled text opened position rest misses) :
    Brings text misses (more text inner count position)
      (Comes (Continues position) (Tried text opened) (fun _ => False) position rest) := by
  -- The induction is on the bound for the number of items; each of them takes a space at least.
  induction count generalizing position rest misses with
  | zero =>
    obtain rfl := List.eq_nil_of_length_eq_zero (Nat.le_zero.mp few)
    refine brings_none sound settled ?_
    rintro _ _ - rfl apart
    exact absurd rfl apart
  | succ count ih =>
    obtain ⟨reader, stands, ends, -⟩ := id settled
    refine (brings_gap sound stands ends).bind_some ?_
    rintro _ later more ⟨blanks, tail, next, rfl, skipped, blank, rfl, stands', after, -⟩
    obtain ⟨-, -, waits⟩ := after
    have settled := settled.later more
    dsimp only
    split
    next same =>
      -- There is no space, so there is no other item.
      refine brings_none more.sound settled ?_
      rintro _ _ - rfl apart
      exact absurd (skipped.trans (List.eq_nil_of_length_eq_zero (by omega))) apart
    next further =>
      have apart : blanks ≠ [] := by
        rintro rfl
        exact further rfl
      have spaced : 0 < blanks.length := List.length_pos_iff.mpr apart
      have begins := Reader.begins_of_waits _ _ (waits apart)
      rw [List.length_append] at short few
      refine (brings_item expresses (by omega) more.sound stands' begins).optional.bind_some ?_
      intro result later more came
      cases came with
      | lost fails =>
        -- The spaces are given back: the expression skips them once more at its end.
        refine brings_none more.sound (settled.later more) ?_
        rintro _ _ split rfl -
        rw [skipped] at split ⊢
        rwa [← List.append_cancel_left split]
      | @made word tail item _ _ split first stops settled' =>
        subst split stops
        rw [List.length_append] at short few
        refine (ih (by omega) (by omega) more.sound settled').andThen ?_ nofun
        rintro word' tail items _ later more rfl continues rfl tried
        have split : blanks ++ (word ++ (word' ++ tail)) = blanks ++ word ++ word' ++ tail := by
          simp only [List.append_assoc]
        refine brings_return more.sound (.made split (fun trail trailing => ?_) ?_ tried)
        · rw [List.append_assoc _ word' trail]
          exact .next blank apart first (continues trail trailing)
        · simp only [List.length_append, Nat.add_assoc]

/-- An expression ends after the spaces that follow its last item. -/
theorem brings_trail (sound : misses.Sound text)
    (tried : Tried text opened position rest misses) :
    Brings text misses (skipSpaces text position) fun result later =>
      ∃ stop, result = some stop ∧ ∃ blanks tail, rest = blanks ++ tail ∧ Blanks blanks ∧
        stop = position + blanks.length ∧ Closes text opened stop tail later := by
  obtain ⟨⟨reader, stands, ends, settled⟩, tried⟩ := tried
  refine (brings_gap sound stands ends).mono ?_
  rintro _ later more ⟨_, rfl, blanks, tail, next, rfl, skipped, blank, rfl, stands', after,
    unspaced⟩
  obtain ⟨ends', same, waits⟩ := after
  refine ⟨_, rfl, blanks, tail, rfl, blank, rfl, next, stands', ends', ?_⟩
  have closing {kind : Expectation} (ending : kind ∈ endKinds) :
      kind ∈ [.groupEnd, .endOfInput] ∨ Missed (position + blanks.length) tail kind later := by
    rcases List.mem_cons.mp ending with rfl | ending
    · exact .inr unspaced
    · exact .inl ending
  -- Without spaces the item is where it was; after spaces only another item could have followed.
  rcases eq_or_ne blanks [] with rfl | apart
  · obtain rfl := same rfl
    refine .inr fun kind allowed => ?_
    rcases settled kind allowed with ending | missed
    · exact closing ending
    · exact .inr (missed.later more)
  · rcases tried blanks tail rfl skipped apart with ⟨dead, inside⟩ | unbegun
    · exact .inl ⟨dead.later more, inside⟩
    · refine .inr fun kind allowed => ?_
      rcases allows_of_waits (waits apart) allowed with ending | listed
      · exact closing ending
      · exact .inr ((unbegun kind listed).later more)

theorem expresses_expression (bound : Nat) : Expresses text (expression text bound) bound := by
  -- The induction is on the bound for open groups; each of them takes a character at least.
  induction bound with
  | zero =>
    intro _ _ _ _ _ _ _ _ short
    exact absurd short (Nat.not_lt_zero _)
  | succ bound expresses =>
    intro opened misses position rest reader sound stands begins short
    refine (brings_item expresses (by omega) sound stands begins).andThen ?_ fun _ _ => .lost
    rintro word tail item _ later more rfl first rfl settled
    have length := stands.length
    rw [List.length_append] at short length
    refine (brings_more expresses text.length (by omega) (by omega) more.sound settled).andThen
      ?_ nofun
    rintro word' tail items _ later more rfl continues rfl tried
    refine (brings_trail more.sound tried).bind_some ?_
    rintro _ later more ⟨blanks, tail, rfl, blank, rfl, closes⟩
    have split : word ++ (word' ++ (blanks ++ tail)) = word ++ (word' ++ blanks) ++ tail := by
      simp only [List.append_assoc]
    refine brings_return more.sound (.made split ?_ ?_ closes)
    · exact .expression first (continues blanks blank)
    · simp only [List.length_append, Nat.add_assoc]

end Sequences

/-- What has become of a text whose misses are `misses`: a derivation by the grammar where there
are items, and otherwise a text that cannot be mended after the furthest miss. -/
inductive Verdict (text : List Char) (misses : Misses) : Option (List Item) → Prop
  | derived {items} (derives : Derives .expression 0 text items) : Verdict text misses (some items)
  | dead (dead : Dead text misses) : Verdict text misses none

/-- A text that the rules do not derive by the grammar is dead. -/
theorem brings_whole (text : List Char) :
    Brings text .none (whole text) fun result later => Verdict text later result := by
  have begins : Reader.Begins [] .start := ⟨[], .first, .inl rfl, rfl⟩
  have stands := Stands.start text
  have sound := Misses.sound_none text
  refine (expresses_expression (text.length + 1) sound stands begins (by omega)).andThen ?_ ?_
  · rintro word tail items _ later more split derived rfl closes
    have length := congrArg List.length split
    rw [List.length_append] at length
    dsimp only
    split
    next ended =>
      obtain rfl := List.eq_nil_of_length_eq_zero (show tail.length = 0 by omega)
      rw [List.append_nil] at split
      exact brings_return more.sound (.derived (split ▸ derived))
    next unended =>
      obtain ⟨reader, stands, ⟨_, ended⟩, -⟩ := id closes
      have allowed : reader.allows .endOfInput = true := by
        simp [Reader.allows, ended.mayEnd]
      have unread : tail ≠ [] := by
        rintro rfl
        rw [List.length_nil] at length
        omega
      refine (brings_missed more.sound stands allowed (by decide)
        (missing_endOfInput unread)).mono ?_
      rintro _ later more ⟨rfl, missed⟩
      refine .dead ((closes.later more).dead fun reader ends kind ending allowed => ?_)
      rcases List.mem_pair.mp ending with rfl | rfl
      · -- There is no group to close.
        obtain ⟨_, ended⟩ := ends
        simp [Reader.allows, ended.mayEnd.2] at allowed
      · exact missed
  · rintro later - (⟨dead, -⟩ | missed)
    · exact .dead dead
    · exact .dead (dead_of_fresh stands rfl missed fun inner => absurd rfl inner)

end Rules

/-- Reading moves by rules that try alternatives comes to the same as reading them once. -/
theorem parse_eq_readMoveChars (text : List Char) : parse text = readMoveChars text := by
  obtain ⟨more, holds⟩ := Rules.brings_whole text
  rw [parse]
  generalize (Rules.whole text).run .none = ran at more holds ⊢
  obtain ⟨result, misses⟩ := ran
  cases holds with
  | derived derives => exact (readMoveChars_eq_ok_iff.mpr derives).symm
  | dead dead => exact (readMoveChars_eq_error_of_dead more.sound dead).symm

end Cubing
