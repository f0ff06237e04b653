import Mathlib.Data.List.TakeWhile
import Cubing.Proofs.Moves.Furthest

/-!
# What rules bring about

A rule is judged by what it brings about where a reader stands (`Brings`): what it makes, where it
stops, and what has been missed then. If it makes something, a word of the rest of the text is used
up for it, and if not, it is known why (`Comes`). The rules that look at the text itself are judged
here, those that take a word, meet a character or skip spaces. The reader goes on past what they
find, and what they do not find is missed.
-/
namespace Cubing

open Grammar

namespace Rule

variable {α β : Type}

theorem run_bind (rule : Rule α) (next : α → Rule β) (misses : Misses) :
    (rule >>= next).run misses =
      match rule.run misses with
      | (some value, later) => (next value).run later
      | (none, later) => (none, later) := by
  simp only [bind, OptionT.bind, StateT.bind, OptionT.run, OptionT.mk]
  rcases rule misses with ⟨_ | value, later⟩
  all_goals rfl

theorem run_orElse (rule other : Rule α) (misses : Misses) :
    (rule <|> other).run misses =
      match rule.run misses with
      | (some value, later) => (some value, later)
      | (none, later) => other.run later := by
  simp only [HOrElse.hOrElse, OrElse.orElse, Alternative.orElse, OptionT.orElse, bind,
    StateT.bind, OptionT.run, OptionT.mk]
  rcases rule misses with ⟨_ | value, later⟩
  all_goals rfl

theorem run_optional (rule : Rule α) (misses : Misses) :
    (optional rule).run misses = (some (rule.run misses).1, (rule.run misses).2) := by
  rw [optional, run_orElse, map_eq_pure_bind, run_bind]
  rcases rule.run misses with ⟨_ | value, later⟩
  all_goals rfl

end Rule

/-- What comes of a rule. What it misses extends what has been missed before. -/
def Brings {α : Type} (text : List Char) (misses : Misses) (rule : Rule α)
    (post : Option α → Misses → Prop) : Prop :=
  misses.Extends text (rule.run misses).2 ∧ post (rule.run misses).1 (rule.run misses).2

/-- What comes of a rule where the rest of a text is to come: something that uses up a word, or
nothing. -/
inductive Comes {α : Type} (makes : List Char → α → Prop)
    (reaches : Nat → List Char → Misses → Prop) (fails : Misses → Prop) (position : Nat)
    (rest : List Char) : Option (α × Nat) → Misses → Prop where
  | made {word tail : List Char} {value : α} {stop : Nat} {later : Misses}
    (split : rest = word ++ tail) (made : makes word value)
    (stops : stop = position + word.length) (reached : reaches stop tail later) :
    Comes makes reaches fails position rest (some (value, stop)) later
  | lost {later : Misses} (failed : fails later) :
    Comes makes reaches fails position rest none later

section Brings

variable {α β : Type} {text : List Char} {misses : Misses} {rule other : Rule α}
  {post post' : Option α → Misses → Prop}

theorem Brings.mono (brings : Brings text misses rule post)
    (implies : ∀ result later, misses.Extends text later → post result later →
      post' result later) :
    Brings text misses rule post' := ⟨brings.1, implies _ _ brings.1 brings.2⟩

theorem Brings.bind {next : α → Rule β} {post' : Option β → Misses → Prop}
    (brings : Brings text misses rule post)
    (made : ∀ value later, misses.Extends text later → post (some value) later →
      Brings text later (next value) post')
    (lost : ∀ later, misses.Extends text later → post none later → post' none later) :
    Brings text misses (rule >>= next) post' := by
  obtain ⟨more, holds⟩ := brings
  rw [Brings, Rule.run_bind]
  generalize rule.run misses = ran at more holds ⊢
  rcases ran with ⟨_ | value, later⟩
  · exact ⟨more, lost later more holds⟩
  · obtain ⟨more', holds'⟩ := made value later more holds
    exact ⟨more.trans more', holds'⟩

/-- There is no need to say what a rule brings about by failing that cannot fail. -/
theorem Brings.bind_some {next : α → Rule β} {post : α → Misses → Prop}
    {post' : Option β → Misses → Prop}
    (brings : Brings text misses rule fun result later =>
      ∃ value, result = some value ∧ post value later)
    (made : ∀ value later, misses.Extends text later → post value later →
      Brings text later (next value) post') :
    Brings text misses (rule >>= next) post' := by
  refine brings.bind ?_ ?_
  · rintro value later more ⟨_, ⟨⟩, holds⟩
    exact made value later more holds
  · rintro later - ⟨_, ⟨⟩, _⟩

theorem Brings.orElse (brings : Brings text misses rule post)
    (made : ∀ value later, misses.Extends text later → post (some value) later →
      post' (some value) later)
    (lost : ∀ later, misses.Extends text later → post none later →
      Brings text later other post') :
    Brings text misses (rule <|> other) post' := by
  obtain ⟨more, holds⟩ := brings
  rw [Brings, Rule.run_orElse]
  generalize rule.run misses = ran at more holds ⊢
  rcases ran with ⟨_ | value, later⟩
  · obtain ⟨more', holds'⟩ := lost later more holds
    exact ⟨more.trans more', holds'⟩
  · exact ⟨more, made value later more holds⟩

theorem Brings.optional (brings : Brings text misses rule post) :
    Brings text misses (optional rule) fun found later =>
      ∃ result, found = some result ∧ post result later := by
  rw [Brings, Rule.run_optional]
  exact ⟨brings.1, _, rfl, brings.2⟩

theorem brings_return {value : α} (sound : misses.Sound text) (holds : post (some value) misses) :
    Brings text misses (return value) post := ⟨sound.extends, holds⟩

end Brings

section Comes

variable {α β : Type} {makes makes' : List Char → α → Prop}
  {reaches reaches' : Nat → List Char → Misses → Prop} {fails fails' : Misses → Prop}
  {text rest : List Char} {position : Nat} {misses : Misses}

theorem Comes.mono {result : Option (α × Nat)}
    (comes : Comes makes reaches fails position rest result misses)
    (making : ∀ word value, makes word value → makes' word value)
    (reaching : ∀ stop tail, reaches stop tail misses → reaches' stop tail misses)
    (failing : fails misses → fails' misses) :
    Comes makes' reaches' fails' position rest result misses := by
  cases comes with
  | made split made stops reached =>
    exact .made split (making _ _ made) stops (reaching _ _ reached)
  | lost failed => exact .lost (failing failed)

theorem Comes.of_fails {result : Option (α × Nat)}
    (comes : Comes makes reaches fails position rest result misses)
    (failing : fails misses → fails' misses) :
    Comes makes reaches fails' position rest result misses :=
  comes.mono (fun _ _ => id) (fun _ _ => id) failing

/-- What a rule makes goes on with a word that has been used up before it. -/
theorem Comes.after {result : Option (α × Nat)} {before : List Char} {start : Nat}
    (comes : Comes makes reaches fails position rest result misses)
    (placed : position = start + before.length)
    (making : ∀ word value, makes word value → makes' (before ++ word) value)
    (failing : fails misses → fails' misses) :
    Comes makes' reaches fails' start (before ++ rest) result misses := by
  cases comes with
  | made split made stops reached =>
    refine .made ?_ (making _ _ made) ?_ reached
    · rw [split, List.append_assoc]
    · rw [stops, placed, List.length_append, Nat.add_assoc]
  | lost failed => exact .lost (failing failed)

theorem Brings.andThen {rule : Rule (α × Nat)} {next : α × Nat → Rule β}
    {post : Option β → Misses → Prop}
    (brings : Brings text misses rule (Comes makes reaches fails position rest))
    (made : ∀ word tail value stop later, misses.Extends text later → rest = word ++ tail →
      makes word value → stop = position + word.length → reaches stop tail later →
      Brings text later (next (value, stop)) post)
    (lost : ∀ later, misses.Extends text later → fails later → post none later) :
    Brings text misses (rule >>= next) post := by
  refine brings.bind (fun value later more came => ?_) fun later more came => ?_
  · cases came with
    | made split makes stops reached =>
      exact made _ _ _ _ later more split makes stops reached
  · cases came with
    | lost failed => exact lost later more failed

/-- Another rule is tried from the same position if nothing is made. -/
theorem Brings.otherwise {rule other : Rule (α × Nat)}
    (brings : Brings text misses rule (Comes makes reaches fails position rest))
    (lost : ∀ later, misses.Extends text later → fails later →
      Brings text later other (Comes makes reaches fails' position rest)) :
    Brings text misses (rule <|> other) (Comes makes reaches fails' position rest) := by
  refine brings.orElse (fun value later more came => ?_) fun later more came => ?_
  · cases came with
    | made split made stops reached => exact .made split made stops reached
  · cases came with
    | lost failed => exact lost later more failed

end Comes

namespace Table

/-- Does the table hold just the words of the kind? -/
def Lists {α : Type} (table : Table α) (kind : Expectation) : Prop :=
  ∀ word, IsToken kind word ↔ word ≠ [] ∧ ∃ value, (word, value) ∈ table

theorem mem_ofWords {α : Type} {written : α → List Char} {values : List α} {word : List Char}
    {value : α} :
    (word, value) ∈ ofWords written values ↔ value ∈ values ∧ word = written value := by
  simp only [ofWords, List.mem_map, Prod.mk.injEq]
  constructor
  · rintro ⟨_, listed, rfl, rfl⟩
    exact ⟨listed, rfl⟩
  · rintro ⟨listed, rfl⟩
    exact ⟨value, listed, rfl, rfl⟩

theorem lists_ofWords {α : Type} {written : α → List Char} {values : List α}
    {kind : Expectation}
    (spells : ∀ value ∈ values, written value ≠ [] → IsToken kind (written value))
    (all : ∀ word, IsToken kind word → ∃ value ∈ values, word = written value) :
    (ofWords written values).Lists kind := by
  intro word
  simp only [mem_ofWords]
  constructor
  · exact fun token => ⟨token.ne_nil, all word token⟩
  · rintro ⟨more, value, listed, rfl⟩
    exact spells value listed more

theorem lists_faces : faces.Lists .faceLetter := by
  refine lists_ofWords (fun face _ _ => .faceLetter face) ?_
  intro word token
  cases token with
  | faceLetter face => exact ⟨face, face.mem_all, rfl⟩

theorem lists_smallFaces : smallFaces.Lists .smallLetter := by
  refine lists_ofWords (fun face _ _ => .smallLetter face) ?_
  intro word token
  cases token with
  | smallLetter face => exact ⟨face, face.mem_all, rfl⟩

theorem lists_middles : middles.Lists .middleLetter := by
  refine lists_ofWords (fun axis _ _ => .middleLetter axis) ?_
  intro word token
  cases token with
  | middleLetter axis => exact ⟨axis, by cases axis <;> decide, rfl⟩

theorem lists_wholes : wholes.Lists .wholeLetter := by
  refine lists_ofWords (fun whole _ _ => .wholeLetter whole.1 whole.2) ?_
  intro word token
  cases token with
  | wholeLetter axis capital =>
    exact ⟨(axis, capital), by cases axis <;> cases capital <;> decide, rfl⟩

theorem lists_modifiers : modifiers.Lists .modifier := by
  refine lists_ofWords (fun modifier _ more => ?_) ?_
  · cases modifier with
    | none => exact absurd rfl more
    | prime => exact .modifier .prime _ rfl
    | double => exact .modifier .double _ rfl
  · intro word token
    cases token with
    | modifier modifier c marked =>
      exact ⟨modifier, by cases modifier <;> decide, by rw [marked, Option.toList_some]⟩

theorem lists_layerCounts : layerCounts.Lists .layerCount := by
  refine lists_ofWords (fun count listed _ => ?_) ?_
  · obtain ⟨least, greatest⟩ := List.mem_range'_1.mp listed
    exact .layerCount count least (by omega)
  · intro word token
    cases token with
    | layerCount count least greatest =>
      exact ⟨count, List.mem_range'_1.mpr ⟨least, by omega⟩, rfl⟩

theorem lists_repeatCounts : repeatCounts.Lists .repeatCount := by
  refine lists_ofWords (fun count listed _ => ?_) ?_
  · obtain ⟨least, greatest⟩ := List.mem_range'_1.mp listed
    exact .repeatCount count least (by omega)
  · intro word token
    cases token with
    | repeatCount count least greatest =>
      exact ⟨count, List.mem_range'_1.mpr ⟨least, by omega⟩, rfl⟩

theorem mem_subscripts {word : List Char} {depth : Nat} :
    (word, depth) ∈ subscripts ↔ Subscript depth word := by
  simp only [subscripts, List.mem_append, mem_ofWords, List.mem_range'_1]
  constructor
  · rintro (⟨⟨least, greatest⟩, rfl⟩ | ⟨⟨least, greatest⟩, rfl⟩)
    · exact .lowLine depth least (by omega)
    · exact .lowered depth least (by omega)
  · rintro (⟨least, greatest⟩ | ⟨least, greatest⟩)
    · exact .inl ⟨⟨least, by omega⟩, rfl⟩
    · exact .inr ⟨⟨least, by omega⟩, rfl⟩

theorem lists_subscripts : subscripts.Lists .subscript := by
  intro word
  simp only [mem_subscripts]
  constructor
  · intro token
    cases token with
    | subscript depth _ written => exact ⟨(IsToken.subscript depth word written).ne_nil, _, written⟩
  · rintro ⟨-, depth, written⟩
    exact .subscript depth word written

end Table

namespace Rules

variable {text rest : List Char} {position : Nat} {reader : Reader} {misses : Misses}
  {kind : Expectation} {before after : Reader → Prop}

/-- A reader for which the condition holds stands where the rest is to come. -/
def Reaches (text : List Char) (holds : Reader → Prop) (position : Nat) (rest : List Char)
    (_ : Misses) : Prop :=
  ∃ reader, Stands text position rest reader ∧ holds reader

theorem allows_of_steps (steps : Reader.Steps before kind after) (holds : before reader)
    (inner : kind ≠ .endOfInput) : reader.allows kind = true := by
  obtain ⟨word, token⟩ := exists_isToken inner
  exact (steps reader 0 word holds token).1

theorem reaches_of_steps {word : List Char} (steps : Reader.Steps before kind after)
    (token : IsToken kind word) (stands : Stands text position (word ++ rest) reader)
    (holds : before reader) : Reaches text after (position + word.length) rest misses := by
  obtain ⟨-, next, reads, holds'⟩ := steps reader position word holds token
  exact ⟨next, stands.reads reads, holds'⟩

theorem brings_expect (sound : misses.Sound text) (stands : Stands text position rest reader)
    (allowed : reader.allows kind = true) (dark : kind = .space → rest ≠ []) :
    Brings text misses (expect position kind) fun result later =>
      result = some () ∧ later.Covers position kind := by
  refine ⟨⟨sound.expect stands allowed dark, fun covers => covers.expect position kind⟩, rfl, ?_⟩
  exact misses.covers_expect position kind

theorem brings_missed {α : Type} (sound : misses.Sound text)
    (stands : Stands text position rest reader) (allowed : reader.allows kind = true)
    (dark : kind ≠ .space) (missing : Missing kind rest) :
    Brings text misses (do expect position kind; failure : Rule α) fun result later =>
      result = none ∧ Missed position rest kind later := by
  have expects := brings_expect sound stands allowed fun blank => absurd blank dark
  refine expects.bind (fun _ later more covered => ?_) fun later _ covered => ?_
  · exact ⟨more.sound.extends, rfl, missing, fun _ => covered.2⟩
  · cases covered.1

/-- A word of the table begins the rest, or all words of the kind are missed. -/
theorem brings_take {α : Type} {table : Table α} (lists : table.Lists kind)
    (plain : kind ≠ .space ∧ kind ≠ .endOfInput) (steps : Reader.Steps before kind after)
    (sound : misses.Sound text) (stands : Stands text position rest reader)
    (holds : before reader) :
    Brings text misses (take text table kind position)
      (Comes (fun word value => (word, value) ∈ table) (Reaches text after)
        (Missed position rest kind) position rest) := by
  have allowed := allows_of_steps steps holds plain.2
  rw [take, stands.drop]
  cases found : table.find? rest with
  | some entry =>
    obtain ⟨word, value⟩ := entry
    -- Sorting settles only which word is tried first, so the one that is found is in the table.
    have listed := List.mem_mergeSort.mp (List.mem_of_find?_eq_some found)
    have begins := List.find?_some found
    simp only [Bool.and_eq_true, Bool.not_eq_true', List.isEmpty_eq_false_iff,
      List.isPrefixOf_iff_prefix] at begins
    obtain ⟨more, tail, rfl⟩ := begins
    have token := (lists word).mpr ⟨more, value, listed⟩
    exact brings_return sound (.made rfl listed rfl (reaches_of_steps steps token stands holds))
  | none =>
    have missing : Missing kind rest := by
      refine ⟨fun word token begins => ?_, fun ends => absurd ends plain.2⟩
      obtain ⟨more, value, listed⟩ := (lists word).mp token
      have unfound := List.find?_eq_none.mp found _ (List.mem_mergeSort.mpr listed)
      simp [more, begins] at unfound
    refine (brings_missed sound stands allowed plain.1 missing).mono fun _ _ _ missed => ?_
    obtain ⟨rfl, missed⟩ := missed
    exact .lost missed

/-- The character is the next one, or it is missed. -/
theorem brings_literal {c : Char} (only : ∀ word, IsToken kind word ↔ word = [c])
    (plain : kind ≠ .space ∧ kind ≠ .endOfInput) (steps : Reader.Steps before kind after)
    (sound : misses.Sound text) (stands : Stands text position rest reader)
    (holds : before reader) :
    Brings text misses (literal text c kind position) fun result later =>
      (∃ tail, rest = [c] ++ tail ∧ result = some (position + 1) ∧
        Reaches text after (position + 1) tail later) ∨
      result = none ∧ Missed position rest kind later := by
  have allowed := allows_of_steps steps holds plain.2
  rw [literal, stands.drop]
  split
  next begins =>
    obtain ⟨tail, rfl⟩ := List.isPrefixOf_iff_prefix.mp begins
    have token := (only [c]).mpr rfl
    exact brings_return sound
      (.inl ⟨tail, rfl, rfl, reaches_of_steps steps token stands holds⟩)
  next absent =>
    have missing : Missing kind rest := by
      refine ⟨fun word token begins => ?_, fun ends => absurd ends plain.2⟩
      obtain rfl := (only word).mp token
      exact absent (List.isPrefixOf_iff_prefix.mpr begins)
    exact (brings_missed sound stands allowed plain.1 missing).mono fun _ _ _ => .inr

/-- Where spaces are allowed before and after some spaces, they are skipped, and there is no other
one after them. -/
theorem brings_skipSpaces {after : List Char → Reader → Prop} (sound : misses.Sound text)
    (stands : Stands text position rest reader)
    (skips : ∀ blanks, Blanks blanks → ∃ next, reader.Reads position blanks next ∧
      next.allows .space = true ∧ after blanks next) :
    Brings text misses (skipSpaces text position) fun result later =>
      ∃ stop, result = some stop ∧ ∃ blanks tail next, rest = blanks ++ tail ∧
        rest.takeWhile Text.isBlank = blanks ∧ Blanks blanks ∧ stop = position + blanks.length ∧
        Stands text stop tail next ∧ after blanks next ∧ Missed stop tail .space later := by
  obtain ⟨blanks, tail, rfl, blank, skipped, missing⟩ : ∃ blanks tail, rest = blanks ++ tail ∧
      Blanks blanks ∧ rest.takeWhile Text.isBlank = blanks ∧ Missing .space tail := by
    refine ⟨_, _, List.takeWhile_append_dropWhile.symm, fun c => List.mem_takeWhile_imp, rfl, ?_⟩
    refine ⟨fun word token begins => ?_, nofun⟩
    cases token with
    | space c blank =>
      obtain ⟨tail, split⟩ := begins
      have dark := List.head?_dropWhile_not Text.isBlank rest
      rw [← split] at dark
      exact absurd blank (by simpa using dark)
  obtain ⟨next, reads, allowed, holds⟩ := skips blanks blank
  have stands' := stands.reads reads
  have length := stands'.length
  rw [skipSpaces, stands.drop, skipped]
  dsimp only
  split
  next more =>
    have dark : tail ≠ [] := by
      rintro rfl
      rw [List.length_nil] at length
      omega
    refine (brings_expect sound stands' allowed fun _ => dark).bind ?_ ?_
    · intro _ later extends' covered
      refine brings_return extends'.sound
        ⟨_, rfl, blanks, tail, next, rfl, rfl, blank, rfl, stands', holds, missing, ?_⟩
      exact fun _ => covered.2
    · intro later _ covered
      cases covered.1
  next ended =>
    -- At the end of the text no space is missed.
    have nothing : tail = [] := List.eq_nil_of_length_eq_zero (by omega)
    refine brings_return sound
      ⟨_, rfl, blanks, tail, next, rfl, rfl, blank, rfl, stands', holds, missing, ?_⟩
    exact fun dark => absurd nothing (dark rfl)

end Rules

end Cubing
