import Cubing.Proofs.Moves.Following

/-!
# What is expected at a failure

A reader allows the kinds of tokens that can come next. Every token of a kind that
is allowed is read (`Reader.exists_reads_of_allows`). Conversely, what can be read
is the beginning of a token of a kind that is allowed, and tokens that begin alike
are of one kind where both kinds are allowed (`Reader.kind_eq_of_allows`). So just
the kinds are expected at a failure of which a token can come next.
-/
namespace Cubing

open Grammar

namespace Reader

section Allowed

variable {reader : Reader} {kind : Expectation} {word : List Char}

theorem begins_of_mayBegin (begins : reader.mayBegin = true) : Begins reader.opened reader := by
  obtain ⟨opened, items, pending⟩ := reader
  cases pending with
  | first => exact ⟨items, .first, .inl rfl, rfl⟩
  | gap => exact ⟨items, .gap, .inr rfl, rfl⟩
  | _ => cases begins

theorem ends_of_mayEnd (ends : reader.mayEnd = true) : Ends reader.opened reader := by
  obtain ⟨opened, items, pending⟩ := reader
  cases pending with
  | gap => exact ⟨_, .gap ..⟩
  | target => exact ⟨_, .target ..⟩
  | group => exact ⟨_, .group ..⟩
  | complete => exact ⟨_, .complete ..⟩
  | _ => cases ends

theorem growing_of_allows (allowed : reader.allows .subscript = true) :
    Growing reader.opened reader := by
  obtain ⟨opened, items, pending⟩ := reader
  cases pending with
  | target position target => exact ⟨items, position, target, allowed, rfl⟩
  | _ => cases allowed

theorem aimed_of_allows (allowed : reader.allows .modifier = true) :
    Aimed reader.opened reader := by
  obtain ⟨opened, items, pending⟩ := reader
  cases pending with
  | target position target => exact ⟨items, position, target, rfl⟩
  | _ => cases allowed

theorem closed_of_allows (allowed : reader.allows .repeatCount = true) :
    Closed reader.opened reader := by
  obtain ⟨opened, items, pending⟩ := reader
  cases pending with
  | group position inner => exact ⟨items, position, inner, rfl⟩
  | _ => cases allowed

theorem counted_of_matches (counts : (reader.pending matches .layers ..) = true) :
    Counted reader.opened reader := by
  obtain ⟨opened, items, pending⟩ := reader
  cases pending with
  | layers position count => exact ⟨items, position, count, rfl⟩
  | _ => cases counts

theorem Steps.exists_reads {before after : Reader → Prop} (steps : Steps before kind after)
    (holds : before reader) (token : IsToken kind word) (position : Nat) :
    ∃ next, reader.Reads position word next := by
  obtain ⟨-, next, reads, -⟩ := steps reader position word holds token
  exact ⟨next, reads⟩

/-- Every token of a kind that is allowed can be read. -/
theorem exists_reads_of_allows (allowed : reader.allows kind = true) (token : IsToken kind word)
    (position : Nat) : ∃ next, reader.Reads position word next := by
  have same := token
  cases token with
  | groupStart => exact (steps_groupStart _).exists_reads (begins_of_mayBegin allowed) same position
  | wholeLetter =>
    exact (steps_wholeLetter _).exists_reads (begins_of_mayBegin allowed) same position
  | layerCount => exact (steps_layerCount _).exists_reads (begins_of_mayBegin allowed) same position
  | middleLetter =>
    exact (steps_middleLetter _).exists_reads (begins_of_mayBegin allowed) same position
  | smallLetter =>
    exact (steps_smallLetter _).exists_reads (begins_of_mayBegin allowed) same position
  | faceLetter =>
    -- A face may begin an item, or follow a layer count.
    rcases Bool.or_eq_true_iff.mp allowed with begins | counts
    · exact (steps_faceLetter _).exists_reads (begins_of_mayBegin begins) same position
    · exact (steps_countedFace _).exists_reads (counted_of_matches counts) same position
  | groupEnd =>
    obtain ⟨ends, inside⟩ := Bool.and_eq_true_iff.mp allowed
    have nonempty : reader.opened ≠ [] := by simpa using inside
    obtain ⟨group, outer, opened⟩ := List.exists_cons_of_ne_nil nonempty
    exact (steps_groupEnd outer group).exists_reads (opened ▸ ends_of_mayEnd ends) same position
  | wideMark => exact (steps_wideMark _).exists_reads (growing_of_allows allowed) same position
  | subscript => exact (steps_subscript _).exists_reads (growing_of_allows allowed) same position
  | modifier => exact (steps_modifier _).exists_reads (aimed_of_allows allowed) same position
  | repeatCount => exact (steps_repeatCount _).exists_reads (closed_of_allows allowed) same position
  | space c blank =>
    rcases Bool.or_eq_true_iff.mp allowed with ends | lead
    · exact (steps_space _).exists_reads (ends_of_mayEnd ends) same position
    · -- A blank after an opening parenthesis changes nothing.
      obtain ⟨opened, items, pending⟩ := reader
      cases pending with
      | first =>
        have inside : opened.isEmpty = false := by simpa using lead
        exact ⟨_, .cons (if_pos ⟨blank, inside⟩) (reads_nil ..)⟩
      | _ => cases lead

end Allowed

section Division

variable {reader between last : Reader} {position : Nat} {kinds others : List Expectation}
  {kind : Expectation} {word rest : List Char}

theorem Follows.madeOf (follows : Follows reader position word kinds last) :
    MadeOf word kinds := by
  induction follows with
  | nil => exact .nil
  | cons token _ _ _ ih => exact .cons token ih

theorem Follows.reads (follows : Follows reader position word kinds last) :
    reader.Reads position word last := by
  induction follows with
  | nil => exact reads_nil ..
  | cons _ _ reads _ ih => exact reads.trans ih rfl

theorem Follows.cons_inv (follows : Follows reader position word (kind :: kinds) last) :
    ∃ token tail between, word = token ++ tail ∧ IsToken kind token ∧
      reader.allows kind = true ∧ reader.Reads position token between ∧
      Follows between (position + token.length) tail kinds last := by
  cases follows with
  | cons token allowed reads later => exact ⟨_, _, _, rfl, token, allowed, reads, later⟩

/-- After the first tokens of a word that is followed, the next one is of a kind that is allowed. -/
theorem Follows.exists_allows (made : MadeOf word kinds)
    (follows : Follows reader position (word ++ rest) (kinds ++ kind :: others) last) :
    ∃ between, reader.Reads position word between ∧ between.allows kind = true := by
  induction made generalizing reader position with
  | nil =>
    obtain ⟨_, _, _, -, -, allowed, -⟩ := follows.cons_inv
    exact ⟨reader, reads_nil .., allowed⟩
  | @cons _ _ word tail token _ ih =>
    obtain ⟨word', _, middle, split, token', -, reads, later⟩ := follows.cons_inv
    rw [List.append_assoc] at split
    -- The first token is the same however the word is divided.
    obtain rfl := token.eq_of_append_eq token' split
    obtain rfl := List.append_cancel_left split
    obtain ⟨between, reads', allowed⟩ := ih later
    exact ⟨between, reads.trans reads' rfl, allowed⟩

theorem isHalf_of_reads_lowLine (allowed : reader.allows .subscript = true)
    (reads : reader.Reads position ['_'] between) : between.isHalf = true := by
  obtain ⟨items, start, target, grows, same⟩ := growing_of_allows allowed
  have low : reader.Reads position ['_'] ⟨reader.opened, items, .lowLine start target⟩ :=
    same ▸ .cons (read_lowLine position start grows) (reads_nil ..)
  rw [low.unique reads]
  rfl

/-- A word that is followed is divided into tokens wherever a reader has not stopped within a
subscript, and the token that comes next is of a kind that is allowed. -/
theorem Follows.exists_next {text : List Char} (follows : Follows reader position text kinds last)
    (split : text = word ++ rest) (reads : reader.Reads position word between)
    (whole : between.isHalf = false) (more : rest ≠ []) :
    ∃ first kind second token tail, kinds = first ++ kind :: second ∧ MadeOf word first ∧
      rest = token ++ tail ∧ IsToken kind token ∧ MadeOf tail second ∧
      between.allows kind = true := by
  induction follows generalizing word with
  | nil => exact absurd (List.append_eq_nil_iff.mp split.symm).2 more
  | @cons reader middle _ position kind kinds token tail isToken allowed reads' later ih =>
    rcases eq_or_ne word [] with rfl | begun
    · -- The first token is the one that comes next.
      cases reads
      exact ⟨[], kind, kinds, token, tail, rfl, .nil, split.symm, isToken, later.madeOf, allowed⟩
    · obtain ⟨word', rfl, split'⟩ : ∃ word', word = token ++ word' ∧ tail = word' ++ rest := by
        rcases List.append_eq_append_iff.mp split with inside | ⟨left, rfl, rfl⟩
        · exact inside
        · rcases isToken.eq_nil_or rfl begun with rfl | ⟨rfl, rfl⟩
          · exact ⟨[], by simp, rfl⟩
          · -- Within the first token nothing is read but half a subscript.
            simp [isHalf_of_reads_lowLine allowed reads] at whole
      obtain ⟨middle', reads'', further⟩ := reads_append_iff.mp reads
      obtain rfl := reads'.unique reads''
      obtain ⟨first, next, second, token', tail', rfl, made, rest⟩ := ih split' further
      exact ⟨kind :: first, next, second, token', tail', rfl, .cons isToken made, rest⟩

end Division

section Kinds

variable {reader : Reader} {kind other : Expectation} {word : List Char}

/-- The kind of the digits that may come next. -/
def digitKind (reader : Reader) : Expectation :=
  match reader.pending with
  | .target .. => .modifier
  | .group .. => .repeatCount
  | _ => .layerCount

theorem eq_digitKind (counts : kind ∈ [.layerCount, .modifier, .repeatCount])
    (allowed : reader.allows kind = true) : kind = reader.digitKind := by
  obtain ⟨opened, items, pending⟩ := reader
  simp only [List.mem_cons, List.not_mem_nil, or_false] at counts
  rcases counts with rfl | rfl | rfl <;> cases pending <;> first | rfl | cases allowed

/-- Tokens that begin alike are of one kind where both kinds are allowed. -/
theorem kind_eq_of_allows {c : Char} {rest rest' : List Char} (token : IsToken kind (c :: rest))
    (token' : IsToken other (c :: rest')) (allowed : reader.allows kind = true)
    (allowed' : reader.allows other = true) : kind = other := by
  rcases token.kind_eq_or with ⟨plain, rfl⟩ | ⟨digit, counts⟩
  · rcases token'.kind_eq_or with ⟨-, rfl⟩ | ⟨digit', -⟩
    · rfl
    · exact absurd plain digit'
  · rcases token'.kind_eq_or with ⟨plain', -⟩ | ⟨-, counts'⟩
    · exact absurd plain' digit
    · rw [eq_digitKind counts allowed, eq_digitKind counts' allowed']

/-- Something other than a blank may always come next, if only the end. -/
theorem exists_allows (whole : reader.isHalf = false) :
    ∃ kind ≠ .space, reader.allows kind = true := by
  obtain ⟨opened, items, pending⟩ := reader
  cases pending with
  | first => exact ⟨.faceLetter, by decide, rfl⟩
  | gap => exact ⟨.faceLetter, by decide, rfl⟩
  | layers => exact ⟨.faceLetter, by decide, rfl⟩
  | target => exact ⟨.modifier, by decide, rfl⟩
  | lowLine => cases whole
  | group => exact ⟨.repeatCount, by decide, rfl⟩
  | complete =>
    cases opened with
    | nil => exact ⟨.endOfInput, by decide, rfl⟩
    | cons => exact ⟨.groupEnd, by decide, rfl⟩

theorem mem_expected_iff {atEnd : Bool} :
    kind ∈ reader.expected atEnd ↔
      reader.allows kind = true ∧ (kind = .space → atEnd = false) := by
  have listed : kind ∈ Expectation.all := by cases kind <;> decide
  simp only [expected, List.mem_filter, listed, true_and, Bool.and_eq_true]
  cases atEnd <;> simp

theorem allows_endOfInput_iff :
    reader.allows .endOfInput = true ↔ ∃ items, reader.finish? = some items := by
  obtain ⟨opened, items, pending⟩ := reader
  cases opened <;> cases pending <;> simp [allows, mayEnd, finish?]

end Kinds

end Reader

/-- The texts of moves are the words made of tokens in the order of an expression. -/
theorem exists_read_iff_madeOf {word : List Char} :
    (∃ items, readMoveChars word = .ok items) ↔
      ∃ kinds, MadeOf word kinds ∧ Pattern .expression kinds := by
  constructor
  · rintro ⟨items, read⟩
    exact (readMoveChars_eq_ok_iff.mp read).exists_madeOf
  · rintro ⟨kinds, made, pattern⟩
    obtain ⟨last, follows, items, ended⟩ := Reader.exists_follows made pattern
    exact ⟨_, readMoveChars_eq_ok_iff_reads.mpr ⟨last, follows.reads, ended.finish?⟩⟩

namespace Reader

section Next

variable {reader : Reader} {kind : Expectation} {word token : List Char}

/-- Where a viable word goes on, some token begins there that is of a kind that is allowed and can
follow. -/
theorem exists_token_of_viable (reads : start.Reads 0 word reader)
    (whole : reader.isHalf = false) {rest : List Char} (more : rest ≠ [])
    (viable : Viable (word ++ rest)) :
    ∃ later kind token tail, rest ++ later = token ++ tail ∧ IsToken kind token ∧
      reader.allows kind = true ∧ CanFollow word kind := by
  obtain ⟨later, items, read⟩ := viable
  rw [List.append_assoc] at read
  obtain ⟨kinds, made, pattern⟩ := exists_read_iff_madeOf.mp ⟨items, read⟩
  obtain ⟨last, follows, -⟩ := exists_follows made pattern
  obtain ⟨first, kind, second, token, tail, rfl, made, split, isToken, made', allowed⟩ :=
    follows.exists_next rfl reads whole (List.append_ne_nil_of_left_ne_nil more later)
  have others := MadeOf.cons isToken made'
  rw [← split] at others
  exact ⟨later, kind, token, tail, split, isToken, allowed, _, items, first, second, read, made,
    others, pattern⟩

theorem exists_canFollow (reads : start.Reads 0 word reader) (whole : reader.isHalf = false)
    {c : Char} {rest : List Char} (viable : Viable (word ++ c :: rest)) :
    ∃ kind tail, IsToken kind (c :: tail) ∧ reader.allows kind = true ∧ CanFollow word kind := by
  obtain ⟨later, kind, token, tail, split, isToken, allowed, follows⟩ :=
    exists_token_of_viable reads whole (List.cons_ne_nil _ _) viable
  obtain ⟨d, token, rfl⟩ := List.exists_cons_of_ne_nil isToken.ne_nil
  obtain ⟨rfl, -⟩ := List.cons.inj split
  exact ⟨kind, token, isToken, allowed, follows⟩

theorem viable_of_allows (reads : start.Reads 0 word reader) (allowed : reader.allows kind = true)
    (isToken : IsToken kind token) : Viable (word ++ token) := by
  obtain ⟨next, reads'⟩ := exists_reads_of_allows allowed isToken word.length
  exact viable_iff_reads.mpr ⟨next, reads.trans reads' (Nat.zero_add _)⟩

/-- Just the kinds are allowed of which a token can come next. -/
theorem allows_iff_canFollow (reads : start.Reads 0 word reader) (whole : reader.isHalf = false)
    (inner : kind ≠ .endOfInput) : reader.allows kind = true ↔ CanFollow word kind := by
  constructor
  · intro allowed
    obtain ⟨token, isToken⟩ := exists_isToken inner
    obtain ⟨c, token, rfl⟩ := List.exists_cons_of_ne_nil isToken.ne_nil
    obtain ⟨other, tail, isToken', allowed', follows⟩ :=
      exists_canFollow reads whole (viable_of_allows reads allowed isToken)
    rwa [kind_eq_of_allows isToken isToken' allowed allowed']
  · rintro ⟨later, items, kinds, others, -, made, made', pattern⟩
    obtain ⟨last, follows, -⟩ := exists_follows (made.append made') pattern
    obtain ⟨between, reads', allowed⟩ := follows.exists_allows made
    rwa [reads'.unique reads]

/-- A token that does not begin with a digit can only follow as one of its kind. -/
theorem allows_of_viable (reads : start.Reads 0 word reader) (whole : reader.isHalf = false)
    (isToken : IsToken kind token) (plain : ∀ c ∈ token.head?, layerCount? c = none)
    (viable : Viable (word ++ token)) : reader.allows kind = true := by
  obtain ⟨c, token, rfl⟩ := List.exists_cons_of_ne_nil isToken.ne_nil
  obtain ⟨other, tail, isToken', allowed, -⟩ := exists_canFollow reads whole viable
  have undigited := plain c rfl
  rcases isToken.kind_eq_or with ⟨-, rfl⟩ | ⟨digit, -⟩
  · rcases isToken'.kind_eq_or with ⟨-, rfl⟩ | ⟨digit, -⟩
    · exact allowed
    · exact absurd undigited digit
  · exact absurd undigited digit

end Next

end Reader

theorem Expectation.ascending_all : (all.map description).Pairwise (· < ·) := by decide

/-- The expected kinds at a failure are some, in the order of their descriptions and without
repetition. A kind is expected if and only if a text of moves begins with what comes before the
failure and has a token of the kind next, and the end is expected if and only if what comes before
the failure is a text of moves; but no space is expected at the end. So every token of an expected
kind may come next, and only digits may come next without their kind being expected. -/
theorem expected_kinds_are_those_that_can_follow {text : String} {failure : Failure}
    (failed : readMoves text = .error failure) :
    let word := text.toList.take failure.position
    let spaced := fun kind => kind = Expectation.space → failure.position < text.length
    failure.expected ≠ [] ∧ (failure.expected.map Expectation.description).Pairwise (· < ·) ∧
      (.endOfInput ∈ failure.expected ↔ ∃ items, readMoves (String.ofList word) = .ok items) ∧
      (∀ kind ≠ .endOfInput, kind ∈ failure.expected ↔ CanFollow word kind ∧ spaced kind) ∧
      ∀ kind token, IsToken kind token → (kind ∈ failure.expected → Viable (word ++ token)) ∧
        ((∀ c ∈ token.head?, layerCount? c = none) → Viable (word ++ token) → spaced kind →
          kind ∈ failure.expected) := by
  obtain ⟨word, rest, reader, split, reads, whole, -, rfl⟩ := readMoveChars_eq_error failed
  intro before spaced
  have same : before = word := by simp [before, split]
  clear_value before
  subst same
  have inside (kind : Expectation) :
      spaced kind ↔ (kind = .space → rest.isEmpty = false) := by
    simp [spaced, ← String.length_toList, split, List.length_pos_iff]
  refine ⟨?_, ?_, ?_, ?_, ?_⟩
  · obtain ⟨kind, dark, allowed⟩ := Reader.exists_allows whole
    exact List.ne_nil_of_mem (Reader.mem_expected_iff.mpr ⟨allowed, fun blank => absurd blank dark⟩)
  · exact Expectation.ascending_all.sublist (List.filter_sublist.map _)
  · rw [Reader.mem_expected_iff, Reader.allows_endOfInput_iff, readMoves, String.toList_ofList]
    simp only [readMoveChars_eq_ok_iff_reads]
    constructor
    · rintro ⟨⟨items, ends⟩, -⟩
      exact ⟨items, reader, reads, ends⟩
    · rintro ⟨items, last, reads', ends⟩
      obtain rfl := reads.unique reads'
      exact ⟨⟨items, ends⟩, by simp⟩
  · intro kind inner
    rw [Reader.mem_expected_iff, inside, Reader.allows_iff_canFollow reads whole inner]
  · intro kind token isToken
    rw [Reader.mem_expected_iff, inside]
    refine ⟨fun listed => Reader.viable_of_allows reads listed.1 isToken, ?_⟩
    exact fun plain viable room => ⟨Reader.allows_of_viable reads whole isToken plain viable, room⟩

theorem expected_kinds_are_those_that_can_follow_within_group :
    ∃ failure, readMoves "(R Q" = .error failure ∧ failure.position = 3 ∧
      CanFollow "(R ".toList .groupEnd ∧ ¬ CanFollow "(R ".toList .modifier ∧
      Viable "(R x".toList := by
  obtain ⟨failure, failed, rfl⟩ : ∃ failure, readMoves "(R Q" = .error failure ∧
      failure = ⟨"(R Q".toList, 3, [.groupStart, .groupEnd, .wholeLetter, .faceLetter, .layerCount,
        .middleLetter, .space, .smallLetter]⟩ := ⟨_, rfl, rfl⟩
  obtain ⟨-, -, -, follow, tokens⟩ := expected_kinds_are_those_that_can_follow failed
  refine ⟨_, failed, rfl, ?_, ?_, ?_⟩
  · exact ((follow .groupEnd (by decide)).mp (by decide)).1
  · intro follows
    exact absurd ((follow .modifier (by decide)).mpr ⟨follows, nofun⟩) (by decide)
  · exact (tokens .wholeLetter ['x'] (.wholeLetter .y false)).1 (by decide)

/-- A digit that is a layer count elsewhere may come next as a modifier, so a token of a kind that
is not expected can continue the text. -/
theorem layer_count_unexpected_where_modifier_can_follow :
    ∃ failure, readMoves "RQ" = .error failure ∧ failure.position = 1 ∧
      ¬ (Expectation.layerCount ∈ failure.expected ↔ ∃ token, IsToken .layerCount token ∧
        Viable ("RQ".toList.take failure.position ++ token)) := by
  refine ⟨_, rfl, rfl, fun listed => ?_⟩
  have two : IsToken .layerCount ['2'] := .layerCount 2 (by decide) (by decide)
  have viable : Viable ['R', '2'] := ⟨[], _, rfl⟩
  exact absurd (listed.mpr ⟨['2'], two, viable⟩) (by decide)

end Cubing
