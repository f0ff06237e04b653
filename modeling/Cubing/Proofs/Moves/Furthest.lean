import Cubing.Proofs.Moves.Expected
import Cubing.Proofs.Moves.Rules

/-!
# The furthest miss

What is missed while alternatives are tried tells where a text fails, and what is expected there,
if two things hold. Whatever is noted as missed must be allowed to a reader that has come to its
position (`Misses.Sound`). And at some position everything that the reader allows must have been
missed (`Misses.Dead`): no reader comes further than that, so nothing is missed further on.
-/
namespace Cubing

open Grammar

/-- The reader has read the text up to the position, and the rest is to come. -/
def Stands (text : List Char) (position : Nat) (rest : List Char) (reader : Reader) : Prop :=
  ∃ word, text = word ++ rest ∧ word.length = position ∧ Reader.start.Reads 0 word reader

namespace Stands

variable {text rest rest' : List Char} {position position' : Nat} {reader reader' : Reader}

theorem start (text : List Char) : Stands text 0 text .start := ⟨[], rfl, rfl, rfl⟩

theorem drop (stands : Stands text position rest reader) : text.drop position = rest := by
  obtain ⟨word, rfl, rfl, -⟩ := stands
  exact List.drop_left

theorem length (stands : Stands text position rest reader) :
    position + rest.length = text.length := by
  obtain ⟨word, rfl, rfl, -⟩ := stands
  exact List.length_append.symm

theorem reads {word : List Char} (stands : Stands text position (word ++ rest) reader)
    (reads : reader.Reads position word reader') :
    Stands text (position + word.length) rest reader' := by
  obtain ⟨before, rfl, rfl, begun⟩ := stands
  exact ⟨before ++ word, (List.append_assoc ..).symm, List.length_append,
    begun.trans reads (Nat.zero_add _)⟩

/-- Of two readers the one that has come further has read on where the other one stands. -/
theorem between (stands : Stands text position rest reader)
    (stands' : Stands text position' rest' reader') (further : position ≤ position') :
    ∃ word, rest = word ++ rest' ∧ position + word.length = position' ∧
      reader.Reads position word reader' := by
  obtain ⟨before, rfl, rfl, begun⟩ := stands
  obtain ⟨before', split, rfl, begun'⟩ := stands'
  obtain ⟨word, rfl⟩ : before <+: before' :=
    List.prefix_of_prefix_length_le (split ▸ List.prefix_append before rest)
      (List.prefix_append before' rest') further
  obtain ⟨_, reads, later⟩ := Reader.reads_append_iff.mp begun'
  obtain rfl := reads.unique begun
  rw [Nat.zero_add] at later
  exact ⟨word, by simpa using split, List.length_append.symm, later⟩

theorem unique (stands : Stands text position rest reader)
    (stands' : Stands text position rest' reader') : rest = rest' ∧ reader = reader' := by
  obtain ⟨word, rfl, same, reads⟩ := stands.between stands' le_rfl
  obtain rfl : word = [] := List.eq_nil_of_length_eq_zero (by omega)
  exact ⟨rfl, (Prod.mk.inj reads).1⟩

end Stands

/-- Nothing of the kind begins the rest of a text. -/
def Missing (kind : Expectation) (rest : List Char) : Prop :=
  (∀ word, IsToken kind word → ¬ word <+: rest) ∧ (kind = .endOfInput → rest ≠ [])

theorem missing_endOfInput {rest : List Char} (unread : rest ≠ []) : Missing .endOfInput rest := by
  refine ⟨fun word token => ?_, fun _ => unread⟩
  cases token

section Further

variable {text rest rest' : List Char} {position position' : Nat} {reader reader' : Reader}

theorem Reader.isHalf_eq_false_of_allows {kind : Expectation}
    (allowed : reader.allows kind = true) : reader.isHalf = false := by
  obtain ⟨opened, items, pending⟩ := reader
  cases pending with
  | lowLine => cases kind <;> cases allowed
  | _ => rfl

/-- No reader comes further than where all that the reader allows is missing. -/
theorem Stands.le_of_missing (stands : Stands text position rest reader)
    (whole : reader.isHalf = false)
    (missing : ∀ kind, reader.allows kind = true → Missing kind rest)
    (stands' : Stands text position' rest' reader') (whole' : reader'.isHalf = false) :
    position' ≤ position := by
  by_contra further
  obtain ⟨word, rfl, length, reads⟩ := stands.between stands' (by omega)
  have more : word ≠ [] := by
    rintro rfl
    simp at length
    omega
  obtain ⟨before, -, rfl, begun⟩ := stands
  -- What the other reader has read is viable, so a token that this one allows goes on from here.
  have viable : Viable (before ++ word) :=
    viable_iff_reads.mpr ⟨reader', begun.trans reads (Nat.zero_add _)⟩
  obtain ⟨later, kind, token, tail, split, isToken, allowed, -⟩ :=
    Reader.exists_token_of_viable begun whole more viable
  have absent := (missing kind allowed).1 token isToken
  -- The token that comes next is within what the other reader has read, or only begins there.
  rcases List.append_eq_append_iff.mp split with ⟨beyond, rfl, -⟩ | ⟨left, rfl, -⟩
  · rcases isToken.eq_nil_or rfl more with rfl | ⟨rfl, rfl⟩
    · exact absent (by simp)
    · simp [Reader.isHalf_of_reads_lowLine allowed reads] at whole'
  · exact absent (by simp)

end Further

namespace Misses

variable {misses : Misses} {position position' : Nat} {kind kind' : Expectation}

/-- Has the kind been missed at the position, or has something been missed further on? -/
def Covers (misses : Misses) (position : Nat) (kind : Expectation) : Prop :=
  position < misses.furthest ∨ position = misses.furthest ∧ kind ∈ misses.expected

theorem expect_of_lt (before : position < misses.furthest) :
    misses.expect position kind = misses := by
  simp only [expect, if_neg (show ¬ position > misses.furthest by omega), if_neg before.ne]

theorem expect_furthest (misses : Misses) (kind : Expectation) :
    misses.expect misses.furthest kind =
      { misses with expected := misses.expected.insert kind } := by
  simp only [expect, if_neg (lt_irrefl misses.furthest), if_pos]

theorem expect_of_gt (beyond : misses.furthest < position) :
    misses.expect position kind = ⟨position, [kind]⟩ := by
  rw [expect, if_pos beyond, if_pos rfl]
  rfl

theorem covers_expect (misses : Misses) (position : Nat) (kind : Expectation) :
    (misses.expect position kind).Covers position kind := by
  rcases Nat.lt_trichotomy position misses.furthest with before | rfl | beyond
  · exact .inl (by rwa [expect_of_lt before])
  · rw [expect_furthest]
    exact .inr ⟨rfl, List.mem_insert_self⟩
  · rw [expect_of_gt beyond]
    exact .inr ⟨rfl, List.mem_singleton_self kind⟩

theorem Covers.expect (covers : misses.Covers position kind) (position' : Nat)
    (kind' : Expectation) : (misses.expect position' kind').Covers position kind := by
  rcases Nat.lt_trichotomy position' misses.furthest with before | rfl | beyond
  · rwa [expect_of_lt before]
  · rw [expect_furthest]
    exact covers.imp_right fun covered => ⟨covered.1, List.mem_insert_of_mem covered.2⟩
  · rw [expect_of_gt beyond]
    exact .inl (by rcases covers with before | ⟨rfl, -⟩ <;> simp only <;> omega)

/-- Whatever is expected is allowed to a reader that has come to the furthest position. -/
def Sound (text : List Char) (misses : Misses) : Prop :=
  ∃ rest reader, Stands text misses.furthest rest reader ∧ reader.isHalf = false ∧
    ∀ kind ∈ misses.expected, reader.allows kind = true ∧ (kind = .space → rest ≠ [])

theorem sound_none (text : List Char) : Sound text .none :=
  ⟨text, .start, .start text, rfl, nofun⟩

/-- What a reader allows may be noted as missed where the reader stands. -/
theorem Sound.expect {text rest : List Char} {reader : Reader} (sound : Sound text misses)
    (stands : Stands text position rest reader) (allowed : reader.allows kind = true)
    (dark : kind = .space → rest ≠ []) : Sound text (misses.expect position kind) := by
  rcases Nat.lt_trichotomy position misses.furthest with before | rfl | beyond
  · rwa [expect_of_lt before]
  · rw [expect_furthest]
    obtain ⟨_, _, stands', whole, others⟩ := sound
    -- Only one reader stands at a position, so what was expected before is allowed to this one.
    obtain ⟨rfl, rfl⟩ := stands.unique stands'
    refine ⟨rest, reader, stands, whole, fun kind' member => ?_⟩
    rcases List.mem_insert_iff.mp member with rfl | member
    · exact ⟨allowed, dark⟩
    · exact others kind' member
  · rw [expect_of_gt beyond]
    refine ⟨rest, reader, stands, reader.isHalf_eq_false_of_allows allowed, fun kind' member => ?_⟩
    obtain rfl := List.mem_singleton.mp member
    exact ⟨allowed, dark⟩

/-- Some more may have been missed. -/
structure Extends (text : List Char) (misses later : Misses) : Prop where
  sound : later.Sound text
  covers : ∀ {position kind}, misses.Covers position kind → later.Covers position kind

theorem Sound.extends {text : List Char} (sound : misses.Sound text) :
    misses.Extends text misses := ⟨sound, id⟩

theorem Extends.trans {text : List Char} {later last : Misses}
    (first : misses.Extends text later) (second : later.Extends text last) :
    misses.Extends text last := ⟨second.sound, fun covers => second.covers (first.covers covers)⟩

end Misses

/-- Nothing of the kind begins the rest, and this has been noted. No space is missed at the end. -/
def Missed (position : Nat) (rest : List Char) (kind : Expectation) (misses : Misses) : Prop :=
  Missing kind rest ∧ ((kind = .space → rest ≠ []) → misses.Covers position kind)

/-- At some position all that the reader allows has been missed. -/
def Dead (text : List Char) (misses : Misses) : Prop :=
  ∃ position rest reader, Stands text position rest reader ∧ reader.isHalf = false ∧
    ∀ kind, reader.allows kind = true → Missed position rest kind misses

section Later

variable {text rest : List Char} {position : Nat} {kind : Expectation} {misses last : Misses}

theorem Missed.later (missed : Missed position rest kind misses)
    (more : misses.Extends text last) : Missed position rest kind last :=
  ⟨missed.1, fun dark => more.covers (missed.2 dark)⟩

theorem Dead.later (dead : Dead text misses) (more : misses.Extends text last) :
    Dead text last := by
  obtain ⟨position, rest, reader, stands, whole, missed⟩ := dead
  refine ⟨position, rest, reader, stands, whole, fun kind allowed => ?_⟩
  exact (missed kind allowed).later more

end Later

theorem Reader.isHalf_of_read_lowLine {text rest : List Char} {position : Nat}
    {reader next : Reader} (stands : Stands text position ('_' :: rest) reader)
    (whole : reader.isHalf = false) (reads : reader.Reads position ['_'] next) :
    next.isHalf = true := by
  obtain ⟨word, -, rfl, begun⟩ := stands
  have viable : Viable (word ++ ['_']) :=
    viable_iff_reads.mpr ⟨next, begun.trans reads (Nat.zero_add _)⟩
  obtain ⟨kind, tail, token, allowed, -⟩ := exists_canFollow begun whole viable
  obtain rfl : kind = .subscript := by
    rcases token.kind_eq_or with ⟨-, same⟩ | ⟨digit, -⟩
    · exact same
    · exact absurd rfl digit
  exact isHalf_of_reads_lowLine allowed reads

/-- A text fails where all that the reader allows is missing. -/
theorem Stands.readMoveChars_eq_error {text rest : List Char} {position : Nat} {reader : Reader}
    (stands : Stands text position rest reader) (whole : reader.isHalf = false)
    (missing : ∀ kind, reader.allows kind = true → Missing kind rest) :
    readMoveChars text = .error ⟨text, position, reader.expected rest.isEmpty⟩ := by
  cases read : readMoveChars text with
  | ok items =>
    -- The reader of the whole text stands here as well, and allows the text to end.
    obtain ⟨last, reads, ends⟩ := readMoveChars_eq_ok_iff_reads.mp read
    have done : Stands text text.length [] last := ⟨text, (List.append_nil _).symm, rfl, reads⟩
    have allowed := Reader.allows_endOfInput_iff.mpr ⟨items, ends⟩
    have beyond := stands.le_of_missing whole missing done
      (Reader.isHalf_eq_false_of_allows allowed)
    obtain rfl : text.length = position := by have := stands.length; omega
    obtain ⟨rfl, rfl⟩ := stands.unique done
    exact absurd rfl ((missing _ allowed).2 rfl)
  | error failure =>
    obtain ⟨word, rest', last, split, begun, whole', stuck, rfl⟩ :=
      Cubing.readMoveChars_eq_error read
    have fails : Stands text word.length rest' last := ⟨word, split, rfl, begun⟩
    have least := stands.le_of_missing whole missing fails whole'
    obtain ⟨more, rfl, rfl, reads⟩ := fails.between stands least
    have viable : Viable (word ++ more) :=
      viable_iff_reads.mpr ⟨reader, begun.trans reads (Nat.zero_add _)⟩
    -- Nothing has been read since the text failed, not even a low line.
    rcases stuck.viable begun (List.prefix_append more rest) viable with rfl | ⟨rfl, -⟩
    · obtain ⟨-, rfl⟩ := fails.unique stands
      rfl
    · rw [Reader.isHalf_of_read_lowLine fails whole' reads] at whole
      cases whole

/-- What has been missed furthest on tells where a text fails and what is expected there, if at some
position all has been missed. -/
theorem readMoveChars_eq_error_of_dead {text : List Char} {misses : Misses}
    (sound : misses.Sound text) (dead : Dead text misses) :
    readMoveChars text = .error ⟨text, misses.furthest,
      Expectation.all.filter fun kind => kind ∈ misses.expected⟩ := by
  obtain ⟨position, rest, reader, stands, whole, missed⟩ := dead
  have missing (kind : Expectation) (allowed : reader.allows kind = true) : Missing kind rest :=
    (missed kind allowed).1
  obtain ⟨rest', reader', stands', whole', expected⟩ := sound
  obtain ⟨kind, dark, allowed⟩ := Reader.exists_allows whole
  -- What has been missed here counts, so the furthest miss is not before it; and none is beyond it.
  obtain rfl : position = misses.furthest := by
    have covers := (missed kind allowed).2 fun blank => absurd blank dark
    have least := stands.le_of_missing whole missing stands' whole'
    rcases covers with before | ⟨same, -⟩ <;> omega
  obtain ⟨rfl, rfl⟩ := stands.unique stands'
  have same (kind : Expectation) :
      kind ∈ reader.expected rest.isEmpty ↔ kind ∈ misses.expected := by
    rw [Reader.mem_expected_iff, List.isEmpty_eq_false_iff]
    refine ⟨fun ⟨allowed, dark⟩ => ?_, expected kind⟩
    exact ((missed kind allowed).2 dark).resolve_left (lt_irrefl _) |>.2
  have listed : reader.expected rest.isEmpty =
      Expectation.all.filter fun kind => kind ∈ misses.expected := by
    refine List.filter_congr fun kind member => ?_
    rw [Bool.eq_iff_iff, decide_eq_true_iff, ← same, Reader.expected, List.mem_filter]
    exact (and_iff_right member).symm
  rw [stands.readMoveChars_eq_error whole missing, listed]

end Cubing
