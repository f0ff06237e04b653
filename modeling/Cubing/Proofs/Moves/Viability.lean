import Mathlib.Data.List.Basic
import Cubing.Proofs.Moves.Rendering

/-!
# Where reading fails

A word is viable when some text of moves begins with it. Whatever a reader has
read is viable: the item that is being read can be brought to an end, and then
the open groups can be closed (`viable_iff_reads`). A text that is not read
stops at a reader that is stuck (`readMoveChars_eq_error`), and no text of moves
goes on from there as this one does, apart from a low line, which begins a
subscript.
-/
namespace Cubing

open Grammar

namespace Reader

section Runs

variable {reader next other : Reader} {position : Nat} {word rest : List Char}

theorem Reads.unique (reads : reader.Reads position word next)
    (reads' : reader.Reads position word other) : other = next :=
  congrArg Prod.fst (reads'.symm.trans reads)

/-- What is left after reading as far as possible does not begin with a character that can be
read. -/
theorem reads_of_readAll {chars : List Char}
    (stops : reader.readAll position chars = (next, rest)) :
    ∃ word, chars = word ++ rest ∧ reader.Reads position word next ∧
      ∀ c ∈ rest.head?, next.read (position + word.length) c = none := by
  induction chars generalizing reader position with
  | nil =>
    cases stops
    exact ⟨[], rfl, reads_nil .., nofun⟩
  | cons c chars ih =>
    simp only [readAll] at stops
    split at stops
    next between read =>
      obtain ⟨word, rfl, reads, stuck⟩ := ih stops
      refine ⟨c :: word, rfl, .cons read reads, ?_⟩
      rwa [List.length_cons, Nat.add_comm word.length, ← Nat.add_assoc]
    next unread =>
      cases stops
      refine ⟨[], rfl, reads_nil .., ?_⟩
      rintro _ ⟨⟩
      exact unread

end Runs

section LowLines

variable {reader next : Reader} {position start : Nat} {target : Target} {c : Char}

/-- Has half a subscript been read? -/
def isHalf (reader : Reader) : Bool := reader.pending matches .lowLine ..

theorem isHalf_beginItem (begins : reader.beginItem position c = some next) :
    next.isHalf = false := by
  simp only [beginItem] at begins
  split at begins
  next => cases begins; rfl
  next =>
    split at begins
    next => cases begins; rfl
    next =>
      obtain ⟨target, -, rfl⟩ := Option.map_eq_some_iff.mp begins
      rfl

theorem isHalf_closeGroup (closes : reader.closeGroup = some next) : next.isHalf = false := by
  simp only [closeGroup] at closes
  split at closes
  next => cases closes
  next => cases closes; rfl

theorem isHalf_readBoundary (reads : reader.readBoundary c = some next) :
    next.isHalf = false := by
  simp only [readBoundary] at reads
  split at reads
  next => cases reads; rfl
  next =>
    split at reads
    next => exact isHalf_closeGroup reads
    next => cases reads

/-- Half a subscript is a low line after a target that may have a subscript. -/
theorem eq_of_read_isHalf (reads : reader.read position c = some next)
    (half : next.isHalf = true) :
    c = '_' ∧ ∃ opened items start target, target.isOpen = true ∧
      reader = ⟨opened, items, .target start target⟩ ∧
      next = ⟨opened, items, .lowLine start target⟩ := by
  have whole (plain : next.isHalf = false) : False := by simp [plain] at half
  obtain ⟨opened, items, pending⟩ := reader
  cases pending with
  | first =>
    simp only [read] at reads
    split at reads
    next => cases reads; cases half
    next => exact (whole (isHalf_beginItem reads)).elim
  | gap =>
    simp only [read] at reads
    split at reads
    next => cases reads; cases half
    next =>
      split at reads
      next => exact (whole (isHalf_closeGroup reads)).elim
      next => exact (whole (isHalf_beginItem reads)).elim
  | layers =>
    obtain ⟨face, -, rfl⟩ := Option.map_eq_some_iff.mp reads
    cases half
  | target start target =>
    simp only [read, readAfterTarget] at reads
    split at reads
    next => cases reads; cases half
    next => cases reads; cases half
    next =>
      split at reads
      next low =>
        cases reads
        exact ⟨low.1, opened, items, start, target, low.2, rfl, rfl⟩
      next => exact (whole (isHalf_readBoundary reads)).elim
  | lowLine =>
    obtain ⟨depth, -, deepened⟩ := Option.bind_eq_some_iff.mp reads
    obtain ⟨deeper, -, rfl⟩ := Option.map_eq_some_iff.mp deepened
    cases half
  | group =>
    simp only [read, readAfterGroup] at reads
    split at reads
    next => cases reads; cases half
    next => exact (whole (isHalf_readBoundary reads)).elim
  | complete => exact (whole (isHalf_readBoundary reads)).elim

end LowLines

/-- Reading does not go on from a reader at a position with the given rest of the text. -/
inductive Stuck (reader : Reader) (position : Nat) : List Char → Prop where
  /-- The text ends too early. -/
  | early (unfinished : reader.finish? = none) : Stuck reader position []
  | unread (c : Char) (rest : List Char) (unread : reader.read position c = none) :
    Stuck reader position (c :: rest)
  /-- A subscript begins, but no digit follows. -/
  | halfway {half : Reader} (rest : List Char) (read : reader.read position '_' = some half)
    (undigited : ∀ c ∈ rest.head?, half.read (position + 1) c = none) :
    Stuck reader position ('_' :: rest)

theorem failure_of_whole {reader : Reader} (whole : reader.isHalf = false)
    (word rest : List Char) :
    reader.failure (word ++ rest) rest =
      ⟨word ++ rest, word.length, reader.expected rest.isEmpty⟩ := by
  obtain ⟨opened, items, pending⟩ := reader
  cases pending with
  | lowLine => cases whole
  | _ => simp only [failure, List.length_append, Nat.add_sub_cancel]

end Reader

/-- A text that cannot be read can be read up to its failure, and reading is stuck there. -/
theorem readMoveChars_eq_error {chars : List Char} {failure : Failure}
    (failed : readMoveChars chars = .error failure) :
    ∃ word rest reader, chars = word ++ rest ∧ Reader.start.Reads 0 word reader ∧
      reader.isHalf = false ∧ reader.Stuck word.length rest ∧
      failure = ⟨chars, word.length, reader.expected rest.isEmpty⟩ := by
  obtain ⟨last, rest, stops⟩ : ∃ last rest, Reader.start.readAll 0 chars = (last, rest) :=
    ⟨_, _, rfl⟩
  obtain ⟨word, rfl, reads, unread⟩ := Reader.reads_of_readAll stops
  rw [Nat.zero_add] at unread
  obtain ⟨unfinished, rfl⟩ : (rest = [] → last.finish? = none) ∧
      last.failure (word ++ rest) rest = failure := by
    simp only [readMoveChars, stops] at failed
    split at failed
    next => cases failed
    next unfinished =>
      refine ⟨fun ends => Option.eq_none_iff_forall_ne_some.mpr (unfinished · ends), ?_⟩
      exact Except.error.inj failed
  cases half : last.isHalf with
  | false =>
    -- The reader that stopped is the one that is stuck.
    refine ⟨word, rest, last, rfl, reads, half, ?_, Reader.failure_of_whole half word rest⟩
    cases rest with
    | nil => exact .early (unfinished rfl)
    | cons c rest => exact .unread c rest (unread c rfl)
  | true =>
    rcases List.eq_nil_or_concat' word with rfl | ⟨before, c, rfl⟩
    · cases reads
      cases half
    -- The reader before the low line is stuck, since the low line is half a subscript.
    obtain ⟨reader, begun, low⟩ := Reader.reads_append_iff.mp reads
    obtain ⟨_, read, ⟨⟩⟩ := Reader.reads_cons_iff.mp low
    rw [Nat.zero_add] at read
    obtain ⟨rfl, opened, items, start, target, -, rfl, rfl⟩ := Reader.eq_of_read_isHalf read half
    refine ⟨before, '_' :: rest, _, by simp, begun, rfl, .halfway rest read ?_, ?_⟩
    · simpa using unread
    · simp only [Reader.failure, List.length_append, List.length_singleton, Nat.add_sub_cancel]
      rfl

section Completion

/-- A target grows only once. -/
theorem Target.exists_widen {target : Target} (grows : target.isOpen = true) :
    ∃ wide, target.widen? = some wide ∧ wide.isOpen = false := by
  cases target with
  | single | innerSlice => exact ⟨_, rfl, rfl⟩
  | _ => cases grows

theorem Target.exists_deepen {target : Target} (grows : target.isOpen = true) (depth : Nat) :
    ∃ deep, target.deepen? depth = some deep ∧ deep.isOpen = false := by
  cases target with
  | single | innerSlice => exact ⟨_, rfl, rfl⟩
  | _ => cases grows

variable {reader : Reader} {opened : List OpenGroup} {items : List Item} {word : List Char}

/-- The item that is being read can be brought to an end. -/
theorem Reader.Holds.ends (held : Reader.Holds word reader) (position : Nat) :
    ∃ later next items, reader.Reads position later next ∧
      Reader.Ended next reader.opened items := by
  cases held with
  | first =>
    -- No item has begun, so any item will do.
    exact ⟨_, _, _, Reader.reads_target (.inl rfl) position (.single .right), .target ..⟩
  | gap => exact ⟨[], _, _, Reader.reads_nil .., .gap ..⟩
  | layers =>
    exact ⟨_, _, _, .cons (Reader.read_face position _ _ .right) (Reader.reads_nil ..), .target ..⟩
  | target => exact ⟨[], _, _, Reader.reads_nil .., .target ..⟩
  | lowLine _ _ _ grows =>
    obtain ⟨deep, deepens, -⟩ := Target.exists_deepen grows 2
    exact ⟨_, _, _, .cons (Reader.read_depth position _ deepens (by decide) (by decide))
      (Reader.reads_nil ..), .target ..⟩
  | group => exact ⟨[], _, _, Reader.reads_nil .., .group ..⟩
  | complete => exact ⟨[], _, _, Reader.reads_nil .., .complete ..⟩

/-- All open groups can be closed. -/
theorem Reader.Ended.closes (ended : Reader.Ended reader opened items) (position : Nat) :
    ∃ later next items, reader.Reads position later next ∧ Reader.Ended next [] items := by
  induction opened generalizing reader items position with
  | nil => exact ⟨[], _, _, Reader.reads_nil .., ended⟩
  | cons group opened ih =>
    obtain ⟨later, next, items, reads, closed⟩ := ih (.group opened _ _ _) (position + 1)
    exact ⟨_, next, items, .cons (ended.read_closing position) reads, closed⟩

end Completion

/-- Does some text of moves begin with the word? -/
def Viable (word : List Char) : Prop := ∃ later items, readMoveChars (word ++ later) = .ok items

theorem viable_iff_reads {word : List Char} :
    Viable word ↔ ∃ reader, Reader.start.Reads 0 word reader := by
  constructor
  · rintro ⟨later, items, read⟩
    obtain ⟨last, reads, -⟩ := readMoveChars_eq_ok_iff_reads.mp read
    obtain ⟨reader, begun, -⟩ := Reader.reads_append_iff.mp reads
    exact ⟨reader, begun⟩
  · rintro ⟨reader, reads⟩
    have held := (Reader.Holds.first .none).reads reads
    obtain ⟨middle, between, items, reads', ended⟩ := held.ends word.length
    obtain ⟨later, last, items', reads'', closed⟩ := ended.closes (word.length + middle.length)
    have all := reads.trans (reads'.trans reads'' rfl) (Nat.zero_add _)
    exact ⟨_, _, readMoveChars_eq_ok_iff_reads.mpr ⟨last, all, closed.finish?⟩⟩

/-- Nothing viable goes on from a reader that is stuck, except for half a subscript. -/
theorem Reader.Stuck.viable {reader : Reader} {word rest later : List Char}
    (stuck : reader.Stuck word.length rest) (reads : Reader.start.Reads 0 word reader)
    (shared : later <+: rest) (viable : Viable (word ++ later)) :
    later = [] ∨ later = ['_'] ∧ rest.head? = some '_' := by
  obtain ⟨last, all⟩ := viable_iff_reads.mp viable
  obtain ⟨between, begun, more⟩ := Reader.reads_append_iff.mp all
  obtain rfl := reads.unique begun
  rw [Nat.zero_add] at more
  -- Whatever stands after the word is read by the reader that is stuck.
  cases later with
  | nil => exact .inl rfl
  | cons c later =>
    obtain ⟨next, read, further⟩ := Reader.reads_cons_iff.mp more
    cases stuck with
    | early => simp at shared
    | unread _ _ unread =>
      obtain ⟨rfl, -⟩ := List.cons_prefix_cons.mp shared
      simp [unread] at read
    | halfway rest low undigited =>
      obtain ⟨rfl, within⟩ := List.cons_prefix_cons.mp shared
      obtain rfl := Option.some.inj (low.symm.trans read)
      cases later with
      | nil => exact .inr ⟨rfl, rfl⟩
      | cons d later =>
        obtain ⟨_, digit, -⟩ := Reader.reads_cons_iff.mp further
        obtain ⟨tail, rfl⟩ := within
        simp [undigited d rfl] at digit

/-- A text that cannot be read fails after the longest part of it that a text of moves can begin
with, not counting half a subscript. -/
theorem failure_position_is_longest_viable {text : String} {failure : Failure}
    (failed : readMoves text = .error failure) :
    failure.position ≤ text.length ∧
      (∃ later items,
        readMoves (String.ofList (text.toList.take failure.position) ++ later) = .ok items) ∧
      ∀ other items, readMoves other = .ok items → ∀ shared, shared <+: text.toList →
        shared <+: other.toList → shared.length ≤ failure.position ∨
          shared.length = failure.position + 1 ∧
            text.toList[failure.position]? = some '_' := by
  obtain ⟨word, rest, reader, split, reads, -, stuck, rfl⟩ := readMoveChars_eq_error failed
  refine ⟨?_, ?_, ?_⟩
  · simp [← String.length_toList, split]
  · obtain ⟨later, items, read⟩ := viable_iff_reads.mpr ⟨reader, reads⟩
    exact ⟨String.ofList later, items, by simpa [readMoves, split] using read⟩
  · intro other items read shared ours theirs
    obtain ⟨later, whole⟩ := theirs
    rw [split] at ours ⊢
    -- What both share ends within the word, or goes on after it.
    rcases List.prefix_or_prefix_of_prefix ours (List.prefix_append word rest) with
      short | ⟨more, rfl⟩
    · exact .inl short.length_le
    · have within := (List.prefix_append_right_inj word).mp ours
      have viable : Viable (word ++ more) := ⟨later, items, by rwa [whole]⟩
      rcases stuck.viable reads within viable with rfl | ⟨rfl, low⟩
      · exact .inl (by simp)
      · refine .inr ⟨by simp, ?_⟩
        rwa [List.getElem?_append_right le_rfl, Nat.sub_self, ← List.head?_eq_getElem?]

theorem failure_position_is_longest_viable_before_half_subscript :
    ∃ failure, readMoves "(R U_9)" = .error failure ∧ failure.position = 4 ∧
      (∃ later items, readMoves ("(R U" ++ later) = .ok items) ∧
      ∃ items, readMoves "(R U_8)2" = .ok items ∧
        ∀ shared, shared <+: "(R U_9)".toList → shared <+: "(R U_8)2".toList →
          shared.length ≤ 4 ∨ shared.length = 5 := by
  obtain ⟨failure, failed, position⟩ : ∃ failure, readMoves "(R U_9)" = .error failure ∧
      failure.position = 4 := ⟨_, rfl, rfl⟩
  obtain ⟨-, viable, longest⟩ := failure_position_is_longest_viable failed
  rw [position] at viable longest
  refine ⟨failure, failed, position, viable, _, rfl, fun shared ours theirs => ?_⟩
  exact (longest "(R U_8)2" _ rfl shared ours theirs).imp_right And.left

end Cubing
