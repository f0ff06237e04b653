import Cubing.Proofs.Moves.Soundness

/-!
# Tokens

A text of moves is a sequence of tokens, each a word of one of the kinds that can
be expected. `Pattern` tells in which order the kinds may come. Every word that
the grammar derives is made of tokens in such an order
(`Grammar.Derives.exists_madeOf`). The digits belong to several kinds; of which
kind a digit is in a text depends on what comes before it. Every other character
begins tokens of one kind only (`IsToken.kind_eq_or`).
-/
namespace Cubing

open Grammar

/-- The words of a kind. There are none for the end of the input. -/
inductive IsToken : Expectation → List Char → Prop where
  | groupStart : IsToken .groupStart ['(']
  | groupEnd : IsToken .groupEnd [')']
  | wideMark : IsToken .wideMark ['w']
  | wholeLetter (axis : Axis) (capital : Bool) : IsToken .wholeLetter [axis.wholeLetter capital]
  | faceLetter (face : Face) : IsToken .faceLetter [face.letter]
  | layerCount (count : Nat) (least : 1 ≤ count) (greatest : count ≤ 9) :
    IsToken .layerCount [digitChar count]
  | modifier (modifier : Modifier) (c : Char) (marked : modifier.mark? = some c) :
    IsToken .modifier [c]
  | repeatCount (count : Nat) (least : 2 ≤ count) (greatest : count ≤ 9) :
    IsToken .repeatCount [digitChar count]
  | middleLetter (axis : Axis) : IsToken .middleLetter [axis.middleLetter]
  | space (c : Char) (blank : Text.isBlank c = true) : IsToken .space [c]
  | subscript (depth : Nat) (word : List Char) (written : Subscript depth word) :
    IsToken .subscript word
  | smallLetter (face : Face) : IsToken .smallLetter [face.smallLetter]

/-- The word is made of tokens of the given kinds, in order. -/
inductive MadeOf : List Char → List Expectation → Prop where
  | nil : MadeOf [] []
  | cons {kind : Expectation} {kinds : List Expectation} {word rest : List Char}
    (token : IsToken kind word) (later : MadeOf rest kinds) : MadeOf (word ++ rest) (kind :: kinds)

section Words

variable {first second word : List Char} {kinds others : List Expectation}

theorem IsToken.madeOf {kind : Expectation} (token : IsToken kind word) :
    MadeOf word [kind] := by
  simpa using MadeOf.cons token .nil

theorem MadeOf.append (made : MadeOf first kinds) (made' : MadeOf second others) :
    MadeOf (first ++ second) (kinds ++ others) := by
  induction made with
  | nil => exact made'
  | cons token _ ih => simpa using MadeOf.cons token ih

theorem madeOf_append_iff : MadeOf word (kinds ++ others) ↔
    ∃ first second, word = first ++ second ∧ MadeOf first kinds ∧ MadeOf second others := by
  constructor
  · intro made
    induction kinds generalizing word with
    | nil => exact ⟨[], word, rfl, .nil, made⟩
    | cons kind kinds ih =>
      cases made with
      | cons token later =>
        obtain ⟨first, second, rfl, made, made'⟩ := ih later
        exact ⟨_, second, (List.append_assoc ..).symm, .cons token made, made'⟩
  · rintro ⟨first, second, rfl, made, made'⟩
    exact made.append made'

theorem Grammar.Blanks.madeOf (blank : Blanks word) :
    MadeOf word (List.replicate word.length .space) := by
  induction word with
  | nil => exact .nil
  | cons c word ih =>
    obtain ⟨blank, others⟩ := List.forall_mem_cons.mp blank
    exact .cons (.space c blank) (ih others)

theorem IsToken.ne_nil {kind : Expectation} (token : IsToken kind word) : word ≠ [] := by
  cases token with
  | subscript _ _ written => cases written <;> exact List.cons_ne_nil _ _
  | _ => exact List.cons_ne_nil _ _

theorem exists_isToken {kind : Expectation} (inner : kind ≠ .endOfInput) :
    ∃ word, IsToken kind word := by
  cases kind with
  | groupStart => exact ⟨_, .groupStart⟩
  | groupEnd => exact ⟨_, .groupEnd⟩
  | wideMark => exact ⟨_, .wideMark⟩
  | wholeLetter => exact ⟨_, .wholeLetter .x true⟩
  | endOfInput => exact absurd rfl inner
  | faceLetter => exact ⟨_, .faceLetter .front⟩
  | layerCount => exact ⟨_, .layerCount 2 (by decide) (by decide)⟩
  | modifier => exact ⟨_, .modifier .prime _ rfl⟩
  | repeatCount => exact ⟨_, .repeatCount 2 (by decide) (by decide)⟩
  | middleLetter => exact ⟨_, .middleLetter .x⟩
  | space => exact ⟨_, .space ' ' rfl⟩
  | subscript => exact ⟨_, .subscript 2 _ (.lowLine 2 (by decide) (by decide))⟩
  | smallLetter => exact ⟨_, .smallLetter .front⟩

/-- No token can be divided but a subscript after its low line. -/
theorem IsToken.eq_nil_or {kind : Expectation} (token : IsToken kind word)
    (split : word = first ++ second) (begun : first ≠ []) :
    second = [] ∨ kind = .subscript ∧ first = ['_'] := by
  obtain ⟨c, first, rfl⟩ := List.exists_cons_of_ne_nil begun
  have length := congrArg List.length split
  simp only [List.length_append, List.length_cons] at length
  have single (one : word.length = 1) : second = [] :=
    List.eq_nil_of_length_eq_zero (by omega)
  cases token with
  | subscript _ _ written =>
    cases written with
    | lowered => exact .inl (single rfl)
    | lowLine =>
      obtain ⟨rfl, digit⟩ := List.cons.inj split
      rcases List.singleton_eq_append_iff.mp digit with ⟨rfl, -⟩ | ⟨-, rfl⟩
      · exact .inr ⟨rfl, rfl⟩
      · exact .inl rfl
  | _ => exact .inl (single rfl)

/-- Words of a kind with which the same text begins are the same. -/
theorem IsToken.eq_of_append_eq {kind : Expectation} {other rest rest' : List Char}
    (token : IsToken kind word) (token' : IsToken kind other)
    (same : word ++ rest = other ++ rest') : word = other := by
  cases token with
  | subscript _ _ written =>
    cases token' with
    | subscript _ _ written' =>
      -- The two ways to write a subscript begin with different characters.
      cases written with
      | lowLine =>
        cases written' with
        | lowLine => exact (List.append_inj same rfl).1
        | lowered least greatest =>
          exact absurd (List.cons.inj same).1.symm (loweredChar_separate least greatest).2.2
      | lowered least greatest =>
        cases written' with
        | lowLine => exact absurd (List.cons.inj same).1 (loweredChar_separate least greatest).2.2
        | lowered => exact (List.append_inj same rfl).1
  | _ =>
    cases token'
    exact (List.append_inj same rfl).1

/-- The only kind of the tokens that begin with a character that is no digit. -/
def Expectation.ofChar (c : Char) : Expectation :=
  if Text.isBlank c then .space
  else if c = '(' then .groupStart
  else if c = ')' then .groupEnd
  else if c = 'w' then .wideMark
  else if c = Char.ofNat 39 then .modifier
  else
    match Target.ofLetter? c with
    | some (.single _) => .faceLetter
    | some (.middle _) => .middleLetter
    | some (.whole ..) => .wholeLetter
    | some _ => .smallLetter
    | none => .subscript

/-- The first character decides of what kind a token is, unless it is a digit. -/
theorem IsToken.kind_eq_or {kind : Expectation} {c : Char} (token : IsToken kind (c :: word)) :
    layerCount? c = none ∧ kind = .ofChar c ∨
      layerCount? c ≠ none ∧ kind ∈ [.layerCount, .modifier, .repeatCount] := by
  have counted {count : Nat} (least : 1 ≤ count) (greatest : count ≤ 9) :
      layerCount? (digitChar count) ≠ none := by
    rw [layerCount?_eq_some_iff.mpr ⟨least, greatest, rfl⟩]
    exact Option.some_ne_none count
  cases token with
  | groupStart | groupEnd | wideMark => exact .inl (by decide)
  | faceLetter face => cases face <;> exact .inl (by decide)
  | smallLetter face => cases face <;> exact .inl (by decide)
  | middleLetter axis => cases axis <;> exact .inl (by decide)
  | wholeLetter axis capital => cases axis <;> cases capital <;> exact .inl (by decide)
  | layerCount count least greatest => exact .inr ⟨counted least greatest, by simp⟩
  | repeatCount count least greatest =>
    exact .inr ⟨counted (Nat.le_of_succ_le least) greatest, by simp⟩
  | modifier modifier c marked =>
    cases modifier with
    | none => cases marked
    | prime => cases marked; exact .inl (by decide)
    | double => cases marked; exact .inr (by decide)
  | space c blank =>
    refine .inl ⟨?_, by simp [Expectation.ofChar, blank]⟩
    rw [Option.eq_none_iff_forall_ne_some]
    intro count found
    obtain ⟨least, greatest, rfl⟩ := layerCount?_eq_some_iff.mp found
    simp [(digitChar_separate least greatest).1] at blank
  | subscript depth _ written =>
    cases written with
    | lowLine => exact .inl (by decide)
    | lowered least greatest => interval_cases depth <;> exact .inl (by decide)

end Words

/-- The kinds of the tokens that spell a target. -/
def Target.kinds : Target → List Expectation
  | .single _ => [.faceLetter]
  | .middle _ => [.middleLetter]
  | .whole .. => [.wholeLetter]
  | .wideLetter _ => [.smallLetter]
  | .wide _ => [.faceLetter, .wideMark]
  | .deepWide .. => [.layerCount, .faceLetter, .wideMark]
  | .subscript .. => [.faceLetter, .subscript]
  | .innerSlice .. => [.layerCount, .faceLetter]
  | .innerBlock .. => [.layerCount, .faceLetter, .subscript]

def Modifier.kinds : Modifier → List Expectation
  | .none => []
  | .prime | .double => [.modifier]

namespace Grammar

/-- The kinds of the tokens of a symbol, in order. -/
inductive Pattern : Symbol → List Expectation → Prop where
  | move (target : Target) (modifier : Modifier) :
    Pattern .item (target.kinds ++ modifier.kinds)
  | group {body count : List Expectation} (blanks : Nat) (inner : Pattern .expression body)
    (counted : count ∈ [[], [.repeatCount]]) :
    Pattern .item (.groupStart :: List.replicate blanks .space ++ body ++ .groupEnd :: count)
  | expression {kinds later : List Expectation} (first : Pattern .item kinds)
    (more : Pattern .more later) : Pattern .expression (kinds ++ later)
  | last (blanks : Nat) : Pattern .more (List.replicate blanks .space)
  | next {kinds later : List Expectation} (blanks : Nat) (first : Pattern .item kinds)
    (more : Pattern .more later) :
    Pattern .more (.space :: List.replicate blanks .space ++ kinds ++ later)

end Grammar

section Division

variable {word : List Char}

theorem Grammar.Spells.madeOf {target : Target} (spelled : Spells target word) :
    MadeOf word target.kinds := by
  cases spelled with
  | single face => exact (IsToken.faceLetter face).madeOf
  | middle axis => exact (IsToken.middleLetter axis).madeOf
  | whole axis capital => exact (IsToken.wholeLetter axis capital).madeOf
  | wideLetter face => exact (IsToken.smallLetter face).madeOf
  | wide face => exact .cons (.faceLetter face) IsToken.wideMark.madeOf
  | deepWide digit face least greatest =>
    exact .cons (.layerCount digit least greatest)
      (.cons (.faceLetter face) IsToken.wideMark.madeOf)
  | subscript face written => exact .cons (.faceLetter face) (IsToken.subscript _ _ written).madeOf
  | innerSlice digit face least greatest =>
    exact .cons (.layerCount digit least greatest) (IsToken.faceLetter face).madeOf
  | innerBlock digit face least greatest written =>
    exact .cons (.layerCount digit least greatest)
      (.cons (.faceLetter face) (IsToken.subscript _ _ written).madeOf)

theorem Modifier.madeOf (modifier : Modifier) : MadeOf modifier.mark?.toList modifier.kinds := by
  cases modifier with
  | none => exact .nil
  | prime => exact (IsToken.modifier .prime _ rfl).madeOf
  | double => exact (IsToken.modifier .double _ rfl).madeOf

theorem Grammar.Repeats.exists_madeOf {times : Nat} (repeats : Repeats times word) :
    ∃ kinds ∈ [[], [Expectation.repeatCount]], MadeOf word kinds := by
  cases repeats with
  | once => exact ⟨[], by simp, .nil⟩
  | times _ least greatest =>
    exact ⟨[.repeatCount], by simp, (IsToken.repeatCount times least greatest).madeOf⟩

/-- A word of the grammar is made of tokens whose kinds come in the order of its symbol. -/
theorem Grammar.Derives.exists_madeOf {symbol : Symbol} {position : Nat} {items : List Item}
    (derivation : Derives symbol position word items) :
    ∃ kinds, MadeOf word kinds ∧ Pattern symbol kinds := by
  induction derivation with
  | @move _ target _ modifier spelled =>
    exact ⟨_, spelled.madeOf.append modifier.madeOf, .move target modifier⟩
  | @group _ _ blanks _ _ _ lead _ repeats ih =>
    obtain ⟨body, inner, pattern⟩ := ih
    obtain ⟨count, counted, made⟩ := repeats.exists_madeOf
    have opened := MadeOf.cons .groupStart lead.madeOf
    exact ⟨_, (opened.append inner).append (.cons .groupEnd made), .group _ pattern counted⟩
  | expression _ _ first later =>
    obtain ⟨kinds, made, pattern⟩ := first
    obtain ⟨others, made', pattern'⟩ := later
    exact ⟨_, made.append made', .expression pattern pattern'⟩
  | last trail => exact ⟨_, trail.madeOf, .last _⟩
  | @next _ blanks _ _ _ _ gap apart _ _ first later =>
    obtain ⟨kinds, made, pattern⟩ := first
    obtain ⟨others, made', pattern'⟩ := later
    obtain ⟨c, blanks, rfl⟩ := List.exists_cons_of_ne_nil apart
    exact ⟨_, (gap.madeOf.append made).append made', .next _ pattern pattern'⟩

end Division

/-- Some text of moves begins with the word, and of the tokens that it is made of, one of the kind
comes right after the word. -/
def CanFollow (word : List Char) (kind : Expectation) : Prop :=
  ∃ later items kinds others, readMoveChars (word ++ later) = .ok items ∧ MadeOf word kinds ∧
    MadeOf later (kind :: others) ∧ Pattern .expression (kinds ++ kind :: others)

end Cubing
