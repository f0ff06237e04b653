import Cubing.Proofs.Moves.Completeness

/-!
# Everything that is read is in the grammar

What a reader holds tells how the text so far is made up: what stands before the
open groups, what stands before the item that is being read, and the part of
that item (`Holds`). One more character keeps this true (`Holds.read`), so it is
true of every text that has been read, and a reader that may stop holds a
derivation of the whole text.
-/
namespace Cubing

open Grammar

theorem Grammar.Derives.at {symbol : Symbol} {position other : Nat} {word : List Char}
    {items : List Item} (derivation : Derives symbol position word items)
    (same : position = other) : Derives symbol other word items := same ▸ derivation

section Words

variable {target grown : Target} {word : List Char}

theorem Grammar.Spells.widen (spelled : Spells target word)
    (widens : target.widen? = some grown) : Spells grown (word ++ ['w']) := by
  cases spelled <;> simp only [Target.widen?, Option.some.injEq, reduceCtorEq] at widens
  case single face => exact widens ▸ .wide face
  case innerSlice digit face least greatest => exact widens ▸ .deepWide digit face least greatest

theorem Grammar.Spells.deepen {depth : Nat} {mark : List Char} (spelled : Spells target word)
    (deepens : target.deepen? depth = some grown) (written : Subscript depth mark) :
    Spells grown (word ++ mark) := by
  cases spelled <;> simp only [Target.deepen?, Option.some.injEq, reduceCtorEq] at deepens
  case single face => exact deepens ▸ .subscript face written
  case innerSlice digit face least greatest =>
    exact deepens ▸ .innerBlock digit face least greatest written

theorem Grammar.Spells.unmodified {position : Nat} (spelled : Spells target word) :
    Derives .item position word [.move target .none position] := by
  simpa [Modifier.mark?] using Derives.move .none spelled

theorem Modifier.mark?_of_ofMark? {c : Char} {modifier : Modifier}
    (found : Modifier.ofMark? c = some modifier) : modifier.mark? = some c :=
  key_eq_of_find?_eq_some found

end Words

namespace Reader

/-- What precedes an item of a sequence that begins at a position: nothing, or items with blanks
after each of them. The items are listed latest first. -/
inductive Before (start : Nat) : List Char → List Item → Prop where
  | first : Before start [] []
  | next {lead word blanks : List Char} {item : Item} {items : List Item}
    (before : Before start lead items) (latest : Derives .item (start + lead.length) word [item])
    (gap : Blanks blanks) (apart : blanks ≠ []) :
    Before start (lead ++ word ++ blanks) (item :: items)

/-- The text before the innermost sequence, with the groups that have been opened. -/
inductive Opens : List OpenGroup → List Char → Prop where
  | none : Opens [] []
  | group {opened : List OpenGroup} {outer lead blanks : List Char} {items : List Item}
    (outside : Opens opened outer) (before : Before outer.length lead items)
    (blank : Blanks blanks) :
    Opens (⟨(outer ++ lead).length, items⟩ :: opened) (outer ++ lead ++ '(' :: blanks)

/-- The text that a reader has read. -/
inductive Holds : List Char → Reader → Prop where
  | first {opened : List OpenGroup} {outer : List Char} (outside : Opens opened outer) :
    Holds outer ⟨opened, [], .first⟩
  | gap {opened : List OpenGroup} {outer lead : List Char} {item : Item} {items : List Item}
    (outside : Opens opened outer) (before : Before outer.length lead (item :: items)) :
    Holds (outer ++ lead) ⟨opened, item :: items, .gap⟩
  | layers {opened : List OpenGroup} {outer lead : List Char} {items : List Item} {count : Nat}
    (outside : Opens opened outer) (before : Before outer.length lead items) (least : 1 ≤ count)
    (greatest : count ≤ 9) :
    Holds (outer ++ lead ++ [digitChar count])
      ⟨opened, items, .layers (outer ++ lead).length count⟩
  | target {opened : List OpenGroup} {outer lead word : List Char} {items : List Item}
    {target : Target} (outside : Opens opened outer) (before : Before outer.length lead items)
    (spelled : Spells target word) :
    Holds (outer ++ lead ++ word) ⟨opened, items, .target (outer ++ lead).length target⟩
  | lowLine {opened : List OpenGroup} {outer lead word : List Char} {items : List Item}
    {target : Target} (outside : Opens opened outer) (before : Before outer.length lead items)
    (spelled : Spells target word) (grows : target.isOpen = true) :
    Holds (outer ++ lead ++ word ++ ['_'])
      ⟨opened, items, .lowLine (outer ++ lead).length target⟩
  | group {opened : List OpenGroup} {outer lead blanks body : List Char}
    {items derived : List Item} (outside : Opens opened outer)
    (before : Before outer.length lead items) (blank : Blanks blanks)
    (inner : Derives .expression ((outer ++ lead).length + 1 + blanks.length) body derived) :
    Holds (outer ++ lead ++ ('(' :: blanks ++ body ++ [')']))
      ⟨opened, items, .group (outer ++ lead).length derived⟩
  | complete {opened : List OpenGroup} {outer lead word : List Char} {item : Item}
    {items : List Item} (outside : Opens opened outer) (before : Before outer.length lead items)
    (latest : Derives .item (outer ++ lead).length word [item]) :
    Holds (outer ++ lead ++ word) ⟨opened, item :: items, .complete⟩

/-- What precedes an item, the item and what follows it make an expression. -/
theorem Before.expression {start : Nat} {lead word tail : List Char} {item : Item}
    {items later : List Item} (before : Before start lead items)
    (latest : Derives .item (start + lead.length) word [item])
    (more : Derives .more (start + lead.length + word.length) tail later) :
    Derives .expression start (lead ++ word ++ tail) (items.reverse ++ item :: later) := by
  -- The induction is on the items before; for each of them the rest is what follows it.
  induction before generalizing word tail item later with
  | first => exact .expression latest more
  | @next lead' word' blanks item' items' _ latest' gap apart ih =>
    have next : Derives .more (start + lead'.length + word'.length) (blanks ++ word ++ tail)
        (item :: later) :=
      .next gap apart (latest.at (by simp; omega)) (more.at (by simp; omega))
    simpa using ih latest' next

theorem Before.expression_of_gap {start : Nat} {lead : List Char} {item : Item}
    {items : List Item} (before : Before start lead (item :: items)) :
    Derives .expression start lead (item :: items).reverse := by
  cases before with
  | next before latest gap apart =>
    rw [List.reverse_cons]
    exact before.expression latest (.last gap)

theorem Before.expression_of_item {start : Nat} {lead word : List Char} {item : Item}
    {items : List Item} (before : Before start lead items)
    (latest : Derives .item (start + lead.length) word [item]) :
    Derives .expression start (lead ++ word) (item :: items).reverse := by
  have ended := before.expression latest (.last blanks_nil)
  rwa [List.append_nil, ← List.reverse_cons] at ended

section Step

variable {opened : List OpenGroup} {outer lead word : List Char} {items : List Item}
  {item : Item} {next : Reader} {c : Char}

theorem Holds.beginItem {pending : Pending} (outside : Opens opened outer)
    (before : Before outer.length lead items)
    (begins : (Reader.mk opened items pending).beginItem (outer ++ lead).length c = some next) :
    Holds (outer ++ lead ++ [c]) next := by
  simp only [Reader.beginItem] at begins
  split at begins
  next opening =>
    cases begins
    subst opening
    -- What has been read before stays outside the group that begins here.
    exact .first (.group outside before blanks_nil)
  next =>
    split at begins
    next count counted =>
      cases begins
      obtain ⟨least, greatest, rfl⟩ := layerCount?_eq_some_iff.mp counted
      exact .layers outside before least greatest
    next =>
      obtain ⟨target, found, rfl⟩ := Option.map_eq_some_iff.mp begins
      exact .target outside before (Target.spells_of_ofLetter? found)

theorem Holds.closeGroup {pending : Pending} {inner : List Char} (outside : Opens opened outer)
    (expression : Derives .expression outer.length inner items.reverse)
    (closes : (Reader.mk opened items pending).closeGroup = some next) :
    Holds (outer ++ inner ++ [')']) next := by
  cases outside with
  | none => cases closes
  | group outside before blank =>
    cases closes
    -- The expression is the body of the innermost group, and what was before it comes back.
    have held := Holds.group outside before blank (expression.at (by simp; omega))
    simpa using held

theorem Holds.readBoundary (outside : Opens opened outer)
    (before : Before outer.length lead items)
    (latest : Derives .item (outer ++ lead).length word [item])
    (reads : (Reader.mk opened (item :: items) .complete).readBoundary c = some next) :
    Holds (outer ++ lead ++ word ++ [c]) next := by
  have placed := latest.at (List.length_append)
  simp only [Reader.readBoundary] at reads
  split at reads
  next blank =>
    cases reads
    have gap : Before outer.length (lead ++ word ++ [c]) (item :: items) :=
      .next before placed (blanks_singleton_iff.mpr blank) (List.cons_ne_nil _ _)
    simpa using Holds.gap outside gap
  next =>
    split at reads
    next closing =>
      subst closing
      -- A group is closed right after its last item, with no blanks between.
      have held := Holds.closeGroup outside (before.expression_of_item placed) reads
      simpa using held
    next => cases reads

theorem Holds.readAfterTarget {target : Target} (outside : Opens opened outer)
    (before : Before outer.length lead items) (spelled : Spells target word)
    (reads : (Reader.mk opened items (.target (outer ++ lead).length target)).readAfterTarget
      (outer ++ lead).length target c = some next) :
    Holds (outer ++ lead ++ word ++ [c]) next := by
  simp only [Reader.readAfterTarget] at reads
  -- The character is a modifier, makes the target grow, is half a subscript, or ends the move.
  split at reads
  next modifier marked =>
    cases reads
    have latest : Derives .item (outer ++ lead).length (word ++ modifier.mark?.toList)
        [.move target modifier (outer ++ lead).length] := .move modifier spelled
    rw [Modifier.mark?_of_ofMark? marked, Option.toList_some] at latest
    simpa [Reader.complete] using Holds.complete outside before latest
  next grown _ grows =>
    cases reads
    have longer : Spells grown (word ++ [c]) := by
      simp only [grow?] at grows
      split at grows
      next mark => exact mark ▸ spelled.widen grows
      next =>
        obtain ⟨depth, lowered, deepens⟩ := Option.bind_eq_some_iff.mp grows
        obtain ⟨least, greatest, rfl⟩ := loweredDepth?_eq_some_iff.mp lowered
        exact spelled.deepen deepens (.lowered depth least greatest)
    simpa using Holds.target outside before longer
  next =>
    split at reads
    next low =>
      cases reads
      obtain ⟨rfl, grows⟩ := low
      exact .lowLine outside before spelled grows
    next =>
      exact Holds.readBoundary outside before spelled.unmodified reads

theorem Holds.readAfterGroup {derived : List Item} {blanks body : List Char}
    (outside : Opens opened outer) (before : Before outer.length lead items)
    (blank : Blanks blanks)
    (inner : Derives .expression ((outer ++ lead).length + 1 + blanks.length) body derived)
    (reads : (Reader.mk opened items (.group (outer ++ lead).length derived)).readAfterGroup
      (outer ++ lead).length derived c = some next) :
    Holds (outer ++ lead ++ ('(' :: blanks ++ body ++ [')']) ++ [c]) next := by
  simp only [Reader.readAfterGroup] at reads
  split at reads
  next times counted =>
    cases reads
    obtain ⟨least, greatest, rfl⟩ := repeatCount?_eq_some_iff.mp counted
    have latest := Derives.group blank inner (.times times least greatest)
    simpa [Reader.complete] using Holds.complete outside before latest
  next =>
    exact Holds.readBoundary outside before (.group blank inner .once) reads

/-- The next character is read in accordance with the grammar. -/
theorem Holds.read {text : List Char} {reader : Reader} (held : Holds text reader)
    (reads : reader.read text.length c = some next) : Holds (text ++ [c]) next := by
  cases held with
  | @first opened outer outside =>
    simp only [Reader.read] at reads
    split at reads
    next space =>
      cases reads
      -- No text begins with a blank, but a group may.
      cases outside with
      | none => cases space.2
      | @group opened outer lead blanks items outside before blank =>
        have wider := blanks_append_iff.mpr ⟨blank, blanks_singleton_iff.mpr space.1⟩
        simpa using Holds.first (.group outside before wider)
    next => simpa using Holds.beginItem outside .first (by simpa using reads)
  | @gap opened outer lead item items outside before =>
    simp only [Reader.read] at reads
    split at reads
    next space =>
      cases reads
      -- One more blank follows the latest item.
      cases before with
      | @next lead word blanks _ _ before latest gap apart =>
        have wider := blanks_append_iff.mpr ⟨gap, blanks_singleton_iff.mpr space⟩
        simpa using Holds.gap outside (.next before latest wider (by simp))
    next =>
      split at reads
      next closing =>
        subst closing
        exact Holds.closeGroup outside before.expression_of_gap reads
      next => exact Holds.beginItem outside before reads
  | layers outside before least greatest =>
    obtain ⟨face, found, rfl⟩ := Option.map_eq_some_iff.mp reads
    obtain rfl := Face.ofLetter?_eq_some_iff.mp found
    simpa using Holds.target outside before (.innerSlice _ face least greatest)
  | target outside before spelled => exact Holds.readAfterTarget outside before spelled reads
  | lowLine outside before spelled grows =>
    obtain ⟨depth, counted, deepened⟩ := Option.bind_eq_some_iff.mp reads
    obtain ⟨deeper, deepens, rfl⟩ := Option.map_eq_some_iff.mp deepened
    obtain ⟨least, greatest, rfl⟩ := depthAfterLowLine?_eq_some_iff.mp counted
    have longer := spelled.deepen deepens (.lowLine depth least greatest)
    simpa using Holds.target outside before longer
  | group outside before blank inner =>
    exact Holds.readAfterGroup outside before blank inner reads
  | complete outside before latest => exact Holds.readBoundary outside before latest reads

end Step

theorem Holds.reads {text word : List Char} {reader next : Reader} (held : Holds text reader)
    (reads : reader.Reads text.length word next) : Holds (text ++ word) next := by
  induction word generalizing text reader with
  | nil =>
    cases reads
    rwa [List.append_nil]
  | cons c word ih =>
    obtain ⟨between, read, later⟩ := reads_cons_iff.mp reads
    have longer := ih (held.read read) (by simpa using later)
    simpa using longer

/-- Where a text may end, what has been read is an expression. -/
theorem Holds.derives {text : List Char} {reader : Reader} {items : List Item}
    (held : Holds text reader) (ends : reader.finish? = some items) :
    Derives .expression 0 text items := by
  -- No group is open, so all that has been read belongs to the outermost sequence.
  have closed : reader.opened = [] := by
    by_contra opened
    simp [finish?, List.isEmpty_eq_false_iff.mpr opened] at ends
  cases held with
  | first | layers | lowLine => simp [finish?] at ends
  | gap outside before =>
    obtain rfl := closed
    cases outside
    cases ends
    exact before.expression_of_gap
  | target outside before spelled =>
    obtain rfl := closed
    cases outside
    cases ends
    simpa using before.expression_of_item spelled.unmodified
  | group outside before blank inner =>
    obtain rfl := closed
    cases outside
    cases ends
    simpa using before.expression_of_item (.group blank (by simpa using inner) .once)
  | complete outside before latest =>
    obtain rfl := closed
    cases outside
    cases ends
    exact before.expression_of_item (latest.at List.length_append)

end Reader

end Cubing
