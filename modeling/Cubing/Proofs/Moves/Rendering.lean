import Cubing.Proofs.Moves.Soundness

/-!
# Reading and writing moves

A text is read exactly when the grammar derives it, and what is read is the only
thing that it derives (`readMoveChars_eq_ok_iff`). A list of items that can be
written is derived from its text in every layout, with the positions that the
layout gives (`Item.derives_renderAll`), and what is derived can be written
(`Grammar.Derives.wellFormed`).
-/
namespace Cubing

open Grammar

section Reading

/-- A text is read when it can be read to its end and may end there. -/
theorem readMoveChars_eq_ok_iff_reads {chars : List Char} {items : List Item} :
    readMoveChars chars = .ok items ↔
      ∃ reader, Reader.start.Reads 0 chars reader ∧ reader.finish? = some items := by
  simp only [readMoveChars, Reader.Reads]
  rcases Reader.start.readAll 0 chars with ⟨reader, rest⟩
  cases rest with
  | nil => cases finished : reader.finish? <;> simp [finished]
  | cons => simp

theorem readMoveChars_eq_ok_iff {chars : List Char} {items : List Item} :
    readMoveChars chars = .ok items ↔ Derives .expression 0 chars items := by
  rw [readMoveChars_eq_ok_iff_reads]
  constructor
  -- What is held at the beginning is the empty text; reading to the end keeps it true.
  · rintro ⟨reader, reads, ends⟩
    exact ((Reader.Holds.first .none).reads reads).derives ends
  · intro derivation
    obtain ⟨reader, reads, ended⟩ :=
      Reader.understands_of_derives derivation [] [] .first (.inl rfl)
    rw [List.append_nil] at ended
    exact ⟨reader, reads, by rw [ended.finish?, List.reverse_reverse]⟩

theorem readMoves_eq_ok_iff {text : String} {items : List Item} :
    readMoves text = .ok items ↔ Derives .expression 0 text.toList items :=
  readMoveChars_eq_ok_iff

theorem Grammar.Derives.unique {text : List Char} {items others : List Item}
    (derivation : Derives .expression 0 text items)
    (derivation' : Derives .expression 0 text others) : others = items := by
  -- Both are what is read, and reading gives one answer.
  have read := readMoveChars_eq_ok_iff.mpr derivation
  rw [readMoveChars_eq_ok_iff.mpr derivation'] at read
  exact Except.ok.inj read

end Reading

section Writing

theorem Target.subscript_renderDepth (lowered : Bool) {depth : Nat} (least : 2 ≤ depth)
    (greatest : depth ≤ 8) : Subscript depth (renderDepth lowered depth) := by
  cases lowered with
  | false => exact .lowLine depth least greatest
  | true => exact .lowered depth least greatest

theorem Target.spells_render (lowered : Bool) {target : Target} (wellFormed : target.WellFormed) :
    Spells target (target.render lowered) := by
  cases target with
  | single face => exact .single face
  | middle axis => exact .middle axis
  | whole axis capital => exact .whole axis capital
  | wideLetter face => exact .wideLetter face
  | wide face => exact .wide face
  | deepWide digit face => exact .deepWide digit face wellFormed.1 wellFormed.2
  | subscript face depth =>
    exact .subscript face (subscript_renderDepth lowered wellFormed.1 wellFormed.2)
  | innerSlice digit face => exact .innerSlice digit face wellFormed.1 wellFormed.2
  | innerBlock digit face depth =>
    obtain ⟨least, greatest, shallow, deep⟩ := wellFormed
    exact .innerBlock digit face least greatest (subscript_renderDepth lowered shallow deep)

theorem Grammar.Spells.wellFormed {target : Target} {word : List Char}
    (spelled : Spells target word) : target.WellFormed := by
  cases spelled with
  | deepWide _ _ least greatest => exact ⟨least, greatest⟩
  | innerSlice _ _ least greatest => exact ⟨least, greatest⟩
  | subscript _ written => cases written <;> exact ⟨‹_›, ‹_›⟩
  | innerBlock _ _ least greatest written => cases written <;> exact ⟨least, greatest, ‹_›, ‹_›⟩
  | _ => trivial

theorem Item.repeats_renderTimes {times : Nat} (least : 1 ≤ times) (greatest : times ≤ 9) :
    Repeats times (renderTimes times) := by
  simp only [renderTimes]
  split
  next once => exact once ▸ .once
  next again => exact .times times (by omega) greatest

mutual

theorem Item.derives_render (layout : Layout) (position : Nat) :
    (item : Item) → item.WellFormed →
      ∃ placed, Derives .item position (item.render layout position) [placed] ∧
        placed.unplaced = item.unplaced
  | .move target modifier _, wellFormed =>
    ⟨_, .move modifier (Target.spells_render _ wellFormed), rfl⟩
  | .group items times _, ⟨nonempty, least, greatest, wellFormed⟩ => by
    obtain ⟨placed, inner, same⟩ := Item.derives_renderAll layout
      (position + 1 + (layout.lead position).length) items nonempty wellFormed
    refine ⟨.group placed times position, ?_, by simp only [unplaced, same]⟩
    exact .group (layout.lead_blanks position) inner (repeats_renderTimes least greatest)

/-- The text of a list of items derives the items. -/
theorem Item.derives_renderAll (layout : Layout) (position : Nat) :
    (items : List Item) → items ≠ [] → AllWellFormed items →
      ∃ placed, Derives .expression position (renderAll layout position items) placed ∧
        unplacedAll placed = unplacedAll items
  | [], nonempty, _ => absurd rfl nonempty
  | item :: items, _, ⟨wellFormed, others⟩ => by
    obtain ⟨first, derived, same⟩ := Item.derives_render layout position item wellFormed
    obtain ⟨later, more, same'⟩ := Item.derives_renderMore layout
      (position + (item.render layout position).length) items others
    exact ⟨first :: later, .expression derived more, by simp only [unplacedAll, same, same']⟩

theorem Item.derives_renderMore (layout : Layout) (position : Nat) :
    (items : List Item) → AllWellFormed items →
      ∃ placed, Derives .more position (renderMore layout position items) placed ∧
        unplacedAll placed = unplacedAll items
  | [], _ => ⟨[], .last (layout.trail_blanks position), rfl⟩
  | item :: items, ⟨wellFormed, others⟩ => by
    obtain ⟨first, derived, same⟩ := Item.derives_render layout
      (position + (layout.gap position).length) item wellFormed
    obtain ⟨later, more, same'⟩ := Item.derives_renderMore layout _ items others
    refine ⟨first :: later, ?_, by simp only [unplacedAll, same, same']⟩
    exact .next (layout.gap_blanks position) (layout.gap_ne_nil position) derived more

end

/-- Writing items and reading the text gives the items back, placed in the text. -/
theorem readMoves_renderAll (layout : Layout) {items : List Item} (nonempty : items ≠ [])
    (wellFormed : Item.AllWellFormed items) :
    ∃ read, readMoves (String.ofList (Item.renderAll layout 0 items)) = .ok read ∧
      Item.unplacedAll read = Item.unplacedAll items := by
  obtain ⟨read, derivation, same⟩ := Item.derives_renderAll layout 0 items nonempty wellFormed
  exact ⟨read, readMoves_eq_ok_iff.mpr (by rwa [String.toList_ofList]), same⟩

/-- What a text derives can be written. -/
theorem Grammar.Derives.wellFormed {symbol : Symbol} {position : Nat} {word : List Char}
    {items : List Item} (derivation : Derives symbol position word items) :
    Item.AllWellFormed items ∧ (symbol = .expression → items ≠ []) := by
  -- An expression is not empty, and this is all that its group asks for.
  induction derivation with
  | move modifier spelled => exact ⟨⟨spelled.wellFormed, trivial⟩, nofun⟩
  | group _ _ repeats ih =>
    have counted : ∀ {times word}, Repeats times word → 1 ≤ times ∧ times ≤ 9 := by
      rintro _ _ (_ | ⟨_, least, greatest⟩) <;> omega
    obtain ⟨least, greatest⟩ := counted repeats
    exact ⟨⟨⟨ih.2 rfl, least, greatest, ih.1⟩, trivial⟩, nofun⟩
  | expression _ _ first later =>
    exact ⟨⟨first.1.1, later.1⟩, fun _ => List.cons_ne_nil _ _⟩
  | last => exact ⟨trivial, nofun⟩
  | next _ _ _ _ first later => exact ⟨⟨first.1.1, later.1⟩, nofun⟩

/-- Items are written with one space between them and with subscript digits. -/
def Layout.plain : Layout where
  lead _ := []
  gap _ := [' ']
  trail _ := []
  lowered _ := true
  lead_blanks _ := blanks_nil
  gap_blanks _ := blanks_singleton_iff.mpr rfl
  trail_blanks _ := blanks_nil
  gap_ne_nil _ := List.cons_ne_nil _ _

end Writing

/-- A text is read if and only if the grammar derives it, as the only items that the grammar
derives from it; and every text of items that can be written is read as these items. -/
theorem reading_agrees_with_grammar (text : String) (items : List Item) (layout : Layout) :
    (readMoves text = .ok items ↔ Derives .expression 0 text.toList items) ∧
      (∀ others, Derives .expression 0 text.toList items →
        Derives .expression 0 text.toList others → others = items) ∧
      (items ≠ [] → Item.AllWellFormed items →
        ∃ read, readMoves (String.ofList (Item.renderAll layout 0 items)) = .ok read ∧
          Item.unplacedAll read = Item.unplacedAll items) :=
  ⟨readMoves_eq_ok_iff, fun _ derivation derivation' => derivation.unique derivation',
    fun nonempty wellFormed => readMoves_renderAll layout nonempty wellFormed⟩

theorem reading_agrees_with_grammar_for_repeated_group :
    ∃ items, readMoves "(R₃ U')2" = .ok items ∧
      Derives .expression 0 "(R₃ U')2".toList items ∧
      ∃ read, readMoves (String.ofList (Item.renderAll Layout.plain 0 items)) = .ok read ∧
        Item.unplacedAll read = Item.unplacedAll items := by
  obtain ⟨agrees, -, written⟩ := reading_agrees_with_grammar "(R₃ U')2"
    [.group [.move (.subscript .right 3) .none 1, .move (.single .top) .prime 4] 2 0]
    Layout.plain
  refine ⟨_, rfl, agrees.mp rfl, written (List.cons_ne_nil _ _) ?_⟩
  simp [Item.AllWellFormed, Item.WellFormed, Target.WellFormed]

end Cubing
