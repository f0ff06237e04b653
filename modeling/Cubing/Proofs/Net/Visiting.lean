import Mathlib.Data.List.Basic
import Cubing.Net.Walk

/-!
# Visitors of nets

A traversal hands out its items one by one, and what comes of it is known from them and from how it
ends when nobody stops it (`Traversal.visit_of_stopsAt`): a visitor is shown the items up to the one
at which it stops, and a fault that lies behind this one is never met. The faces of a net are handed
out as far as there are grids for them, and the cells of a grid as far as there are cells, each with
its row and its column (`Net.observe_cells`).
-/
namespace Cubing

namespace Traversal

variable {α σ : Type}

/-- What is handed out unless a visitor stops. -/
def items : Traversal α → List α
  | .finished | .failed _ => []
  | .next item later => item :: later.items

/-- How a traversal ends unless a visitor stops. -/
def ending : Traversal α → Except Fault Decision
  | .finished => .ok .goOn
  | .failed fault => .error fault
  | .next _ later => later.ending

theorem ending_ne_stop (traversal : Traversal α) : traversal.ending ≠ .ok .stop := by
  induction traversal with
  | finished | failed => exact nofun
  | next item later ih => exact ih

section Visitors

/-- The state of a visitor that has been shown some items. -/
def shown (visitor : σ → α → σ × Decision) (start : σ) (seen : List α) : σ :=
  seen.foldl (fun state item => (visitor state item).1) start

/-- A visitor that stops at a given visit, counted from 1, whatever it is shown, or never stops. -/
def StopsAt (visitor : σ → α → σ × Decision) (start : σ) (visit : Option Nat) : Prop :=
  ∀ seen item, (visitor (shown visitor start seen) item).2 = .stop ↔ visit = some (seen.length + 1)

variable {visitor : σ → α → σ × Decision} {start : σ}

theorem shown_concat (seen : List α) (item : α) :
    shown visitor start (seen ++ [item]) = (visitor (shown visitor start seen) item).1 :=
  List.foldl_concat ..

theorem visit_next (item : α) (later : Traversal α) (seen : List α) :
    (Traversal.next item later).visit visitor (shown visitor start seen) =
      if (visitor (shown visitor start seen) item).2 = .stop then
        (shown visitor start (seen ++ [item]), .ok .stop)
      else later.visit visitor (shown visitor start (seen ++ [item])) := by
  rw [shown_concat, Traversal.visit]
  rcases visitor (shown visitor start seen) item with ⟨state, _ | _⟩ <;> rfl

theorem visit_of_never (never : StopsAt visitor start none) (traversal : Traversal α)
    (seen : List α) :
    traversal.visit visitor (shown visitor start seen) =
      (shown visitor start (seen ++ traversal.items), traversal.ending) := by
  induction traversal generalizing seen with
  | finished | failed => rw [items, List.append_nil]; rfl
  | next item later ih =>
    have goesOn := (never seen item).not.mpr nofun
    rw [visit_next, if_neg goesOn, ih, List.append_assoc]
    rfl

/-- The induction is on the items that are still to come, after those that have been seen. -/
theorem visit_of_stopsAt {rest : Nat} (traversal : Traversal α) (seen : List α)
    (stops : StopsAt visitor start (some (seen.length + rest + 1))) :
    traversal.visit visitor (shown visitor start seen) =
      (shown visitor start (seen ++ traversal.items.take (rest + 1)),
        if rest < traversal.items.length then .ok .stop else traversal.ending) := by
  induction traversal generalizing seen rest with
  | finished | failed =>
    rw [items, List.take_nil, List.append_nil]
    rfl
  | next item later ih =>
    have stopsHere := stops seen item
    rw [visit_next, items, List.take_succ_cons, List.length_cons]
    cases rest with
    | zero =>
      rw [if_pos (stopsHere.mpr rfl), if_pos (Nat.zero_lt_succ _), List.take_zero]
    | succ rest =>
      have goesOn := stopsHere.not.mpr (by rw [Option.some_inj]; omega)
      have length : (seen ++ [item]).length + rest + 1 = seen.length + (rest + 1) + 1 := by
        rw [List.length_append, List.length_singleton]
        omega
      rw [if_neg goesOn, ih _ (length ▸ stops), List.append_assoc]
      simp only [Nat.add_lt_add_iff_right]
      rfl

theorem StopsAt.never (stops : StopsAt visitor start (some 0)) : StopsAt visitor start none :=
  fun seen item => (stops seen item).trans (by simp)

end Visitors

section Noting

theorem shown_notingVisitor (stopAt : Option Int) (before seen : List α) :
    shown (notingVisitor stopAt) before seen = seen.reverse ++ before := by
  induction seen generalizing before with
  | nil => rfl
  | cons item seen ih => rw [List.reverse_cons, List.append_assoc]; exact ih (item :: before)

theorem stopsAt_notingVisitor (visit : Option Nat) :
    StopsAt (notingVisitor (α := α) (visit.map Nat.cast)) [] visit := by
  intro seen item
  rw [shown_notingVisitor, List.append_nil, notingVisitor, List.length_cons, List.length_reverse]
  cases visit with
  | none => simp
  | some visit =>
    simp only [Option.map_some, Option.some_inj, Int.natCast_inj]
    split <;> simp [*]

variable (traversal : Traversal α)

theorem observe_eq {stopAt : Option Int} {seen : List α} {outcome : Except Fault Decision}
    (visited : traversal.visit (notingVisitor stopAt) [] =
      (shown (notingVisitor stopAt) [] seen, outcome)) :
    traversal.observe stopAt = (seen, outcome) := by
  rw [shown_notingVisitor, List.append_nil] at visited
  simp only [observe, visited, List.reverse_reverse]

theorem observe_of_never {stopAt : Option Int}
    (never : StopsAt (notingVisitor (α := α) stopAt) [] none) :
    traversal.observe stopAt = (traversal.items, traversal.ending) :=
  traversal.observe_eq (visit_of_never never traversal [])

theorem observe_none : traversal.observe none = (traversal.items, traversal.ending) :=
  traversal.observe_of_never (stopsAt_notingVisitor none)

/-- Nothing keeps a visitor from seeing all items of a list. -/
theorem observe_ofList (items : List α) : (ofList items).observe none = (items, .ok .goOn) := by
  rw [observe_none]
  induction items with
  | nil => rfl
  | cons item items ih =>
    obtain ⟨shown, ends⟩ := Prod.mk.inj ih
    rw [ofList, Traversal.items, ending, shown, ends]

theorem observe_some (before : Nat) :
    traversal.observe (some (before + 1 : Nat)) = (traversal.items.take (before + 1),
      if before < traversal.items.length then .ok .stop else traversal.ending) := by
  refine traversal.observe_eq (visit_of_stopsAt traversal [] ?_)
  rw [List.length_nil, Nat.zero_add]
  exact stopsAt_notingVisitor (some (before + 1))

end Noting

/-- What a visitor is shown that stops at some visit, and how the traversal ends then, in terms of
what is shown to one that never stops. -/
structure Lazy (traversal : Traversal α) : Prop where
  /-- A traversal that nobody stops is finished or fails. -/
  ends : (traversal.observe none).2 ≠ .ok .stop
  /-- The first items are shown, until the visitor stops or there are no more. -/
  sees : ∀ visit : Nat, 1 ≤ visit →
    (traversal.observe (some visit)).1 = (traversal.observe none).1.take visit
  /-- The visitor stops if there are enough items, whatever would have come later. -/
  stops_iff : ∀ visit : Nat, 1 ≤ visit →
    ((traversal.observe (some visit)).2 = .ok .stop ↔ visit ≤ (traversal.observe none).1.length)
  goesOn : ∀ visit : Nat, (traversal.observe none).1.length < visit →
    (traversal.observe (some visit)).2 = (traversal.observe none).2
  /-- Any other visitor that stops at the same visit or never is shown the same. -/
  alike : ∀ (σ : Type) (visitor : σ → α → σ × Decision) (start : σ) (visit : Option Nat),
    StopsAt visitor start visit →
      traversal.visit visitor start =
        (shown visitor start (traversal.observe (visit.map Nat.cast)).1,
          (traversal.observe (visit.map Nat.cast)).2)

theorem isLazy (traversal : Traversal α) : traversal.Lazy where
  ends := by
    rw [observe_none]
    exact traversal.ending_ne_stop
  sees visit counted := by
    obtain ⟨before, rfl⟩ := Nat.exists_eq_add_of_le' counted
    rw [observe_none, observe_some]
  stops_iff visit counted := by
    obtain ⟨before, rfl⟩ := Nat.exists_eq_add_of_le' counted
    rw [observe_none, observe_some]
    simp only
    split
    · simp only [true_iff]
      omega
    next few => exact iff_of_false traversal.ending_ne_stop few
  goesOn visit few := by
    rw [observe_none] at few ⊢
    obtain ⟨more, rfl⟩ := Nat.exists_eq_add_of_lt few
    rw [observe_some]
    exact if_neg (by simp only; omega)
  alike σ visitor start visit stops := by
    match visit with
    | none =>
      rw [Option.map_none, observe_none]
      exact visit_of_never stops traversal []
    | some 0 =>
      rw [observe_of_never _ (stopsAt_notingVisitor (some 0)).never]
      exact visit_of_never stops.never traversal []
    | some (before + 1) =>
      rw [Option.map_some, observe_some]
      refine visit_of_stopsAt traversal [] ?_
      rwa [List.length_nil, Nat.zero_add]

end Traversal

namespace Net

open Traversal

section Faces

theorem items_pairFaces (faces : List Face) (net : Net) :
    (pairFaces faces net).items = faces.zip net := by
  induction faces generalizing net with
  | nil => rfl
  | cons face faces ih =>
    cases net with
    | nil => rfl
    | cons grid net => exact congrArg _ (ih net)

theorem ending_pairFaces (faces : List Face) (net : Net) :
    (pairFaces faces net).ending =
      if net.length < faces.length then .error .endsEarly else .ok .goOn := by
  induction faces generalizing net with
  | nil => rfl
  | cons face faces ih =>
    cases net with
    | nil => rfl
    | cons grid net =>
      rw [List.length_cons, List.length_cons, pairFaces, ending, ih]
      simp only [Nat.add_lt_add_iff_right]

end Faces

section Cells

variable {size : Nat}

/-- The cell at a position of a grid. -/
def Cell.ofPosition (size position : Nat) (value : Value) : Cell :=
  ⟨position / size, position % size, value⟩

/-- The cells from a position on, by this position. -/
def cellsBehind (size : Nat) (grid : List Value) (position : Nat) : Traversal Cell :=
  cellsFrom size grid (position / size) (position % size)

theorem cellsBehind_of_le {position : Nat} (large : 0 < size) (behind : size * size ≤ position)
    (grid : List Value) : cellsBehind size grid position = .finished := by
  have rows : size ≤ position / size := (Nat.le_div_iff_mul_le large).mpr behind
  cases grid <;> exact if_pos rows

theorem cellsBehind_nil {position : Nat} (large : 0 < size) (inside : position < size * size) :
    cellsBehind size [] position = .failed .endsEarly :=
  if_neg (Nat.not_le.mpr ((Nat.div_lt_iff_lt_mul large).mpr inside))

/-- After the last column comes the first of the next row. -/
theorem cellsBehind_cons {position : Nat} (large : 0 < size) (inside : position < size * size)
    (value : Value) (grid : List Value) :
    cellsBehind size (value :: grid) position =
      .next (Cell.ofPosition size position value) (cellsBehind size grid (position + 1)) := by
  have rows := (Nat.div_lt_iff_lt_mul large).mpr inside
  have whole := Nat.div_add_mod position size
  rw [cellsBehind, cellsFrom, if_neg (Nat.not_le.mpr rows), cellsBehind]
  split
  next within =>
    obtain ⟨row, col⟩ := (Nat.div_mod_unique large).mpr
      ⟨show position % size + 1 + size * (position / size) = position + 1 by omega, within⟩
    rw [row, col]
    rfl
  next ends =>
    have last := Nat.mod_lt position large
    obtain ⟨row, col⟩ := (Nat.div_mod_unique large).mpr
      ⟨show 0 + size * (position / size + 1) = position + 1 by rw [Nat.mul_succ]; omega, large⟩
    rw [row, col]
    rfl

theorem items_cellsBehind (large : 0 < size) (grid : List Value) (position : Nat) :
    (cellsBehind size grid position).items =
      (grid.take (size * size - position)).mapIdx fun i => Cell.ofPosition size (position + i) := by
  induction grid generalizing position with
  | nil =>
    by_cases inside : position < size * size
    · rw [cellsBehind_nil large inside, List.take_nil]
      rfl
    · rw [cellsBehind_of_le large (Nat.not_lt.mp inside), List.take_nil]
      rfl
  | cons value grid ih =>
    by_cases inside : position < size * size
    · have left : size * size - position = size * size - (position + 1) + 1 := by omega
      rw [cellsBehind_cons large inside, items, ih, left, List.take_succ_cons, List.mapIdx_cons]
      simp only [Nat.add_zero, Nat.add_assoc, Nat.add_comm 1]
    · rw [cellsBehind_of_le large (Nat.not_lt.mp inside),
        Nat.sub_eq_zero_of_le (Nat.not_lt.mp inside), List.take_zero]
      rfl

theorem ending_cellsBehind (large : 0 < size) (grid : List Value) (position : Nat) :
    (cellsBehind size grid position).ending =
      if position + grid.length < size * size then .error .endsEarly else .ok .goOn := by
  induction grid generalizing position with
  | nil =>
    by_cases inside : position < size * size
    · rw [cellsBehind_nil large inside]
      exact (if_pos inside).symm
    · rw [cellsBehind_of_le large (Nat.not_lt.mp inside)]
      exact (if_neg inside).symm
  | cons value grid ih =>
    by_cases inside : position < size * size
    · rw [cellsBehind_cons large inside, ending, ih, List.length_cons, Nat.add_assoc,
        Nat.add_comm 1]
    · rw [cellsBehind_of_le large (Nat.not_lt.mp inside)]
      exact (if_neg (by omega)).symm

end Cells

section Unstopped

theorem observe_faces (net : Net) :
    net.faces.observe none =
      (Face.all.zip net, if net.length < 6 then .error .endsEarly else .ok .goOn) := by
  rw [observe_none, faces, items_pairFaces, ending_pairFaces]
  rfl

/-- The cells of a grid are handed out as far as there are any, and as far as the size goes. -/
theorem observe_cells (grid : List Value) (size : Int) :
    (cells grid size).observe none =
      ((grid.take (size.toNat * size.toNat)).mapIdx (Cell.ofPosition size.toNat),
        if 0 < size ∧ grid.length < size * size then .error .endsEarly else .ok .goOn) := by
  rw [observe_none, cells]
  by_cases large : 0 < size
  · obtain ⟨n, rfl⟩ := Int.eq_ofNat_of_zero_le (Int.le_of_lt large)
    have large' : 0 < n := by omega
    have start : cellsFrom n grid 0 0 = cellsBehind n grid 0 := by
      rw [cellsBehind, Nat.zero_div, Nat.zero_mod]
    have enough : 0 < (n : Int) ∧ (grid.length : Int) < n * n ↔ 0 + grid.length < n * n := by
      rw [Nat.zero_add]
      exact_mod_cast and_iff_right large'
    rw [Int.toNat_natCast, start, items_cellsBehind large', ending_cellsBehind large', Nat.sub_zero]
    simp only [enough, Nat.zero_add]
  · have none : size.toNat = 0 := by omega
    have finished : cellsFrom 0 grid 0 0 = .finished := by cases grid <;> rfl
    rw [none, finished, if_neg (large ·.1), Nat.mul_zero, List.take_zero]
    rfl

/-- The blocks of a net are those of the cube that is read, and of a net that cannot be read nothing
is shown. -/
theorem observe_blocks (net : Net) :
    net.blocks.observe none =
      match net.read none with
      | .error fault => ([], .error fault)
      | .ok ⟨n, cube⟩ => (cube.blocks.map fun block => ⟨n, block⟩, .ok .goOn) := by
  rw [blocks]
  cases net.read none with
  | error fault => rfl
  | ok sized => exact observe_ofList _

end Unstopped

/-- Faces, cells and blocks are handed out one by one, from any net and any grid. A visitor that
stops at some visit is shown the first items of those that are shown to one that never stops, and a
fault that comes later is not met; if there are fewer items, the traversal ends as it does for the
other. A net that has too few grids, or a grid that has too few cells for a size, is shown as far as
it goes, and then the traversal fails; a grid of no size has no cells. Blocks are shown of a cube
only: where the net cannot be read, the traversal fails before the first visit. -/
theorem traversals_stop_and_fail_lazily (net : Net) (grid : List Value) (size : Int) :
    let n := size.toNat
    net.faces.Lazy ∧ (cells grid size).Lazy ∧ net.blocks.Lazy ∧
      (cells grid size).observe none =
        ((grid.take (n * n)).mapIdx fun position value => ⟨position / n, position % n, value⟩,
          if 0 < size ∧ grid.length < size * size then .error .endsEarly else .ok .goOn) ∧
      net.faces.observe none =
        (Face.all.zip net, if net.length < 6 then .error .endsEarly else .ok .goOn) ∧
      (net.blocks.observe none =
        match net.read none with
        | .error fault => ([], .error fault)
        | .ok ⟨n, cube⟩ => (cube.blocks.map fun block => ⟨n, block⟩, .ok .goOn)) ∧
      Fault.endsEarly.kind = .indexError :=
  ⟨net.faces.isLazy, (cells grid size).isLazy, net.blocks.isLazy, observe_cells grid size,
    net.observe_faces, net.observe_blocks, rfl⟩

/-- The second row of the grid has one cell only. -/
theorem traversals_stop_and_fail_lazily_in_second_row :
    let cells := cells [.int 5, .none, .bool true] 2
    let seen : List Cell := [⟨0, 0, .int 5⟩, ⟨0, 1, .none⟩, ⟨1, 0, .bool true⟩]
    cells.observe none = (seen, .error .endsEarly) ∧
      (cells.observe (some 2)).1 = seen.take 2 ∧
      (cells.observe (some 3)).2 = .ok .stop ∧
      (cells.observe (some 4)).2 = .error .endsEarly := by
  intro cells seen
  obtain ⟨-, lazy, -, full, -⟩ :=
    traversals_stop_and_fail_lazily [] [.int 5, .none, .bool true] 2
  have unstopped : cells.observe none = (seen, .error .endsEarly) := full
  have length : (cells.observe none).1.length = 3 := congrArg (·.1.length) unstopped
  refine ⟨unstopped, ?_, (lazy.stops_iff 3 (by decide)).mpr (Nat.le_of_eq length.symm), ?_⟩
  · exact (lazy.sees 2 (by decide)).trans (congrArg (·.1.take 2) unstopped)
  · have few : (cells.observe none).1.length < 4 := by rw [length]; decide
    exact (lazy.goesOn 4 few).trans (congrArg (·.2) unstopped)

end Net

end Cubing
