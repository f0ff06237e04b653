import Cubing.Proofs.Turn.Moved

/-!
# Loops of cells as motions

Advancing a loop moves its cells and no others, whatever stands on them (`Loop.advanced`).
Loops that never meet can be advanced one after the other, each finding its own cells
untouched (`Loop.Woven.foldl_advanced`): that is how the rings of a face make up a turn
of the face upon itself (`Cube.spin_eq_moved`) and the strips of several layers a turn of
these layers (`Cube.carry_eq_moved`).
-/
namespace Cubing

variable {n : Nat} {ι : Type}

namespace Loop

/-- No cell of the loop occurs twice. -/
def Simple (loop : Loop n) : Prop :=
  Function.Injective fun slot : Fin 4 × Fin loop.length => loop.place slot.1 slot.2

def Visits (loop : Loop n) (place : Place n) : Prop :=
  ∃ segment position, loop.place segment position = place

theorem mem_slots (loop : Loop n) (slot : Fin 4 × Fin loop.length) : slot ∈ loop.slots := by
  simp only [slots, List.mem_flatMap, List.mem_map, List.mem_finRange, true_and]
  exact ⟨slot.1, slot.2, rfl⟩

/-- Loops that never meet and all turn with one motion. -/
structure Woven (loops : ι → Loop n) (motion : Equiv.Perm (Place n)) : Prop where
  simple : ∀ i, (loops i).Simple
  apart : ∀ {i j place}, (loops i).Visits place → (loops j).Visits place → i = j
  along : ∀ i segment position,
    (loops i).place (segment + 1) position = motion ((loops i).place segment position)

/-- Some segments further on is as many steps of the motion away. -/
theorem Woven.place_add {loops : ι → Loop n} {motion : Equiv.Perm (Place n)}
    (woven : Woven loops motion) (i : ι) (segment : Fin 4) (turns : QuarterTurns)
    (position : Fin (loops i).length) :
    (loops i).place (segment + turns) position =
      (motion ^ turns.val) ((loops i).place segment position) := by
  -- Segments are counted modulo four, so the induction is on a number of steps.
  have steps (count : Nat) : (loops i).place (segment + Fin.ofNat 4 count) position =
      (motion ^ count) ((loops i).place segment position) := by
    induction count with
    | zero => simp
    | succ count ih =>
      have next : segment + Fin.ofNat 4 (count + 1) = segment + Fin.ofNat 4 count + 1 := by
        apply Fin.ext
        simp only [Fin.val_add, Fin.val_ofNat, Fin.val_one]
        omega
      rw [next, woven.along, ih, pow_succ', Equiv.Perm.mul_apply]
  simpa using steps turns.val

end Loop

section Writing

variable {α : Type}

theorem foldl_update_off (slots : List ι) (target : ι → Place n) (written : ι → α)
    (value : Place n → α) (place : Place n) (off : ∀ slot ∈ slots, target slot ≠ place) :
    slots.foldl (fun value slot => Function.update value (target slot) (written slot)) value place =
      value place := by
  induction slots generalizing value with
  | nil => rfl
  | cons slot slots ih =>
    rw [List.foldl_cons, ih _ fun other member => off other (List.mem_cons_of_mem _ member),
      Function.update_of_ne (off slot List.mem_cons_self).symm]

theorem foldl_update (slots : List ι) (target : ι → Place n) (written : ι → α)
    (single : Function.Injective target) (value : Place n → α) (slot : ι) (member : slot ∈ slots) :
    slots.foldl (fun value slot => Function.update value (target slot) (written slot)) value
      (target slot) = written slot := by
  induction slots generalizing value with
  | nil => simp at member
  | cons first slots ih =>
    -- The last write decides, so it matters whether the slot comes again.
    by_cases later : slot ∈ slots
    · exact ih _ later
    · have same : slot = first := by simpa [later] using member
      subst same
      rw [List.foldl_cons, foldl_update_off, Function.update_self]
      intro other member equal
      exact later (single equal ▸ member)

end Writing

namespace Loop

variable {α : Type}

/-- Carries what stands on the cells of a loop around it, whatever it is. -/
def advanced (loop : Loop n) (turns : QuarterTurns) (value : Place n → α) : Place n → α :=
  loop.slots.foldl (fun moved slot =>
    Function.update moved (loop.place (slot.1 + turns) slot.2) (value (loop.place slot.1 slot.2)))
    value

theorem advanced_off {loop : Loop n} {place : Place n} (off : ¬ loop.Visits place)
    (turns : QuarterTurns) (value : Place n → α) :
    loop.advanced turns value place = value place := by
  apply foldl_update_off
  intro slot _ reached
  exact off ⟨_, _, reached⟩

/-- A cell of a loop goes to the same position of a later segment. -/
theorem Simple.advanced_place {loop : Loop n} (simple : loop.Simple) (turns : QuarterTurns)
    (value : Place n → α) (segment : Fin 4) (position : Fin loop.length) :
    loop.advanced turns value (loop.place (segment + turns) position) =
      value (loop.place segment position) := by
  apply foldl_update loop.slots
    (fun slot : Fin 4 × Fin loop.length => loop.place (slot.1 + turns) slot.2)
    (fun slot => value (loop.place slot.1 slot.2)) ?_ value (segment, position)
    (loop.mem_slots _)
  -- Two slots that are written to the same cell have come from the same cell.
  intro first second same
  have slots : (first.1 + turns, first.2) = (second.1 + turns, second.2) := simple same
  simp only [Prod.mk.injEq, Fin.ext_iff, Fin.val_add] at slots
  exact Prod.ext (Fin.ext (by omega)) (Fin.ext slots.2)

theorem advanced_zero (loop : Loop n) (value : Place n → α) : loop.advanced 0 value = value := by
  rw [advanced]
  generalize loop.slots = slots
  induction slots with
  | nil => rfl
  | cons slot slots ih => rwa [List.foldl_cons, Fin.add_zero, Function.update_eq_self]

theorem foldl_advanced_off {loops : ι → Loop n} {layers : List ι} {place : Place n}
    (off : ∀ i ∈ layers, ¬ (loops i).Visits place) (turns : QuarterTurns) (value : Place n → α) :
    layers.foldl (fun value i => (loops i).advanced turns value) value place = value place := by
  induction layers generalizing value with
  | nil => rfl
  | cons i layers ih =>
    rw [List.foldl_cons, ih fun j member => off j (List.mem_cons_of_mem _ member),
      advanced_off (off i List.mem_cons_self)]

/-- Each loop of a woven family is carried along, whichever loops are advanced before and after. -/
theorem Woven.foldl_advanced {loops : ι → Loop n} {motion : Equiv.Perm (Place n)}
    (woven : Woven loops motion) {layers : List ι} (nodup : layers.Nodup) (turns : QuarterTurns)
    (value : Place n → α) {i : ι} (member : i ∈ layers) {place : Place n}
    (visited : (loops i).Visits place) :
    layers.foldl (fun value i => (loops i).advanced turns value) value
      ((motion ^ turns.val) place) = value place := by
  obtain ⟨segment, position, rfl⟩ := visited
  -- The induction is on the loops that are still to be advanced.
  induction layers generalizing value with
  | nil => simp at member
  | cons j layers ih =>
    rw [List.nodup_cons] at nodup
    rw [List.foldl_cons]
    rcases List.mem_cons.mp member with rfl | later
    -- The cell goes on with its loop, and no later loop meets it where it has gone.
    · rw [foldl_advanced_off, ← woven.place_add, (woven.simple i).advanced_place]
      intro k other visits
      rw [← woven.place_add] at visits
      exact nodup.1 (woven.apart visits ⟨_, _, rfl⟩ ▸ other)
    -- The first loop is another one, and the cell is still there when its own loop comes.
    · rw [ih nodup.2 _ later, advanced_off]
      intro visits
      exact nodup.1 (woven.apart visits ⟨_, _, rfl⟩ ▸ later)

end Loop

namespace Cube

theorem get_set_eq (cube : Cube n) (place : Place n) (colour : Face) :
    (cube.set place colour).get = Function.update cube.get place colour := by
  funext other
  rw [get_set, Function.update_apply]
  simp only [eq_comm]

theorem get_foldl_set_eq (slots : List ι) (target : ι → Place n) (colour : ι → Face)
    (cube : Cube n) :
    (slots.foldl (fun moved slot => moved.set (target slot) (colour slot)) cube).get =
      slots.foldl (fun value slot => Function.update value (target slot) (colour slot)) cube.get :=
  (List.foldl_hom get fun cube _ => (cube.get_set_eq _ _).symm).symm

theorem get_foldl_set_off (slots : List ι) (target : ι → Place n) (colour : ι → Face)
    (cube : Cube n) (place : Place n) (off : ∀ slot ∈ slots, target slot ≠ place) :
    (slots.foldl (fun moved slot => moved.set (target slot) (colour slot)) cube).get place =
      cube.get place := by
  rw [get_foldl_set_eq, foldl_update_off _ _ _ _ _ off]

theorem get_foldl_set (slots : List ι) (target : ι → Place n) (colour : ι → Face)
    (single : Function.Injective target) (cube : Cube n) (slot : ι) (member : slot ∈ slots) :
    (slots.foldl (fun moved slot => moved.set (target slot) (colour slot)) cube).get
      (target slot) = colour slot := by
  rw [get_foldl_set_eq, foldl_update _ _ _ single _ _ member]

/-- A cube carries its colours around a loop as anything else is carried. -/
theorem get_advance_eq (cube : Cube n) (loop : Loop n) (turns : QuarterTurns) :
    (cube.advance loop turns).get = loop.advanced turns cube.get :=
  get_foldl_set_eq ..

theorem get_foldl_advance_eq (loops : ι → Loop n) (turns : QuarterTurns) (layers : List ι)
    (cube : Cube n) :
    (layers.foldl (fun turned i => turned.advance (loops i) turns) cube).get =
      layers.foldl (fun value i => (loops i).advanced turns value) cube.get :=
  (List.foldl_hom get fun cube _ => (cube.get_advance_eq _ _).symm).symm

end Cube

section Rings

theorem Loop.face_ring (face : Face) (layer : Fin (n / 2)) (side : Fin 4)
    (position : Fin (ring face layer).length) :
    ((ring face layer).place side position).face = face := by
  match side with
  | 0 | 1 | 2 | 3 => rfl

/-- Spins what stands on the cells of a face, ring by ring. -/
def Face.spun {α : Type} (face : Face) (turns : QuarterTurns) (value : Place n → α) : Place n → α :=
  (List.finRange (n / 2)).foldl (fun value layer => (Loop.ring face layer).advanced turns value)
    value

theorem Cube.get_spin (cube : Cube n) (face : Face) (turns : QuarterTurns) :
    (cube.spin face turns).get = face.spun turns cube.get :=
  get_foldl_advance_eq ..

end Rings

end Cubing
