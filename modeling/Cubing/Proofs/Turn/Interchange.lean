import Mathlib.Data.List.Perm.Basic
import Cubing.Proofs.Turn.InPlace

/-!
# Cycles that do not meet

A cycle of cells reads and writes the cells of its four segments and no others, on any net
whatever, and it fails for one reason only: one of the cells is not there. So two cycles that
have no cell in common can be made in either order (`Net.cycle_interchange`), with the same
result or with the same failure, and any number of such cycles in any order (`foldlM_perm`).
-/
namespace Cubing

section Steps

variable {ε σ ι : Type}

/-- Can two steps be made in either order? -/
def Interchange (first second : σ → Except ε σ) : Prop :=
  ∀ state, (first state >>= second) = (second state >>= first)

theorem Interchange.symm {first second : σ → Except ε σ} (either : Interchange first second) :
    Interchange second first :=
  fun state => (either state).symm

theorem interchange_ok (step : σ → Except ε σ) : Interchange step .ok :=
  fun state => bind_pure (step state)

/-- A step that can be made before or after each of a list of steps can be made before or after
all of them. -/
theorem Interchange.foldlM {other : σ → Except ε σ} {step : σ → ι → Except ε σ} {steps : List ι}
    (each : ∀ i ∈ steps, Interchange other fun state => step state i) :
    Interchange other fun state => steps.foldlM step state := by
  induction steps with
  | nil => exact interchange_ok other
  | cons i steps ih =>
    have first : Interchange other fun state => step state i := each i List.mem_cons_self
    have rest : Interchange other fun state => steps.foldlM step state :=
      ih fun j member => each j (List.mem_cons_of_mem i member)
    intro state
    simp only [List.foldlM_cons]
    -- The other step is taken past the first of the list, and then past the rest.
    rw [← bind_assoc, first, bind_assoc, bind_assoc]
    exact bind_congr rest

/-- Steps that can be interchanged two by two can be made in any order. -/
theorem foldlM_perm {step : σ → ι → Except ε σ} {steps steps' : List ι} (perm : steps.Perm steps')
    (each : ∀ i ∈ steps, ∀ j ∈ steps,
      Interchange (fun state => step state i) fun state => step state j) (state : σ) :
    steps.foldlM step state = steps'.foldlM step state := by
  -- A permutation is made of exchanges of neighbours.
  induction perm generalizing state with
  | nil => rfl
  | cons i perm ih =>
    simp only [List.foldlM_cons]
    exact bind_congr fun next => ih (fun j inSteps k inSteps' =>
      each j (List.mem_cons_of_mem i inSteps) k (List.mem_cons_of_mem i inSteps')) next
  | swap i j steps =>
    have swapped := each j (by simp) i (by simp) state
    simp only [List.foldlM_cons]
    rw [← bind_assoc, swapped, bind_assoc]
  | trans perm _ ih ih' =>
    rw [ih each]
    exact ih' (fun i inSteps j inSteps' =>
      each i (perm.mem_iff.mpr inSteps) j (perm.mem_iff.mpr inSteps')) state

end Steps

section Missing

variable {α β γ : Type}

/-- Does an outcome fail for no other reason than that a cell is not there? -/
def FailsOnMissing (outcome : Except Fault α) : Prop :=
  ∀ fault, outcome = .error fault → fault = .endsEarly

theorem failsOnMissing_ok (a : α) : FailsOnMissing (.ok a) := nofun

theorem FailsOnMissing.bind {outcome : Except Fault α} {f : α → Except Fault β}
    (first : FailsOnMissing outcome) (later : ∀ a, FailsOnMissing (f a)) :
    FailsOnMissing (outcome >>= f) :=
  error_of_bind first fun a _ => later a

theorem FailsOnMissing.mapM {f : α → Except Fault β} (each : ∀ a, FailsOnMissing (f a))
    (items : List α) : FailsOnMissing (items.mapM f) := by
  induction items with
  | nil => exact failsOnMissing_ok []
  | cons a items ih =>
    rw [List.mapM_cons]
    exact (each a).bind fun b => ih.bind fun rest => failsOnMissing_ok (b :: rest)

theorem FailsOnMissing.foldlM {step : β → α → Except Fault β}
    (each : ∀ b a, FailsOnMissing (step b a)) (steps : List α) (b : β) :
    FailsOnMissing (steps.foldlM step b) := by
  induction steps generalizing b with
  | nil => exact failsOnMissing_ok b
  | cons a steps ih =>
    rw [List.foldlM_cons]
    exact (each b a).bind ih

theorem mapM_congr {f g : α → Except Fault β} {items : List α} (same : ∀ a ∈ items, f a = g a) :
    items.mapM f = items.mapM g := by
  induction items with
  | nil => rfl
  | cons a items ih =>
    rw [List.mapM_cons, List.mapM_cons, same a List.mem_cons_self,
      ih fun b member => same b (List.mem_cons_of_mem a member)]

/-- Outcomes that can fail for one reason only are equal if they succeed alike. -/
theorem FailsOnMissing.ext {first second : Except Fault α} (lacks : FailsOnMissing first)
    (lacks' : FailsOnMissing second) (alike : ∀ a, first = .ok a ↔ second = .ok a) :
    first = second := by
  cases first with
  | ok a => exact ((alike a).mp rfl).symm
  | error fault =>
    cases second with
    | ok a => exact (alike a).mpr rfl
    | error fault' => rw [lacks fault rfl, lacks' fault' rfl]

/-- Nor does it show which of two such outcomes is asked for first. -/
theorem FailsOnMissing.bind_comm {first : Except Fault α} {second : Except Fault β}
    (lacks : FailsOnMissing first) (lacks' : FailsOnMissing second)
    (f : α → β → Except Fault γ) :
    (first >>= fun a => second >>= fun b => f a b) =
      (second >>= fun b => first >>= fun a => f a b) := by
  cases first with
  | ok a => rfl
  | error fault =>
    cases second with
    | ok b => rfl
    | error fault' =>
      rw [lacks fault rfl, lacks' fault' rfl]
      rfl

end Missing

namespace Net

section Cells

theorem locate?_eq_some_iff {net : Net} {address : Address} {grid : List Value} {position : Nat} :
    net.locate? address = some (grid, position) ↔
      net[address.grid]? = some grid ∧ address.position = position ∧ position < grid.length := by
  have number : address.position.toNat? = some position ↔ address.position = position := by
    cases address.position <;> simp [Int.toNat?]
  rw [← number]
  simp only [locate?, Option.bind_eq_bind, Option.bind_eq_some_iff]
  constructor
  · rintro ⟨grid', here, position', stands, found⟩
    split at found <;> simp_all
  · rintro ⟨here, stands, inside⟩
    exact ⟨grid, here, position, stands, if_pos inside⟩

theorem fetch_eq_ok_iff {net : Net} {address : Address} {cell : Value} :
    net.fetch address = .ok cell ↔ ∃ grid position, net[address.grid]? = some grid ∧
      address.position = (position : Nat) ∧ grid[position]? = some cell := by
  have found : net.fetch address = .ok cell ↔
      ((net.locate? address).bind fun located => located.1[located.2]?) = some cell := by
    unfold fetch
    cases net.locate? address with
    | none => simp
    | some located =>
      simp only [Option.bind_some]
      cases located.1[located.2]? <;> simp
  rw [found, Option.bind_eq_some_iff]
  constructor
  · rintro ⟨⟨grid, position⟩, located, here⟩
    obtain ⟨present, stands, -⟩ := locate?_eq_some_iff.mp located
    exact ⟨grid, position, present, stands, here⟩
  · rintro ⟨grid, position, present, stands, here⟩
    obtain ⟨inside, -⟩ := List.getElem?_eq_some_iff.mp here
    exact ⟨(grid, position), locate?_eq_some_iff.mpr ⟨present, stands, inside⟩, here⟩

theorem store_eq_ok_iff {net stored : Net} {address : Address} {cell : Value} :
    net.store address cell = .ok stored ↔ ∃ grid position, net[address.grid]? = some grid ∧
      address.position = (position : Nat) ∧ position < grid.length ∧
      net.set address.grid (grid.set position cell) = stored := by
  rw [store]
  split
  next grid position located =>
    obtain ⟨present, stands, inside⟩ := locate?_eq_some_iff.mp located
    rw [Except.ok.injEq]
    constructor
    · intro same
      exact ⟨grid, position, present, stands, inside, same⟩
    · rintro ⟨grid', position', present', stands', -, same⟩
      have grids : grid = grid' := Option.some.inj (present.symm.trans present')
      have positions : position = position' := Int.ofNat.inj (stands.symm.trans stands')
      rw [grids, positions, same]
  next missing =>
    simp only [reduceCtorEq, false_iff]
    rintro ⟨grid, position, present, stands, inside, -⟩
    rw [locate?_eq_some_iff.mpr ⟨present, stands, inside⟩] at missing
    cases missing

theorem failsOnMissing_fetch (net : Net) (address : Address) :
    FailsOnMissing (net.fetch address) := by
  rw [fetch]
  split
  · exact failsOnMissing_ok _
  · rintro _ ⟨⟩
    rfl

theorem failsOnMissing_store (net : Net) (address : Address) (cell : Value) :
    FailsOnMissing (net.store address cell) := by
  rw [store]
  split
  · exact failsOnMissing_ok _
  · rintro _ ⟨⟩
    rfl

variable {address other : Address} (apart : address ≠ other)
include apart

theorem position_ne (same : address.grid = other.grid) {position position' : Nat}
    (stands : address.position = position) (stands' : other.position = position') :
    position ≠ position' := by
  rintro rfl
  cases address
  cases other
  simp_all

/-- What is stored in one cell is not fetched from another. -/
theorem fetch_of_store {net stored : Net} {cell : Value}
    (stores : net.store address cell = .ok stored) : stored.fetch other = net.fetch other := by
  obtain ⟨grid, position, present, stands, inside, rfl⟩ := store_eq_ok_iff.mp stores
  apply (failsOnMissing_fetch _ other).ext (failsOnMissing_fetch net other)
  intro shown
  simp only [fetch_eq_ok_iff]
  -- The two cells stand at two positions of one grid, or in two grids.
  by_cases same : address.grid = other.grid
  · rw [same] at present
    have reached : other.grid < net.length := (List.getElem?_eq_some_iff.mp present).1
    have kept : (net.set address.grid (grid.set position cell))[other.grid]? =
        some (grid.set position cell) := by
      rw [same, List.getElem?_set_self reached]
    have beside (position' : Nat) (stands' : other.position = position') :
        (grid.set position cell)[position']? = grid[position']? :=
      List.getElem?_set_ne (position_ne apart same stands stands')
    simp only [kept, present, Option.some.injEq, exists_and_left, exists_eq_left']
    constructor
    · rintro ⟨position', stands', here⟩
      exact ⟨position', stands', beside position' stands' ▸ here⟩
    · rintro ⟨position', stands', here⟩
      exact ⟨position', stands', (beside position' stands').trans here⟩
  · simp [List.getElem?_set_ne same]

/-- What is stored in two cells may as well be stored in the other order. -/
theorem store_store {net stored : Net} {cell shown : Value}
    (stores : (net.store address cell >>= fun net => net.store other shown) = .ok stored) :
    (net.store other shown >>= fun net => net.store address cell) = .ok stored := by
  obtain ⟨between, first, second⟩ := bind_eq_ok.mp stores
  obtain ⟨grid, position, present, stands, inside, rfl⟩ := store_eq_ok_iff.mp first
  obtain ⟨grid', position', present', stands', inside', rfl⟩ := store_eq_ok_iff.mp second
  have reached : address.grid < net.length := (List.getElem?_eq_some_iff.mp present).1
  simp only [bind_eq_ok, store_eq_ok_iff]
  -- The second grid is the one that has just been written to, or it is as it was.
  by_cases same : address.grid = other.grid
  · rw [same, List.getElem?_set_self (same ▸ reached), Option.some.injEq] at present'
    subst present'
    have positions := position_ne apart same stands stands'
    rw [same] at present reached
    rw [List.length_set] at inside'
    refine ⟨_, ⟨grid, position', present, stands', inside', rfl⟩, grid.set position' shown,
      position, ?_, stands, by rwa [List.length_set], ?_⟩
    · rw [same, List.getElem?_set_self reached]
    · rw [same, List.set_set, List.set_set, List.set_comm _ _ positions]
  · rw [List.getElem?_set_ne same] at present'
    refine ⟨_, ⟨grid', position', present', stands', inside', rfl⟩, grid, position, ?_, stands,
      inside, ?_⟩
    · rw [List.getElem?_set_ne (Ne.symm same), present]
    · rw [List.set_comm _ _ same]

/-- Cells are stored in either order, and if one of them is missing, in neither. -/
theorem interchange_store (cell shown : Value) :
    Interchange (fun net : Net => net.store address cell) fun net => net.store other shown := by
  intro net
  apply FailsOnMissing.ext
  · exact (failsOnMissing_store net _ _).bind fun _ => failsOnMissing_store _ _ _
  · exact (failsOnMissing_store net _ _).bind fun _ => failsOnMissing_store _ _ _
  · exact fun stored => ⟨store_store apart, store_store apart.symm⟩

end Cells

section Cycles

/-- The cells on each of four segments. -/
def fetchSides (net : Net) (segments : Fin 4 → List Address) : Except Fault (List (List Value)) :=
  (List.finRange 4).mapM fun side => (segments side).mapM net.fetch

/-- Where cells that stand on four segments are to be stored when the segments are advanced. -/
def movesAlong (segments : Fin 4 → List Address) (turns : QuarterTurns)
    (cells : List (List Value)) : List (Address × Value) :=
  ((List.finRange 4).zip cells).flatMap fun (side, cells) =>
    (segments (side + turns)).zip cells

theorem cycle_zero (net : Net) (segments : Fin 4 → List Address) :
    net.cycle segments 0 = .ok net :=
  if_pos rfl

theorem cycle_of_ne_zero (net : Net) (segments : Fin 4 → List Address) {turns : QuarterTurns}
    (moves : turns ≠ 0) :
    net.cycle segments turns =
      (net.fetchSides segments >>= fun cells => net.storeAll (movesAlong segments turns cells)) :=
  if_neg moves

theorem failsOnMissing_fetchSides (net : Net) (segments : Fin 4 → List Address) :
    FailsOnMissing (net.fetchSides segments) :=
  .mapM (fun side => .mapM net.failsOnMissing_fetch (segments side)) _

theorem failsOnMissing_storeAll (net : Net) (moves : List (Address × Value)) :
    FailsOnMissing (net.storeAll moves) :=
  .foldlM (fun net move => net.failsOnMissing_store move.1 move.2) moves net

/-- Have four segments no cell in common with four others? -/
def Apart (segments segments' : Fin 4 → List Address) : Prop :=
  ∀ side side', (segments side).Disjoint (segments' side')

theorem Apart.symm {segments segments' : Fin 4 → List Address} (apart : Apart segments segments') :
    Apart segments' segments :=
  fun side side' => List.disjoint_comm.mp (apart side' side)

theorem exists_of_mem_movesAlong {segments : Fin 4 → List Address} {turns : QuarterTurns}
    {cells : List (List Value)} {move : Address × Value}
    (member : move ∈ movesAlong segments turns cells) : ∃ side, move.1 ∈ segments side := by
  simp only [movesAlong, List.mem_flatMap] at member
  obtain ⟨⟨side, cells⟩, -, member⟩ := member
  exact ⟨side + turns, (List.of_mem_zip member).1⟩

/-- A cell in which nothing is stored is fetched as before. -/
theorem fetch_of_storeAll {moves : List (Address × Value)} {other : Address}
    (off : ∀ move ∈ moves, move.1 ≠ other) {net stored : Net}
    (stores : net.storeAll moves = .ok stored) : stored.fetch other = net.fetch other := by
  induction moves generalizing net with
  | nil =>
    cases stores
    rfl
  | cons move moves ih =>
    obtain ⟨between, first, rest⟩ := bind_eq_ok.mp (List.foldlM_cons.symm.trans stores)
    calc stored.fetch other = between.fetch other :=
          ih (fun move member => off move (List.mem_cons_of_mem _ member)) rest
      _ = net.fetch other := fetch_of_store (off move List.mem_cons_self) first

variable {segments segments' : Fin 4 → List Address} (apart : Apart segments segments')
include apart

theorem movesAlong_ne {turns turns' : QuarterTurns} {cells cells' : List (List Value)}
    {move move' : Address × Value} (member : move ∈ movesAlong segments turns cells)
    (member' : move' ∈ movesAlong segments' turns' cells') : move.1 ≠ move'.1 := by
  obtain ⟨side, on⟩ := exists_of_mem_movesAlong member
  obtain ⟨side', on'⟩ := exists_of_mem_movesAlong member'
  exact fun same => apart side side' on (same ▸ on')

theorem interchange_storeAll (turns turns' : QuarterTurns) (cells cells' : List (List Value)) :
    Interchange (fun net : Net => net.storeAll (movesAlong segments turns cells))
      fun net => net.storeAll (movesAlong segments' turns' cells') := by
  -- Every single move of the one kind is taken past every single move of the other.
  apply Interchange.foldlM
  intro move' member'
  apply Interchange.symm
  apply Interchange.foldlM
  intro move member
  exact interchange_store (movesAlong_ne apart member member').symm _ _

/-- The cells of other segments are fetched as before. -/
theorem fetchSides_of_storeAll {net stored : Net} {turns : QuarterTurns} {cells : List (List Value)}
    (stores : net.storeAll (movesAlong segments turns cells) = .ok stored) :
    stored.fetchSides segments' = net.fetchSides segments' := by
  apply mapM_congr
  intro side _
  apply mapM_congr
  intro address on
  refine fetch_of_storeAll (fun move member => ?_) stores
  obtain ⟨side', on'⟩ := exists_of_mem_movesAlong member
  rintro rfl
  exact apart side' side on' on

/-- Cells can be stored along some segments before or after others are fetched. -/
theorem storeAll_bind_fetchSides {α : Type} (net : Net) (turns : QuarterTurns)
    (cells : List (List Value)) (f : Net → List (List Value) → Except Fault α) :
    (net.storeAll (movesAlong segments turns cells) >>= fun stored =>
        stored.fetchSides segments' >>= fun cells' => f stored cells') =
      (net.fetchSides segments' >>= fun cells' =>
        net.storeAll (movesAlong segments turns cells) >>= fun stored => f stored cells') := by
  rw [← (net.failsOnMissing_storeAll _).bind_comm (net.failsOnMissing_fetchSides segments')]
  cases stores : net.storeAll (movesAlong segments turns cells) with
  | error fault => rfl
  | ok stored =>
    -- Where all was stored, the other cells are fetched as if nothing had been.
    have kept := fetchSides_of_storeAll apart stores
    exact congrArg (· >>= f stored) kept

/-- Two cycles in a row fetch all their cells first. -/
theorem cycle_bind_cycle (net : Net) {turns turns' : QuarterTurns} (moves : turns ≠ 0)
    (moves' : turns' ≠ 0) :
    (net.cycle segments turns >>= fun net => net.cycle segments' turns') =
      (net.fetchSides segments >>= fun cells => net.fetchSides segments' >>= fun cells' =>
        net.storeAll (movesAlong segments turns cells) >>= fun net =>
          net.storeAll (movesAlong segments' turns' cells')) := by
  simp only [cycle_of_ne_zero _ _ moves, cycle_of_ne_zero _ _ moves', bind_assoc]
  exact bind_congr fun cells => storeAll_bind_fetchSides apart net turns cells _

/-- Cycles that have no cell in common can be made in either order. -/
theorem cycle_interchange (turns turns' : QuarterTurns) :
    Interchange (fun net : Net => net.cycle segments turns)
      fun net => net.cycle segments' turns' := by
  by_cases still : turns = 0
  · simp only [still, cycle_zero]
    exact (interchange_ok _).symm
  by_cases still' : turns' = 0
  · simp only [still', cycle_zero]
    exact interchange_ok _
  intro net
  rw [cycle_bind_cycle apart net still still', cycle_bind_cycle apart.symm net still' still,
    (net.failsOnMissing_fetchSides segments).bind_comm (net.failsOnMissing_fetchSides segments')]
  -- What is fetched is the same in both orders, and so is what is stored.
  exact bind_congr fun cells' => bind_congr fun cells =>
    interchange_storeAll apart turns turns' cells cells' net

end Cycles

end Net

end Cubing
