import Mathlib.Data.Nat.Basic
import Mathlib.Order.Basic
import Cubing.Net.Basic

/-!
# The nets that are cubes

Reading a net succeeds for the nets of cubes, and for nothing else: the cube has
size two at least and shows every colour as often as a face has cells
(`read_eq_ok_iff`). A net that can be read is the net of the cube that is read,
so nothing is lost between nets and cubes.
-/
namespace Cubing

section Outcomes

variable {ε α β : Type}

theorem bind_eq_ok {outcome : Except ε α} {f : α → Except ε β} {result : β} :
    (outcome >>= f) = .ok result ↔ ∃ value, outcome = .ok value ∧ f value = .ok result := by
  cases outcome <;> simp [bind, Except.bind]

theorem map_eq_ok {outcome : Except ε α} {f : α → β} {result : β} :
    (f <$> outcome) = .ok result ↔ ∃ value, outcome = .ok value ∧ f value = result := by
  cases outcome <;> simp [Functor.map, Except.map]

theorem bind_eq_error {outcome : Except ε α} {f : α → Except ε β} {fault : ε} :
    (outcome >>= f) = .error fault ↔
      outcome = .error fault ∨ ∃ value, outcome = .ok value ∧ f value = .error fault := by
  cases outcome <;> simp [bind, Except.bind]

theorem map_eq_error {outcome : Except ε α} {f : α → β} {fault : ε} :
    (f <$> outcome) = .error fault ↔ outcome = .error fault := by
  cases outcome <;> simp [Functor.map, Except.map]

/-- What fails in two steps fails in one of them. -/
theorem error_of_bind {p : ε → Prop} {outcome : Except ε α} {f : α → Except ε β}
    (first : ∀ fault, outcome = .error fault → p fault)
    (later : ∀ value, outcome = .ok value → ∀ fault, f value = .error fault → p fault)
    (fault : ε) (failed : (outcome >>= f) = .error fault) : p fault := by
  rcases bind_eq_error.mp failed with failed | ⟨value, succeeded, failed⟩
  · exact first fault failed
  · exact later value succeeded fault failed

end Outcomes

section Causes

variable {reason : Fault → Prop} {given : List Value} {α β : Type}

/-- Does an outcome fail for no other reason than a given one? What is reported of the cause quotes
one of the given values, if it quotes any. -/
def FailsFor (reason : Fault → Prop) (given : List Value) (outcome : Except Fault α) : Prop :=
  ∀ fault, outcome = .error fault → ∃ cause : Fault, fault = cause.reported ∧ reason cause ∧
    ∀ value ∈ cause.quoted?, value ∈ given

theorem failsFor_ok (a : α) : FailsFor reason given (.ok a) := nofun

theorem failsFor_reported {cause : Fault} (holds : reason cause)
    (quotes : ∀ value ∈ cause.quoted?, value ∈ given) :
    FailsFor reason given (.error cause.reported : Except Fault α) := by
  rintro _ ⟨⟩
  exact ⟨cause, rfl, holds, quotes⟩

/-- A message that quotes nothing can always be written. -/
theorem failsFor_error {cause : Fault} (holds : reason cause) (unquoted : cause.quoted? = none) :
    FailsFor reason given (.error cause : Except Fault α) := by
  have same : cause.reported = cause := by
    rw [Fault.reported, unquoted]
    rfl
  rw [← same]
  exact failsFor_reported holds (by simp [unquoted])

theorem FailsFor.bind {outcome : Except Fault α} {f : α → Except Fault β}
    (first : FailsFor reason given outcome)
    (later : ∀ a, outcome = .ok a → FailsFor reason given (f a)) :
    FailsFor reason given (outcome >>= f) :=
  error_of_bind first later

end Causes

namespace Net

theorem squareRoot_spec (n : Nat) :
    squareRoot n * squareRoot n ≤ n ∧ n < (squareRoot n + 1) * (squareRoot n + 1) := by
  induction n with
  | zero => simp [squareRoot]
  | succ n ih =>
    simp only [squareRoot]
    split
    next fits =>
      refine ⟨fits, ?_⟩
      -- The square after the next one is too far away to be reached by one step.
      have wider : (squareRoot n + 1 + 1) * (squareRoot n + 1 + 1) =
          (squareRoot n + 1) * (squareRoot n + 1) + 2 * (squareRoot n + 1) + 1 := by
        simp only [Nat.add_mul, Nat.mul_add]
        omega
      omega
    next exceeds => exact ⟨by omega, by omega⟩

theorem squareRoot_square (n : Nat) : squareRoot (n * n) = n := by
  obtain ⟨below, above⟩ := squareRoot_spec (n * n)
  have least := Nat.mul_self_le_mul_self_iff.mp below
  have greatest := Nat.mul_self_lt_mul_self_iff.mp above
  omega

theorem size_cons_eq_ok_iff {first : List Value} {rest : Net} {n : Nat} :
    size (first :: rest) = .ok n ↔ first.length = n * n ∧ 2 ≤ n := by
  simp only [size]
  constructor
  · intro sized
    split at sized
    next square =>
      cases sized
      exact ⟨square.1.symm, square.2⟩
    · cases sized
  · rintro ⟨square, large⟩
    rw [square, squareRoot_square, if_pos ⟨rfl, large⟩]

theorem size_toNet {n : Nat} (cube : Cube n) (large : 2 ≤ n) : size cube.toNet = .ok n :=
  size_cons_eq_ok_iff.mpr ⟨by simp, large⟩

theorem readCell_eq_ok_iff {face colour : Face} {cell : Value} :
    readCell face cell = .ok colour ↔ cell = .int colour.number := by
  constructor
  · intro readable
    cases cell <;> simp only [readCell, reduceCtorEq] at readable
    case int number =>
      split at readable
      next found =>
        cases readable
        rw [Face.number_of_ofNumber? found]
      · cases readable
  · rintro rfl
    simp only [readCell, Face.ofNumber?_number]

/-- The cells of a list of colours. -/
def cellsOf (colours : List Face) : List Value := colours.map fun colour => .int colour.number

theorem readCells_cellsOf (face : Face) (colours : List Face) :
    ∃ same, readCells face (cellsOf colours) = .ok ⟨colours, same⟩ := by
  induction colours with
  | nil => exact ⟨rfl, rfl⟩
  | cons colour colours ih =>
    obtain ⟨same, readable⟩ := ih
    have first : readCell face (.int colour.number) = .ok colour := readCell_eq_ok_iff.mpr rfl
    refine ⟨by simp [cellsOf], ?_⟩
    change readCells face (.int colour.number :: cellsOf colours) = _
    simp only [readCells, first, readable]
    rfl

theorem eq_cellsOf_of_readCells {face : Face} {cells : List Value} {colours}
    (readable : readCells face cells = .ok colours) : cells = cellsOf colours.1 := by
  induction cells with
  | nil =>
    cases readable
    rfl
  | cons cell cells ih =>
    simp only [readCells] at readable
    split at readable
    · cases readable
    next colour first =>
      split at readable
      · cases readable
      next later same rest =>
        cases readable
        rw [readCell_eq_ok_iff.mp first]
        exact congrArg _ (ih rest)

theorem readGrid_eq_ok_iff {n : Nat} {face : Face} {cells : List Value} {grid : Grid n} :
    readGrid n face cells = .ok grid ↔ cells = cellsOf grid.toList := by
  simp only [readGrid]
  constructor
  · intro readable
    split at readable
    next fits =>
      split at readable
      · cases readable
      next colours same rest =>
        cases readable
        exact eq_cellsOf_of_readCells rest
    · cases readable
  · rintro rfl
    have fits : (cellsOf grid.toList).length = n * n := by simp [cellsOf]
    obtain ⟨same, readable⟩ := readCells_cellsOf face grid.toList
    rw [dif_pos fits]
    split
    next failed =>
      rw [readable] at failed
      cases failed
    next colours length rest =>
      rw [readable] at rest
      cases rest
      simp [Vector.toList]

theorem checkCounts_eq_ok_iff {n : Nat} {cube : Cube n} :
    checkCounts cube = .ok () ↔ cube.Balanced := by
  simp only [checkCounts]
  constructor
  · intro passed
    split at passed
    · cases passed
    next none =>
      intro colour
      have even := List.find?_eq_none.mp none colour colour.mem_all
      simpa using even
  · intro balanced
    have none : (Face.all.find? fun colour => cube.count colour ≠ n * n) = none := by
      rw [List.find?_eq_none]
      intro colour _
      simp [balanced colour]
    rw [none]

theorem checkSize_eq_ok_iff {n : Nat} {expected : Option Int} :
    checkSize n expected = .ok () ↔ ∀ size, expected = some size → (n : Int) = size := by
  cases expected with
  | none => simp [checkSize]
  | some size =>
    simp only [checkSize, Option.some.injEq, forall_eq']
    split <;> simp_all

/-- The nets that can be read are those of cubes of size two at least with evenly spread colours,
of the size asked for. -/
theorem read_eq_ok_iff {net : Net} {expected : Option Int} {n : Nat} {cube : Cube n} :
    net.read expected = .ok ⟨n, cube⟩ ↔
      net = cube.toNet ∧ 2 ≤ n ∧ cube.Balanced ∧
        ∀ size, expected = some size → (n : Int) = size := by
  constructor
  · intro readable
    unfold read at readable
    split at readable
    -- Each check that has been passed says something about the net or the cube.
    next left front right back top bottom =>
      simp only [bind_eq_ok] at readable
      obtain ⟨m, sized, ⟨⟩, asked, left, readLeft, front, readFront, right, readRight, back,
        readBack, top, readTop, bottom, readBottom, ⟨⟩, balanced, whole⟩ := readable
      cases whole
      rw [readGrid_eq_ok_iff] at readLeft readFront readRight readBack readTop readBottom
      refine ⟨?_, (size_cons_eq_ok_iff.mp sized).2, checkCounts_eq_ok_iff.mp balanced,
        checkSize_eq_ok_iff.mp asked⟩
      rw [readLeft, readFront, readRight, readBack, readTop, readBottom]
      rfl
    · cases readable
  -- The net of such a cube passes all checks in turn.
  · rintro ⟨rfl, large, balanced, asked⟩
    have sized := size_toNet cube large
    simp only [read, Cube.toNet, Face.all, List.map_cons, List.map_nil] at sized ⊢
    simp only [bind_eq_ok]
    exact ⟨n, sized, (), checkSize_eq_ok_iff.mpr asked, _, readGrid_eq_ok_iff.mpr rfl, _,
      readGrid_eq_ok_iff.mpr rfl, _, readGrid_eq_ok_iff.mpr rfl, _, readGrid_eq_ok_iff.mpr rfl, _,
      readGrid_eq_ok_iff.mpr rfl, _, readGrid_eq_ok_iff.mpr rfl, (),
      checkCounts_eq_ok_iff.mpr balanced, rfl⟩

theorem read_toNet {n : Nat} {cube : Cube n} (large : 2 ≤ n) (balanced : cube.Balanced) :
    cube.toNet.read none = .ok ⟨n, cube⟩ :=
  read_eq_ok_iff.mpr ⟨rfl, large, balanced, by simp⟩

theorem validate_eq_ok_iff {net : Net} {expected : Option Int} {n : Nat} :
    net.validate expected = .ok n ↔
      ∃ cube : Cube n, net = cube.toNet ∧ 2 ≤ n ∧ cube.Balanced ∧
        ∀ size, expected = some size → (n : Int) = size := by
  simp only [validate, map_eq_ok]
  constructor
  · rintro ⟨⟨_, cube⟩, readable, rfl⟩
    exact ⟨cube, read_eq_ok_iff.mp readable⟩
  · rintro ⟨cube, passes⟩
    exact ⟨⟨n, cube⟩, read_eq_ok_iff.mpr passes, rfl⟩

theorem validate_toNet {n : Nat} {cube : Cube n} (large : 2 ≤ n) (balanced : cube.Balanced) :
    cube.toNet.validate none = .ok n :=
  validate_eq_ok_iff.mpr ⟨cube, rfl, large, balanced, by simp⟩

end Net

namespace Cube

variable {n : Nat}

theorem balanced_solved : (solved n).Balanced := by
  intro colour
  cases colour <;>
    simp [count, cells, Face.all, solved, ofGrids, grid, List.count_replicate]

theorem read_solved (large : 2 ≤ n) : (solved n).toNet.read none = .ok ⟨n, solved n⟩ :=
  Net.read_toNet large balanced_solved

/-- Different cubes have different nets. -/
theorem toNet_injective : Function.Injective (toNet : Cube n → Net) := by
  intro first second same
  apply grid_ext
  intro face
  have cells : Net.cellsOf (first.grid face).toList = Net.cellsOf (second.grid face).toList :=
    List.map_inj_left.mp same face face.mem_all
  -- Both grids are what is read from these cells.
  have read : Net.readGrid n face (Net.cellsOf (first.grid face).toList) = .ok (second.grid face) :=
    Net.readGrid_eq_ok_iff.mpr cells
  rw [Net.readGrid_eq_ok_iff.mpr rfl] at read
  exact Except.ok.inj read

end Cube

end Cubing
