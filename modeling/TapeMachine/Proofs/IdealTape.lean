/-
  Tapes behave like an ideal tape.

  An ideal tape has a cell at every place, all of them zero at first, and remembers how far
  its pointer has been.  Main statement: under every sequence of operations a tape shows
  what the ideal tape holds up to there and nothing else, it refuses the same operations,
  and neither its capacity nor the way in which it grows can be seen.
-/
import Mathlib.Logic.Function.Basic
import TapeMachine.Proofs.AllocatedTape

set_option autoImplicit false

namespace TapeMachine

/-! ## The ideal tape -/

/-- A tape without an end. -/
structure IdealTape where
  cells : Nat → Int
  pointer : Nat
  /-- The highest place at which the pointer has been. -/
  highest : Nat

namespace IdealTape

/-- The ideal tape of zeros. -/
def blank : IdealTape := ⟨fun _ => 0, 0, 0⟩

/-- The tape with another value in its current cell. -/
def put (t : IdealTape) (value : Int) : IdealTape :=
  { t with cells := Function.update t.cells t.pointer value }

theorem cells_put (t : IdealTape) (value : Int) (place : Nat) :
    (t.put value).cells place = if place = t.pointer then value else t.cells place :=
  Function.update_apply t.cells t.pointer value place

/-- Performs an operation on a tape whose pointer stays below the limit. -/
def perform (limit : Option Nat) (operation : Operation) (t : IdealTape) :
    IdealTape × Option Refused :=
  match operation with
  | .moveRight =>
      if limit = some (t.pointer + 1) then (t, some (.fault (.overflow (t.pointer + 1))))
      else ({ t with pointer := t.pointer + 1, highest := max t.highest (t.pointer + 1) }, none)
  | .moveLeft =>
      if t.pointer = 0 then (t, some (.fault (.underflow none)))
      else ({ t with pointer := t.pointer - 1 }, none)
  | .increment => (t.put ((t.cells t.pointer + 1) % 256), none)
  | .decrement => (t.put ((t.cells t.pointer - 1) % 256), none)
  | .write value =>
      if 0 ≤ value ∧ value ≤ 255 then (t.put value, none) else (t, some (.value (.notByte value)))

end IdealTape

namespace Tape

/-! ## What is kept -/

/-- The tape holds what the ideal tape does; where it does not reach the ideal one is zero. -/
structure Holds (limit : Option Nat) (t : Tape) (ideal : IdealTape) : Prop where
  pointer_eq : t.pointer = ideal.pointer
  size_eq : t.size = ideal.highest + 1
  cell_eq : ∀ place, ((t.cellAt place).toNat : Int) = ideal.cells place
  limit_eq : t.limit = limit

section Holds

variable {limit : Option Nat} {t : Tape} {ideal : IdealTape}

theorem Holds.current_eq (h : Holds limit t ideal) :
    (t.current.toNat : Int) = ideal.cells ideal.pointer := by
  rw [← cellAt_pointer, h.cell_eq, h.pointer_eq]

theorem holds_put (h : Holds limit t ideal) {cell : UInt8} {value : Int}
    (hvalue : (cell.toNat : Int) = value) : Holds limit (t.put cell) (ideal.put value) where
  pointer_eq := h.pointer_eq
  size_eq := by simpa [size, IdealTape.put] using h.size_eq
  cell_eq place := by
    rw [cellAt_put, IdealTape.cells_put, ← h.pointer_eq]
    by_cases hplace : place = t.pointer
    · rw [if_pos hplace, if_pos hplace, hvalue]
    · rw [if_neg hplace, if_neg hplace, h.cell_eq]
  limit_eq := h.limit_eq

/-- A move onto a cell in use. -/
theorem holds_moveTo (h : Holds limit t ideal) {position : Nat} (hposition : position < t.size) :
    Holds limit (t.moveTo position hposition) { ideal with pointer := position } where
  pointer_eq := rfl
  size_eq := h.size_eq
  cell_eq := h.cell_eq
  limit_eq := h.limit_eq

/-- A move onto a new cell, where the ideal tape is zero. -/
theorem holds_grown (h : Holds limit t ideal) {grown : Tape} (hlast : t.size = t.pointer + 1)
    (hcells : grown.cells = t.cells.push 0) (hpointer : grown.pointer = t.size)
    (hlimit : grown.limit = t.limit) :
    Holds limit grown { ideal with
      pointer := ideal.pointer + 1, highest := max ideal.highest (ideal.pointer + 1) } where
  pointer_eq := by rw [hpointer, hlast, h.pointer_eq]
  size_eq := by
    have hsize := h.size_eq
    have hplace := h.pointer_eq
    have hgrown : grown.size = t.size + 1 := by simp [size, hcells]
    have hhighest : max ideal.highest (ideal.pointer + 1) = ideal.highest + 1 := by omega
    rw [hgrown, hsize, hhighest]
  cell_eq place := by rw [cellAt_of_cells_eq_push hcells, h.cell_eq]
  limit_eq := hlimit.trans h.limit_eq

/-! ## Operations -/

theorem toNat_add_one (cell : UInt8) : ((cell + 1).toNat : Int) = (cell.toNat + 1) % 256 := by
  rw [UInt8.toNat_add]
  simp

theorem toNat_sub_one (cell : UInt8) : ((cell - 1).toNat : Int) = (cell.toNat - 1) % 256 := by
  have := cell.toNat_lt
  rw [UInt8.toNat_sub]
  simp
  omega

theorem holds_moveRight (h : Holds limit t ideal) :
    Holds limit (t.perform .moveRight).1 (ideal.perform limit .moveRight).1 ∧
      (t.perform .moveRight).2 = (ideal.perform limit .moveRight).2 := by
  have hplace := h.pointer_eq
  have hsize := h.size_eq
  obtain rfl := h.limit_eq
  apply t.moveRight_cases (motive := fun result =>
    Holds t.limit result.1 (ideal.perform t.limit .moveRight).1 ∧
      result.2.map Refused.fault = (ideal.perform t.limit .moveRight).2)
  case inside =>
    intro hinside
    have hallowed : t.limit ≠ some (ideal.pointer + 1) := by
      intro hlimit
      have hbounded := t.capacity_le_limit _ hlimit
      have hcapacity : t.size ≤ t.capacity := t.size_le_capacity
      omega
    have hhighest : max ideal.highest (ideal.pointer + 1) = ideal.highest := by omega
    rw [IdealTape.perform, if_neg hallowed, hhighest, ← hplace]
    exact ⟨holds_moveTo h hinside, rfl⟩
  case grows =>
    intro grown hlast hroom hcells hgrown hlimit _
    have hallowed : t.limit ≠ some (ideal.pointer + 1) := by
      intro hlimit
      have := hroom _ hlimit
      omega
    rw [IdealTape.perform, if_neg hallowed]
    exact ⟨holds_grown h hlast hcells hgrown hlimit, rfl⟩
  case full =>
    intro bound hlimit _ hbound
    have hend : t.limit = some (ideal.pointer + 1) := by rw [hlimit, hbound, hplace]
    rw [IdealTape.perform, if_pos hend, hbound, hplace]
    exact ⟨h, rfl⟩

/-- Every operation keeps what the tape holds, and is refused by both tapes or by neither. -/
theorem holds_perform (h : Holds limit t ideal) (operation : Operation) :
    Holds limit (t.perform operation).1 (ideal.perform limit operation).1 ∧
      (t.perform operation).2 = (ideal.perform limit operation).2 := by
  cases operation with
  | moveRight => exact holds_moveRight h
  | moveLeft =>
      have hplace := h.pointer_eq
      by_cases hzero : t.pointer = 0
      · rw [perform, moveLeft_of_zero hzero, IdealTape.perform, if_pos (hplace ▸ hzero)]
        exact ⟨h, rfl⟩
      · obtain ⟨hlt, hmove⟩ := moveLeft_of_pos hzero
        rw [perform, hmove, IdealTape.perform, if_neg (hplace ▸ hzero), ← hplace]
        exact ⟨holds_moveTo h hlt, rfl⟩
  | increment =>
      refine ⟨holds_put h ?_, rfl⟩
      rw [toNat_add_one, h.current_eq]
  | decrement =>
      refine ⟨holds_put h ?_, rfl⟩
      rw [toNat_sub_one, h.current_eq]
  | write value =>
      by_cases hbyte : 0 ≤ value ∧ value ≤ 255
      · rw [perform, write_of_byte t hbyte, IdealTape.perform, if_pos hbyte]
        refine ⟨holds_put h ?_, rfl⟩
        rw [UInt8.toNat_ofNat']
        omega
      · rw [perform, write_of_not_byte t hbyte, IdealTape.perform, if_neg hbyte]
        exact ⟨h, rfl⟩

theorem holds_blankTape {capacity : Nat} (hcapacity : 1 ≤ capacity)
    (hlimit : ∀ bound, limit = some bound → capacity ≤ bound) :
    Holds limit (blankTape capacity limit hcapacity hlimit) .blank where
  pointer_eq := rfl
  size_eq := rfl
  cell_eq place := by cases place <;> rfl
  limit_eq := rfl

end Holds

/-! ## What is seen -/

/-- What can be seen of a tape is what the ideal tape holds, and the tape is in order. -/
structure Shows (limit : Option Nat) (t : Tape) (ideal : IdealTape) : Prop where
  pointer_eq : t.pointer = ideal.pointer
  size_eq : t.size = ideal.highest + 1
  current_eq : (t.current.toNat : Int) = ideal.cells ideal.pointer
  snapshot_eq : (t.cells.toList.map fun cell => (cell.toNat : Int)) =
    (List.range (ideal.highest + 1)).map ideal.cells
  get_inside : ∀ place : Nat, place ≤ ideal.highest →
    ∃ cell, t.get place = .ok cell ∧ (cell.toNat : Int) = ideal.cells place
  get_outside : ∀ index : Int, index < 0 ∨ (ideal.highest : Int) < index →
    t.get index = .error ⟨index, ideal.highest⟩
  moveRight_refused : (t.perform .moveRight).2 ≠ none ↔ limit = some (ideal.pointer + 1)
  moveLeft_refused : (t.perform .moveLeft).2 ≠ none ↔ ideal.pointer = 0
  write_refused : ∀ value, (t.perform (.write value)).2 ≠ none ↔ ¬ (0 ≤ value ∧ value ≤ 255)
  unchanged_of_refused : ∀ operation, (t.perform operation).2 ≠ none →
    (t.perform operation).1 = t
  pointer_lt_size : t.pointer < t.size
  size_le_capacity : t.size ≤ t.capacity
  capacity_le_limit : ∀ bound, limit = some bound → t.capacity ≤ bound
  /-- The cells allocated ahead of their use are zero. -/
  unused_eq_zero : ∀ place, t.size ≤ place → place < t.capacity →
    t.written.cells[place]? = some 0

theorem get_of_lt_size {t : Tape} {place : Nat} (h : place < t.size) :
    t.get place = .ok (t.cellAt place) := by
  have hcell := Array.getElem?_eq_getElem h
  simp [get, cellAt, hcell]

theorem get_of_outside {t : Tape} {index : Int} (h : index < 0 ∨ (t.size : Int) ≤ index) :
    t.get index = .error ⟨index, t.size - 1⟩ := by
  by_cases hnonneg : 0 ≤ index
  · have hbeyond : t.cells.size ≤ index.toNat := by
      have hsize : (t.cells.size : Int) = t.size := rfl
      omega
    simp [get, hnonneg, Array.getElem?_eq_none hbeyond]
  · simp [get, hnonneg]

theorem Holds.snapshot_eq {limit : Option Nat} {t : Tape} {ideal : IdealTape}
    (h : Holds limit t ideal) : (t.cells.toList.map fun cell => (cell.toNat : Int)) =
      (List.range (ideal.highest + 1)).map ideal.cells := by
  rw [← h.size_eq]
  refine List.ext_getElem (by simp [size]) fun place hplace _ => ?_
  have hlt : place < t.cells.size := by simpa using hplace
  rw [List.getElem_map, List.getElem_map, List.getElem_range, ← h.cell_eq, cellAt,
    Array.getElem?_eq_getElem hlt]
  rfl

theorem Holds.shows {limit : Option Nat} {t : Tape} {ideal : IdealTape}
    (h : Holds limit t ideal) : Shows limit t ideal where
  pointer_eq := h.pointer_eq
  size_eq := h.size_eq
  current_eq := h.current_eq
  snapshot_eq := h.snapshot_eq
  get_inside place hplace := by
    have hsize := h.size_eq
    exact ⟨_, get_of_lt_size (by omega), h.cell_eq place⟩
  get_outside index hindex := by
    have hsize := h.size_eq
    rw [get_of_outside (by omega), hsize, Nat.add_sub_cancel]
  moveRight_refused := by rw [moveRight_refused_iff, h.limit_eq, h.pointer_eq]
  moveLeft_refused := by rw [moveLeft_refused_iff, h.pointer_eq]
  write_refused := t.write_refused_iff
  unchanged_of_refused operation hrefused := by
    obtain ⟨refused, hsome⟩ := Option.ne_none_iff_exists'.1 hrefused
    exact perform_of_refused hsome
  pointer_lt_size := t.pointer_lt_size
  size_le_capacity := t.size_le_capacity
  capacity_le_limit bound hbound := t.capacity_le_limit bound (h.limit_eq.trans hbound)
  unused_eq_zero place hunused hallocated := by
    rw [getElem?_cells_written, allocated?_of_size_le t hunused hallocated]

/-! ## New tapes -/

theorem exists_blankTape_of_create (capacity : Int) {limit : Option Int}
    (hlimit : ∀ bound, limit = some bound → 1 ≤ bound) :
    ∃ t, create capacity limit = some t ∧ Holds (limit.map Int.toNat) t .blank := by
  cases limit with
  | none => exact ⟨_, rfl, holds_blankTape _ _⟩
  | some bound =>
      rw [create, dif_pos (hlimit bound rfl)]
      exact ⟨_, rfl, holds_blankTape _ _⟩

/-- Whatever its capacity and its limit, and whatever is done to it, a new tape shows what
the ideal tape holds and refuses what that refuses.  Its allocated cells are those of a tape
on which they are written out. -/
theorem shows_ideal_of_create (capacity : Int) (limit : Option Int)
    (hlimit : ∀ bound, limit = some bound → 1 ≤ bound) :
    ∃ t : Tape, create capacity limit = some t ∧
      AllocatedTape.create capacity limit = some t.written ∧
        ∀ operations : List Operation,
          Shows (limit.map Int.toNat) (performAll perform operations t).1
            (performAll (IdealTape.perform (limit.map Int.toNat)) operations .blank).1 ∧
          (performAll perform operations t).2 =
            (performAll (IdealTape.perform (limit.map Int.toNat)) operations .blank).2 ∧
          performAll AllocatedTape.perform operations t.written =
            (performAll perform operations t).map written id := by
  obtain ⟨t, hcreate, hblank⟩ := exists_blankTape_of_create capacity hlimit
  refine ⟨t, hcreate, ?_, fun operations => ?_⟩
  · rw [← written_create, hcreate]
    rfl
  · obtain ⟨hholds, hraised⟩ := performAll_related perform
      (IdealTape.perform (limit.map Int.toNat)) operations hblank
      fun operation _ _ h => holds_perform h operation
    exact ⟨hholds.shows, hraised, (t.written_performAll operations).symm⟩

/-- A tape of at most three cells, two of them allocated at first. -/
theorem shows_ideal_of_create_three : ∃ t : Tape, create 2 (some 3) = some t ∧
    ∀ operations : List Operation, Shows (some 3) (performAll perform operations t).1
      (performAll (IdealTape.perform (some 3)) operations .blank).1 := by
  have hlimit : ∀ bound : Int, some 3 = some bound → 1 ≤ bound := by
    rintro _ ⟨⟩
    decide
  obtain ⟨t, hcreate, _, hshows⟩ := shows_ideal_of_create 2 (some 3) hlimit
  exact ⟨t, hcreate, fun operations => (hshows operations).1⟩

end Tape

end TapeMachine
