/-
  Tapes with their allocated cells.

  A tape keeps its cells in use and the number of those allocated.  Here all the allocated
  cells are written out, and growing copies them into a larger row of zeros.  Main
  statement: writing out the cells of a tape commutes with every operation, so the cells
  that are allocated ahead of their use stay zero and are what a tape gains.
-/
import TapeMachine.Proofs.TapeOperations

set_option autoImplicit false

namespace TapeMachine

/-- A tape with all its allocated cells, those in use in front. -/
structure AllocatedTape where
  cells : Array UInt8
  /-- The number of cells in use. -/
  size : Nat
  pointer : Nat
  /-- The greatest number of cells allowed. -/
  limit : Option Nat

namespace AllocatedTape

/-! ## Operations -/

/-- A new tape on a row of zeros. -/
def create (capacity : Int) (limit : Option Int) : Option AllocatedTape :=
  match limit with
  | none => some ⟨Array.replicate (max 1 capacity).toNat 0, 1, 0, none⟩
  | some bound =>
      if bound < 1 then none
      else some ⟨Array.replicate (min (max 1 capacity) bound).toNat 0, 1, 0, some bound.toNat⟩

/-- Copies the cells to the front of a row of zeros that has room for `needed` cells. -/
def grow (t : AllocatedTape) (needed : Nat) : AllocatedTape :=
  let capacity := Tape.clip t.limit (max needed (2 * t.cells.size))
  { t with cells := Array.ofFn fun place : Fin capacity => t.cells[place.val]?.getD 0 }

/-- The tape with a cell allocated at a place. -/
def makeRoom (t : AllocatedTape) (place : Nat) : AllocatedTape :=
  if t.cells.size ≤ place then t.grow (place + 1) else t

theorem limit_makeRoom (t : AllocatedTape) (place : Nat) :
    (t.makeRoom place).limit = t.limit := by
  rw [makeRoom]
  split <;> rfl

/-- Moves the pointer to the right, onto an allocated cell. -/
def moveRight (t : AllocatedTape) : AllocatedTape × Option Fault :=
  let next := t.pointer + 1
  if t.size ≤ next then
    match t.limit.filter (· ≤ next) with
    | some bound => (t, some (.overflow bound))
    | none =>
        ({ t.makeRoom next with size := next + 1, pointer := next }, none)
  else ({ t with pointer := next }, none)

section MoveRight

variable {t : AllocatedTape}

theorem moveRight_of_lt (h : t.pointer + 1 < t.size) :
    t.moveRight = ({ t with pointer := t.pointer + 1 }, none) := by
  simp only [moveRight, if_neg (Nat.not_le.2 h)]

theorem moveRight_of_limit {bound : Nat} (h : t.size ≤ t.pointer + 1)
    (hlimit : t.limit = some bound) (hbound : bound ≤ t.pointer + 1) :
    t.moveRight = (t, some (.overflow bound)) := by
  have hfilter : t.limit.filter (· ≤ t.pointer + 1) = some bound := by
    simp [hlimit, hbound]
  simp only [moveRight, if_pos h, hfilter]

theorem moveRight_of_room (h : t.size ≤ t.pointer + 1)
    (hroom : ∀ bound, t.limit = some bound → t.pointer + 1 < bound) :
    t.moveRight = (⟨(t.makeRoom (t.pointer + 1)).cells, t.pointer + 2, t.pointer + 1, t.limit⟩,
      none) := by
  have hfilter : t.limit.filter (· ≤ t.pointer + 1) = none := by
    rw [Option.filter_eq_none_iff]
    intro bound hbound
    simpa using hroom bound hbound
  simp only [moveRight, if_pos h, hfilter, limit_makeRoom]

end MoveRight

/-- The current cell. -/
def current (t : AllocatedTape) : UInt8 := t.cells[t.pointer]?.getD 0

/-- The tape with another current cell. -/
def put (t : AllocatedTape) (cell : UInt8) : AllocatedTape :=
  { t with cells := t.cells.setIfInBounds t.pointer cell }

/-- Performs an operation on a tape. -/
def perform (operation : Operation) (t : AllocatedTape) : AllocatedTape × Option Refused :=
  match operation with
  | .moveRight => t.moveRight.map id (Option.map .fault)
  | .moveLeft =>
      if t.pointer = 0 then (t, some (.fault (.underflow none)))
      else ({ t with pointer := t.pointer - 1 }, none)
  | .increment => (t.put (t.current + 1), none)
  | .decrement => (t.put (t.current - 1), none)
  | .write value =>
      if 0 ≤ value ∧ value ≤ 255 then (t.put (UInt8.ofNat value.toNat), none)
      else (t, some (.value (.notByte value)))

end AllocatedTape

namespace Tape

/-! ## Writing out a tape -/

/-- The tape with all its allocated cells written out. -/
def written (t : Tape) : AllocatedTape :=
  ⟨Array.ofFn fun place : Fin t.capacity => t.cellAt place, t.size, t.pointer, t.limit⟩

theorem allocated?_eq (t : Tape) (place : Nat) :
    t.allocated? place = if place < t.capacity then some (t.cellAt place) else none := rfl

theorem getElem?_cells_written (t : Tape) (place : Nat) :
    t.written.cells[place]? = t.allocated? place := by
  simp [written, allocated?_eq, Array.getElem?_ofFn]

theorem size_cells_written (t : Tape) : t.written.cells.size = t.capacity := by
  simp [written]

theorem written_eq {t : Tape} {cells : Array UInt8}
    (h : ∀ place, t.allocated? place = cells[place]?) :
    t.written = ⟨cells, t.size, t.pointer, t.limit⟩ := by
  have hcells : t.written.cells = cells :=
    Array.ext_getElem? fun place => (t.getElem?_cells_written place).trans (h place)
  rw [← hcells]
  rfl

/-- A new tape is allocated as a row of zeros. -/
theorem written_blankTape {capacity : Nat} {limit : Option Nat} (hcapacity : 1 ≤ capacity)
    (hlimit : ∀ bound, limit = some bound → capacity ≤ bound) :
    (blankTape capacity limit hcapacity hlimit).written =
      ⟨Array.replicate capacity 0, 1, 0, limit⟩ := by
  refine written_eq fun place => ?_
  have hzero : (blankTape capacity limit hcapacity hlimit).cellAt place = 0 := by
    cases place <;> rfl
  rw [allocated?_eq, hzero, Array.getElem?_replicate]
  rfl

theorem written_create (capacity : Int) (limit : Option Int) :
    (create capacity limit).map written = AllocatedTape.create capacity limit := by
  cases limit with
  | none =>
      have hwanted : max 1 capacity.toNat = (max 1 capacity).toNat := by omega
      simp only [create, AllocatedTape.create, Option.map_some, written_blankTape, hwanted]
  | some bound =>
      by_cases hbound : 1 ≤ bound
      · have hwanted : clip (some bound.toNat) (max 1 capacity.toNat) =
            (min (max 1 capacity) bound).toNat := by
          rw [clip]
          omega
        simp only [create, AllocatedTape.create, dif_pos hbound, if_neg (Int.not_lt.2 hbound),
          Option.map_some, written_blankTape, hwanted]
      · simp only [create, AllocatedTape.create, dif_neg hbound, if_pos (Int.not_le.1 hbound),
          Option.map_none]

/-! ## Operations on a tape written out -/

theorem pointer_lt_capacity (t : Tape) : t.pointer < t.capacity :=
  Nat.lt_of_lt_of_le t.pointer_lt_size t.size_le_capacity

theorem current_written (t : Tape) : t.written.current = t.current := by
  have hcell := t.getElem?_cells_written t.pointer
  rw [allocated?_eq, if_pos t.pointer_lt_capacity, cellAt_pointer] at hcell
  exact congrArg (·.getD 0) hcell

theorem written_put (t : Tape) (cell : UInt8) : (t.put cell).written = t.written.put cell := by
  have hsize : (t.put cell).size = t.size := by simp [size]
  have hcells : ∀ place, (t.put cell).allocated? place =
      (t.written.cells.setIfInBounds t.pointer cell)[place]? := by
    intro place
    rw [allocated?_eq, cellAt_put, capacity_put, Array.getElem?_setIfInBounds,
      size_cells_written, if_pos t.pointer_lt_capacity, getElem?_cells_written, allocated?_eq]
    by_cases hplace : place = t.pointer
    · simp [hplace, t.pointer_lt_capacity]
    · simp [hplace, Ne.symm hplace]
  rw [written_eq hcells, hsize]
  rfl

/-- The cells of a grown tape are a copy of those before, in a larger row of zeros. -/
theorem getElem?_cells_grow_written (t : Tape) (needed place : Nat) :
    (t.written.grow needed).cells[place]? =
      if place < t.grownCapacity needed then some (t.cellAt place) else none := by
  have hsize : t.cells.size ≤ t.capacity := t.size_le_capacity
  have hcell : (t.allocated? place).getD 0 = t.cellAt place := by
    rw [allocated?_eq]
    split
    · rfl
    · rw [cellAt, Array.getElem?_eq_none (by omega)]
  simp only [AllocatedTape.grow, Array.getElem?_ofFn, getElem?_cells_written, size_cells_written,
    hcell]
  rfl

theorem getElem?_cells_makeRoom_written (t : Tape) (last place : Nat) :
    (t.written.makeRoom last).cells[place]? =
      if place < (if last + 1 ≤ t.capacity then t.capacity else t.grownCapacity (last + 1)) then
        some (t.cellAt place)
      else none := by
  rw [AllocatedTape.makeRoom, size_cells_written]
  by_cases hfits : last + 1 ≤ t.capacity
  · rw [if_pos hfits, if_neg (Nat.not_le.2 hfits), getElem?_cells_written, allocated?_eq]
  · rw [if_neg hfits, if_pos (Nat.not_lt.1 hfits), getElem?_cells_grow_written]

theorem written_moveRight (t : Tape) : t.moveRight.map written id = t.written.moveRight := by
  apply t.moveRight_cases (motive := fun result => result.map written id = t.written.moveRight)
  case inside =>
    intro hinside
    rw [AllocatedTape.moveRight_of_lt hinside]
    rfl
  case grows =>
    intro grown hlast hroom hcells hgrown hlimit hcapacity
    have hallowed : ∀ bound, t.limit = some bound → t.pointer + 1 < bound := by
      intro bound hbound
      have := hroom bound hbound
      omega
    have hsize : grown.size = t.size + 1 := by simp [size, hcells]
    have hwritten : ∀ place, grown.allocated? place =
        (t.written.makeRoom (t.pointer + 1)).cells[place]? := by
      intro place
      rw [allocated?_eq, cellAt_of_cells_eq_push hcells, hcapacity,
        getElem?_cells_makeRoom_written, hlast]
    rw [AllocatedTape.moveRight_of_room (Nat.le_of_eq hlast) hallowed, Prod.map,
      written_eq hwritten, hsize, hgrown, hlimit, hlast]
    rfl
  case full =>
    intro bound hlimit hlast hbound
    rw [AllocatedTape.moveRight_of_limit (Nat.le_of_eq hlast) hlimit (Nat.le_of_eq hbound)]
    rfl

theorem written_perform (operation : Operation) (t : Tape) :
    (t.perform operation).map written id = t.written.perform operation := by
  cases operation with
  | moveRight =>
      rw [perform, AllocatedTape.perform, ← written_moveRight]
      rfl
  | moveLeft =>
      by_cases hzero : t.pointer = 0
      · rw [perform, moveLeft_of_zero hzero, AllocatedTape.perform]
        exact (if_pos hzero).symm
      · obtain ⟨hlt, hmove⟩ := moveLeft_of_pos hzero
        rw [perform, hmove, AllocatedTape.perform]
        exact (if_neg hzero).symm
  | increment =>
      rw [AllocatedTape.perform, current_written, ← written_put]
      rfl
  | decrement =>
      rw [AllocatedTape.perform, current_written, ← written_put]
      rfl
  | write value =>
      by_cases hbyte : 0 ≤ value ∧ value ≤ 255
      · rw [perform, write_of_byte t hbyte, AllocatedTape.perform, if_pos hbyte, ← written_put]
        rfl
      · rw [perform, write_of_not_byte t hbyte, AllocatedTape.perform, if_neg hbyte]
        rfl

/-- Sequences of operations do the same to a tape written out, and raise the same. -/
theorem written_performAll (operations : List Operation) (t : Tape) :
    (performAll perform operations t).map written id =
      performAll AllocatedTape.perform operations t.written := by
  have hrelated := performAll_related perform AllocatedTape.perform operations
    (R := fun (t : Tape) (other : AllocatedTape) => t.written = other) (s := t) rfl
  obtain ⟨hlast, hraised⟩ := hrelated (by
    rintro operation t _ rfl
    rw [← written_perform]
    exact ⟨rfl, rfl⟩)
  exact Prod.ext hlast hraised

end Tape

end TapeMachine
