/-
  The byte tape.

  A tape is a row of cells with a pointer.  It starts as one zero cell and gains a
  zero cell each time the pointer moves past the last one.  Cells are allocated ahead
  of their use: their number, the capacity, is at least doubled when it does not
  suffice, so that growth is cheap.  A limit, when there is one, bounds the capacity and
  with it the row.

  The type keeps what makes every access safe: the pointer stands on a cell, the cells
  are allocated, and the capacity obeys the limit.
-/
import TapeMachine.Fault

set_option autoImplicit false

namespace TapeMachine

/-- A byte tape. -/
structure Tape where
  /-- The cells in use. -/
  cells : Array UInt8
  /-- The number of allocated cells. -/
  capacity : Nat
  /-- The current cell. -/
  pointer : Nat
  /-- The greatest number of cells allowed. -/
  limit : Option Nat
  pointer_lt_size : pointer < cells.size
  size_le_capacity : cells.size ≤ capacity
  capacity_le_limit : ∀ bound, limit = some bound → capacity ≤ bound

namespace Tape

/-! ## Views -/

/-- The number of cells in use. -/
def size (t : Tape) : Nat := t.cells.size

/-- The current cell. -/
def current (t : Tape) : UInt8 :=
  have h := t.pointer_lt_size
  t.cells[t.pointer]

/-- The allocated cell at a place.  It is zero when it is not in use. -/
def allocated? (t : Tape) (place : Nat) : Option UInt8 :=
  if place < t.capacity then some (t.cells[place]?.getD 0) else none

/-- The allocated cells beyond those in use are zero. -/
theorem allocated?_of_size_le (t : Tape) {place : Nat} (h : t.size ≤ place)
    (hc : place < t.capacity) : t.allocated? place = some 0 := by
  have hs : t.cells.size ≤ place := h
  simp [allocated?, hc, hs]

/-- An index that names no cell, on a tape whose last cell is `last`. -/
structure Outside where
  index : Int
  last : Nat
  deriving DecidableEq, Repr

/-- The wording of a refused index. -/
def Outside.message (e : Outside) : String :=
  s!"cell {e.index} is outside the tape (0..{e.last})"

/-- The cell at an index.  Indexes are never counted from the end. -/
def get (t : Tape) (index : Int) : Except Outside UInt8 :=
  if 0 ≤ index then
    match t.cells[index.toNat]? with
    | some cell => .ok cell
    | none => .error ⟨index, t.size - 1⟩
  else .error ⟨index, t.size - 1⟩

/-- A tape as text: its pointer and its cells. -/
def shown (t : Tape) : String :=
  let cells := ", ".intercalate (t.cells.toList.map fun cell => toString cell.toNat)
  s!"Tape(pointer={t.pointer}, cells=[{cells}])"

/-! ## A new tape -/

/-- The text that refuses a limit below one. -/
def limitMessage : String := "max_cells must be at least 1"

/-- A number of cells, cut to the limit. -/
def clip (limit : Option Nat) (count : Nat) : Nat :=
  match limit with
  | none => count
  | some bound => min count bound

theorem clip_le {limit : Option Nat} {bound count : Nat} (h : limit = some bound) :
    clip limit count ≤ bound := by
  subst h
  exact Nat.min_le_right count bound

theorem le_clip {limit : Option Nat} {count other : Nat} (h : other ≤ count)
    (hlimit : ∀ bound, limit = some bound → other ≤ bound) : other ≤ clip limit count := by
  cases limit with
  | none => exact h
  | some bound => exact Nat.le_min.2 ⟨h, hlimit bound rfl⟩

theorem le_of_no_limit {count : Nat} (bound : Nat) (h : none = some bound) : count ≤ bound := by
  cases h

theorem one_le_of_limit {limit : Int} (h : 1 ≤ limit) (bound : Nat)
    (hbound : some limit.toNat = some bound) : 1 ≤ bound := by
  obtain rfl := Option.some.inj hbound
  omega

/-- One zero cell on a tape of the given capacity. -/
def blankTape (capacity : Nat) (limit : Option Nat) (hcapacity : 1 ≤ capacity)
    (hlimit : ∀ bound, limit = some bound → capacity ≤ bound) : Tape where
  cells := #[0]
  capacity := capacity
  pointer := 0
  limit := limit
  pointer_lt_size := Nat.one_pos
  size_le_capacity := hcapacity
  capacity_le_limit := hlimit

/-- A new tape.  The capacity is at least one and at most the limit; there is no tape
with a limit below one. -/
def create (capacity : Int) (limit : Option Int) : Option Tape :=
  let wanted := max 1 capacity.toNat
  match limit with
  | none => some (blankTape wanted none (Nat.le_max_left ..) le_of_no_limit)
  | some bound =>
      if h : 1 ≤ bound then
        some (blankTape (clip (some bound.toNat) wanted) (some bound.toNat)
          (le_clip (Nat.le_max_left ..) (one_le_of_limit h))
          (fun _ hlimit => clip_le hlimit))
      else none

/-- The tape of a single cell without a limit. -/
def single : Tape := blankTape 1 none (Nat.le_refl 1) (by simp)

/-! ## Growing -/

/-- Whether the limit allows a number of cells. -/
def Allows (t : Tape) (count : Nat) : Prop := ∀ bound, t.limit = some bound → count ≤ bound

/-- The capacity after growing to at least `needed` cells: doubled when that is more,
and cut to the limit. -/
def grownCapacity (t : Tape) (needed : Nat) : Nat :=
  clip t.limit (max needed (2 * t.capacity))

theorem le_grownCapacity {t : Tape} {needed : Nat} (h : t.Allows needed) :
    needed ≤ t.grownCapacity needed :=
  le_clip (Nat.le_max_left ..) h

/-- The tape with room for `needed` cells. -/
def reserve (t : Tape) (needed : Nat) (h : t.Allows needed) : Tape :=
  if hroom : needed ≤ t.capacity then t
  else
    { t with
      capacity := t.grownCapacity needed
      size_le_capacity := by
        have hsize := t.size_le_capacity
        have hgrown := le_grownCapacity h
        omega
      capacity_le_limit := fun _ hlimit => clip_le hlimit }

theorem cells_reserve (t : Tape) (needed : Nat) (h : t.Allows needed) :
    (t.reserve needed h).cells = t.cells := by
  unfold reserve
  split <;> rfl

theorem limit_reserve (t : Tape) (needed : Nat) (h : t.Allows needed) :
    (t.reserve needed h).limit = t.limit := by
  unfold reserve
  split <;> rfl

theorem capacity_reserve (t : Tape) (needed : Nat) (h : t.Allows needed) :
    (t.reserve needed h).capacity =
      if needed ≤ t.capacity then t.capacity else t.grownCapacity needed := by
  unfold reserve
  split <;> simp_all

theorem le_capacity_reserve (t : Tape) (needed : Nat) (h : t.Allows needed) :
    needed ≤ (t.reserve needed h).capacity := by
  rw [capacity_reserve]
  split
  · assumption
  · exact le_grownCapacity h

/-! ## Moving -/

/-- The pointer moved onto another cell in use. -/
def moveTo (t : Tape) (position : Nat) (h : position < t.size) : Tape :=
  { t with pointer := position, pointer_lt_size := h }

/-- The tape with one more cell, and the pointer on it.  There is room for it. -/
def extend (t : Tape) (h : t.size < t.capacity) : Tape :=
  let last := t.size
  { t with
    cells := t.cells.push 0
    pointer := last
    pointer_lt_size := by simp [last, size]
    size_le_capacity := by
      rw [Array.size_push]
      exact h }

/-- Moves the pointer to the right.  Past the last cell the tape gains a cell, unless
the limit forbids it; then it stays as it was. -/
def moveRight (t : Tape) : Tape × Option Fault :=
  if h : t.pointer + 1 < t.size then (t.moveTo (t.pointer + 1) h, none)
  else
    match hlimit : t.limit.filter (· ≤ t.size) with
    | some bound => (t, some (.overflow bound))
    | none =>
        have hroom : t.Allows (t.size + 1) := by
          intro bound hbound
          have h : t.size < bound := by simpa [hbound] using hlimit
          exact h
        ((t.reserve (t.size + 1) hroom).extend (by
          have hcapacity := le_capacity_reserve t (t.size + 1) hroom
          rw [size, cells_reserve]
          exact hcapacity), none)

/-- Moves the pointer to the left.  There is nothing left of the first cell, where the
tape stays as it was. -/
def moveLeft (t : Tape) : Tape × Option Fault :=
  if t.pointer = 0 then (t, some (.underflow none))
  else
    (t.moveTo (t.pointer - 1) (by
      have h : t.pointer < t.size := t.pointer_lt_size
      omega), none)

/-! ## Writing -/

/-- The tape with another current cell. -/
def put (t : Tape) (cell : UInt8) : Tape where
  cells := t.cells.set t.pointer cell t.pointer_lt_size
  capacity := t.capacity
  pointer := t.pointer
  limit := t.limit
  pointer_lt_size := by simpa using t.pointer_lt_size
  size_le_capacity := by simpa using t.size_le_capacity
  capacity_le_limit := t.capacity_le_limit

/-- Adds one to the current cell, modulo 256. -/
def increment (t : Tape) : Tape := t.put (t.current + 1)

/-- Takes one from the current cell, modulo 256. -/
def decrement (t : Tape) : Tape := t.put (t.current - 1)

/-- The cell that holds a value.  Only a byte fits. -/
def cellOf (value : Int) : Except PortFailure UInt8 :=
  if 0 ≤ value ∧ value ≤ 255 then .ok (UInt8.ofNat value.toNat) else .error (.notByte value)

/-- Writes a value into the current cell, which keeps its value when the new one does not
fit. -/
def write (t : Tape) (value : Int) : Tape × Option PortFailure :=
  match cellOf value with
  | .ok cell => (t.put cell, none)
  | .error failure => (t, some failure)

end Tape

end TapeMachine
