/-
  What the operations of a tape do.

  Main statements: a move to the right stays on the cells in use, or gains one zero cell, or
  meets the limit, and when it fails; a move that fails leaves the tape as it was; a cell
  holds bytes and nothing else.
-/
import TapeMachine.Tape

set_option autoImplicit false

namespace TapeMachine

namespace Tape

/-! ## Fields -/

section Fields

variable (t : Tape)

@[simp] theorem cells_moveTo (position : Nat) (h : position < t.size) :
    (t.moveTo position h).cells = t.cells := rfl

@[simp] theorem capacity_moveTo (position : Nat) (h : position < t.size) :
    (t.moveTo position h).capacity = t.capacity := rfl

@[simp] theorem pointer_moveTo (position : Nat) (h : position < t.size) :
    (t.moveTo position h).pointer = position := rfl

@[simp] theorem limit_moveTo (position : Nat) (h : position < t.size) :
    (t.moveTo position h).limit = t.limit := rfl

@[simp] theorem cells_extend (h : t.size < t.capacity) :
    (t.extend h).cells = t.cells.push 0 := rfl

@[simp] theorem capacity_extend (h : t.size < t.capacity) :
    (t.extend h).capacity = t.capacity := rfl

@[simp] theorem pointer_extend (h : t.size < t.capacity) : (t.extend h).pointer = t.size := rfl

@[simp] theorem limit_extend (h : t.size < t.capacity) : (t.extend h).limit = t.limit := rfl

@[simp] theorem cells_put (cell : UInt8) :
    (t.put cell).cells = t.cells.set t.pointer cell t.pointer_lt_size := rfl

@[simp] theorem capacity_put (cell : UInt8) : (t.put cell).capacity = t.capacity := rfl

@[simp] theorem pointer_put (cell : UInt8) : (t.put cell).pointer = t.pointer := rfl

@[simp] theorem limit_put (cell : UInt8) : (t.put cell).limit = t.limit := rfl

end Fields

/-! ## Moving to the right -/

variable {t : Tape}

theorem moveRight_of_lt (h : t.pointer + 1 < t.size) :
    t.moveRight = (t.moveTo (t.pointer + 1) h, none) := by
  rw [moveRight, dif_pos h]

/-- At the limit a tape cannot gain a cell. -/
theorem moveRight_of_limit {bound : Nat} (h : t.size ≤ t.pointer + 1)
    (hlimit : t.limit = some bound) (hbound : bound ≤ t.size) :
    t.moveRight = (t, some (.overflow bound)) := by
  have hfilter : t.limit.filter (· ≤ t.size) = some bound := by
    simp [hlimit, hbound]
  rw [moveRight, dif_neg (Nat.not_lt.2 h)]
  split
  · rename_i bound' hsome
    rw [hfilter, Option.some.injEq] at hsome
    rw [hsome]
  · rename_i hnone
    rw [hfilter] at hnone
    simp at hnone

/-- Below the limit a tape gains a zero cell, and its capacity grows when it has to. -/
theorem moveRight_of_room (h : t.size ≤ t.pointer + 1) (hroom : t.Allows (t.size + 1)) :
    ∃ grown : Tape, t.moveRight = (grown, none) ∧ grown.cells = t.cells.push 0 ∧
      grown.pointer = t.size ∧ grown.limit = t.limit ∧
      grown.capacity =
        if t.size + 1 ≤ t.capacity then t.capacity else t.grownCapacity (t.size + 1) := by
  have hfilter : t.limit.filter (· ≤ t.size) = none := by
    rw [Option.filter_eq_none_iff]
    intro bound hbound
    have := hroom bound hbound
    simp only [decide_eq_true_eq]
    omega
  have hcapacity :
      (t.reserve (t.size + 1) hroom).size < (t.reserve (t.size + 1) hroom).capacity := by
    rw [size, cells_reserve]
    exact le_capacity_reserve t (t.size + 1) hroom
  rw [moveRight, dif_neg (Nat.not_lt.2 h)]
  split
  · rename_i bound hsome
    rw [hfilter] at hsome
    simp at hsome
  · refine ⟨(t.reserve (t.size + 1) hroom).extend hcapacity, rfl, ?_, ?_, ?_, ?_⟩
    · rw [cells_extend, cells_reserve]
    · rw [pointer_extend, size, cells_reserve, size]
    · rw [limit_extend, limit_reserve]
    · rw [capacity_extend, capacity_reserve]

/-- What is true of the three moves to the right is true of the one that applies: onto the
next cell in use, onto a new zero cell, or none at the limit. -/
theorem moveRight_cases (t : Tape) {motive : Tape × Option Fault → Prop}
    (inside : ∀ h : t.pointer + 1 < t.size, motive (t.moveTo (t.pointer + 1) h, none))
    (grows : ∀ grown : Tape, t.size = t.pointer + 1 → t.Allows (t.size + 1) →
      grown.cells = t.cells.push 0 → grown.pointer = t.size → grown.limit = t.limit →
      grown.capacity =
        (if t.size + 1 ≤ t.capacity then t.capacity else t.grownCapacity (t.size + 1)) →
      motive (grown, none))
    (full : ∀ bound, t.limit = some bound → t.size = t.pointer + 1 → bound = t.pointer + 1 →
      motive (t, some (.overflow bound))) :
    motive t.moveRight := by
  have hpointer : t.pointer < t.size := t.pointer_lt_size
  have hcapacity : t.size ≤ t.capacity := t.size_le_capacity
  rcases Nat.lt_or_ge (t.pointer + 1) t.size with hinside | hlast
  · rw [moveRight_of_lt hinside]
    exact inside hinside
  have hgrows : t.Allows (t.size + 1) → motive t.moveRight := by
    intro hroom
    obtain ⟨grown, hmove, hcells, hgrown, hlimit, hreserved⟩ := moveRight_of_room hlast hroom
    rw [hmove]
    exact grows grown (by omega) hroom hcells hgrown hlimit hreserved
  cases hlimit : t.limit with
  | none =>
      refine hgrows fun bound hbound => ?_
      rw [hlimit] at hbound
      simp at hbound
  | some bound =>
      have hbounded := t.capacity_le_limit bound hlimit
      rcases Nat.lt_or_ge t.size bound with hroom | hfull
      · refine hgrows fun bound' hbound => ?_
        rw [hlimit, Option.some.injEq] at hbound
        omega
      · rw [moveRight_of_limit hlast hlimit hfull]
        exact full bound hlimit (by omega) (by omega)

/-- A move to the right fails exactly on the last cell that the limit allows. -/
theorem moveRight_fault_iff (t : Tape) (fault : Fault) :
    t.moveRight.2 = some fault ↔
      ∃ bound, t.limit = some bound ∧ t.pointer + 1 = bound ∧ fault = .overflow bound := by
  apply t.moveRight_cases (motive := fun result => result.2 = some fault ↔ _)
  case inside =>
    intro hinside
    simp only [reduceCtorEq, false_iff]
    rintro ⟨bound, hlimit, hend, _⟩
    have := t.capacity_le_limit bound hlimit
    have := t.size_le_capacity
    rw [size] at hinside
    omega
  case grows =>
    intro grown hlast hroom _ _ _ _
    simp only [reduceCtorEq, false_iff]
    rintro ⟨bound, hlimit, hend, _⟩
    have := hroom bound hlimit
    omega
  case full =>
    intro bound hlimit _ hbound
    constructor
    · intro h
      exact ⟨bound, hlimit, hbound.symm, (Option.some.inj h).symm⟩
    · rintro ⟨bound', hlimit', _, rfl⟩
      rw [hlimit, Option.some.injEq] at hlimit'
      rw [hlimit']

/-- A move to the right that fails changes nothing. -/
theorem moveRight_of_fault {fault : Fault} (t : Tape) : t.moveRight.2 = some fault →
    t.moveRight.1 = t := by
  apply t.moveRight_cases (motive := fun result => result.2 = some fault → result.1 = t)
  case inside => simp
  case grows => simp
  case full => exact fun _ _ _ _ _ => rfl

/-! ## Moving to the left -/

theorem moveLeft_of_pos (h : t.pointer ≠ 0) : ∃ hlt : t.pointer - 1 < t.size,
    t.moveLeft = (t.moveTo (t.pointer - 1) hlt, none) := by
  rw [moveLeft, if_neg h]
  exact ⟨_, rfl⟩

theorem moveLeft_of_zero (h : t.pointer = 0) :
    t.moveLeft = (t, some (.underflow none)) := by
  rw [moveLeft, if_pos h]

/-! ## Cells -/

theorem cellOf_toNat (byte : UInt8) : cellOf byte.toNat = .ok byte := by
  have hle : (byte.toNat : Int) ≤ 255 := by
    have := byte.toNat_lt
    omega
  simp [cellOf, hle]

/-- Values that are no bytes do not fit into a cell. -/
theorem cellOf_eq_error_iff (value : Int) (failure : PortFailure) :
    cellOf value = .error failure ↔ (value < 0 ∨ 255 < value) ∧ failure = .notByte value := by
  unfold cellOf
  split
  · rename_i hbyte
    simp only [reduceCtorEq, false_iff]
    omega
  · rename_i hbyte
    have houtside : value < 0 ∨ 255 < value := by omega
    simp [houtside, eq_comm]

end Tape

end TapeMachine
