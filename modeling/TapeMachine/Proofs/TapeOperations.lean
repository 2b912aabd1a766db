/-
  Sequences of operations on a tape.

  An operation that is refused raises an error and leaves the tape alone, and the next one
  goes on from there.  Main statements: which operations are refused; two kinds of tapes
  whose single operations correspond, correspond under every sequence of operations.
-/
import TapeMachine.Proofs.Moves

set_option autoImplicit false

namespace TapeMachine

/-! ## Operations -/

/-- What can be done to a tape. -/
inductive Operation where
  | moveRight
  | moveLeft
  | increment
  | decrement
  /-- Writes a value into the current cell. -/
  | write (value : Int)
  deriving DecidableEq, Repr, Inhabited

/-- What is raised when an operation is refused. -/
inductive Refused where
  /-- The pointer cannot leave the tape. -/
  | fault (fault : Fault)
  /-- The value does not fit into a cell. -/
  | value (failure : PortFailure)
  deriving DecidableEq, Repr, Inhabited

/-- Performs operations one after another, and lists what each of them raises. -/
def performAll {σ : Type} (perform : Operation → σ → σ × Option Refused) :
    List Operation → σ → σ × List (Option Refused)
  | [], s => (s, [])
  | operation :: rest, s =>
      let next := perform operation s
      let last := performAll perform rest next.1
      (last.1, next.2 :: last.2)

section Sequences

variable {σ τ : Type} (perform : Operation → σ → σ × Option Refused)
  (perform' : Operation → τ → τ × Option Refused) (operations : List Operation)

/-- States that correspond under every operation do so under sequences of operations, which
raise the same. -/
theorem performAll_related {R : σ → τ → Prop} {s : σ} {t : τ} (h : R s t)
    (hstep : ∀ operation s t, R s t → R (perform operation s).1 (perform' operation t).1 ∧
      (perform operation s).2 = (perform' operation t).2) :
    R (performAll perform operations s).1 (performAll perform' operations t).1 ∧
      (performAll perform operations s).2 = (performAll perform' operations t).2 := by
  induction operations generalizing s t with
  | nil => exact ⟨h, rfl⟩
  | cons operation rest ih =>
      obtain ⟨hnext, hraised⟩ := hstep operation s t h
      obtain ⟨hlast, hrest⟩ := ih hnext
      refine ⟨hlast, ?_⟩
      rw [performAll, performAll, hraised, hrest]

end Sequences

/-! ## Operations on a tape -/

namespace Tape

/-- The cell at a place, zero where the tape does not reach. -/
def cellAt (t : Tape) (place : Nat) : UInt8 := t.cells[place]?.getD 0

theorem cellAt_pointer (t : Tape) : t.cellAt t.pointer = t.current := by
  rw [cellAt, Array.getElem?_eq_getElem t.pointer_lt_size]
  rfl

/-- A new zero cell cannot be told from a place that the tape did not reach. -/
theorem cellAt_of_cells_eq_push {t grown : Tape} (h : grown.cells = t.cells.push 0)
    (place : Nat) : grown.cellAt place = t.cellAt place := by
  rw [cellAt, cellAt, h, Array.getElem?_push]
  split
  · rename_i hlast
    simp [hlast]
  · rfl

theorem cellAt_put (t : Tape) (cell : UInt8) (place : Nat) :
    (t.put cell).cellAt place = if place = t.pointer then cell else t.cellAt place := by
  rw [cellAt, cells_put, Array.getElem?_set, cellAt]
  by_cases hplace : t.pointer = place
  · simp [hplace]
  · simp [hplace, Ne.symm hplace]

/-- Performs an operation on a tape. -/
def perform (operation : Operation) (t : Tape) : Tape × Option Refused :=
  match operation with
  | .moveRight => t.moveRight.map id (Option.map .fault)
  | .moveLeft => t.moveLeft.map id (Option.map .fault)
  | .increment => (t.increment, none)
  | .decrement => (t.decrement, none)
  | .write value => (t.write value).map id (Option.map .value)

theorem write_of_byte (t : Tape) {value : Int} (h : 0 ≤ value ∧ value ≤ 255) :
    t.write value = (t.put (UInt8.ofNat value.toNat), none) := by
  simp [write, cellOf, h]

theorem write_of_not_byte (t : Tape) {value : Int} (h : ¬ (0 ≤ value ∧ value ≤ 255)) :
    t.write value = (t, some (.notByte value)) := by
  simp only [write, cellOf, if_neg h]

/-- An operation that is refused changes nothing. -/
theorem perform_of_refused {operation : Operation} {t : Tape} {refused : Refused}
    (h : (t.perform operation).2 = some refused) : (t.perform operation).1 = t := by
  cases operation with
  | moveRight =>
      obtain ⟨fault, hfault, _⟩ := Option.map_eq_some_iff.1 h
      exact t.moveRight_of_fault hfault
  | moveLeft =>
      by_cases hzero : t.pointer = 0
      · rw [perform, moveLeft_of_zero hzero]
        rfl
      · obtain ⟨hlt, hmove⟩ := moveLeft_of_pos hzero
        simp [perform, hmove] at h
  | increment | decrement => simp [perform] at h
  | write value =>
      by_cases hbyte : 0 ≤ value ∧ value ≤ 255
      · simp [perform, write_of_byte t hbyte] at h
      · rw [perform, write_of_not_byte t hbyte]
        rfl

/-- Moves to the right are refused exactly on the last cell that the limit allows. -/
theorem moveRight_refused_iff (t : Tape) :
    (t.perform .moveRight).2 ≠ none ↔ t.limit = some (t.pointer + 1) := by
  rw [Option.ne_none_iff_exists']
  constructor
  · rintro ⟨refused, h⟩
    obtain ⟨fault, hfault, _⟩ := Option.map_eq_some_iff.1 h
    obtain ⟨bound, hlimit, hend, _⟩ := (moveRight_fault_iff t fault).1 hfault
    rw [hlimit, hend]
  · intro hlimit
    have hfault := (moveRight_fault_iff t _).2 ⟨_, hlimit, rfl, rfl⟩
    exact ⟨_, Option.map_eq_some_iff.2 ⟨_, hfault, rfl⟩⟩

theorem moveLeft_refused_iff (t : Tape) :
    (t.perform .moveLeft).2 ≠ none ↔ t.pointer = 0 := by
  by_cases hzero : t.pointer = 0
  · simp [perform, moveLeft_of_zero hzero, hzero]
  · obtain ⟨hlt, hmove⟩ := moveLeft_of_pos hzero
    simp [perform, hmove, hzero]

theorem write_refused_iff (t : Tape) (value : Int) :
    (t.perform (.write value)).2 ≠ none ↔ ¬ (0 ≤ value ∧ value ≤ 255) := by
  by_cases hbyte : 0 ≤ value ∧ value ≤ 255
  · simp [perform, write_of_byte t hbyte, hbyte]
  · simp [perform, write_of_not_byte t hbyte, hbyte]

end Tape

end TapeMachine
