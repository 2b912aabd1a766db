/-
  Runs of an exact length.

  A machine takes a number of steps, and then it has halted, or raises something, or goes
  on.  Main statements: such steps can be put together and cut short, and they tell how
  every run that is long enough ends; runs that end, end in one way.
-/
import TapeMachine.Proofs.Stepping

set_option autoImplicit false

namespace TapeMachine

/-- The fault with which an error stops a machine for good. -/
def Raised.fault? : Raised → Option Fault
  | .fault own => some own
  | _ => none

/-- An error that is foreseen stops the machine, unless it is a foreign one of its port. -/
theorem Foreseen.fault?_ne_none {π : Type} [Port π] {port : π} {error : Raised}
    (h : Foreseen port error) (hforeign : ∀ own, ¬ Port.Raises port (.foreign own)) :
    error.fault? ≠ none := by
  cases h with
  | underflow index => simp [Raised.fault?]
  | overflow limit => simp [Raised.fault?]
  | failure cause => simp [Raised.fault?]
  | passed own hraises =>
      cases own with
      | failure cause => simp [Raised.ofPort, Raised.fault?]
      | fault own => simp [Raised.ofPort, Raised.fault?]
      | foreign own => exact absurd hraises (hforeign own)

namespace Machine

variable {π : Type} [Port π] {n k : Nat} {m middle after : Machine π} {error : Raised}

/-! ## Steps taken -/

/-- The machine completes a number of instructions and becomes another one. -/
inductive Takes : Nat → Machine π → Machine π → Prop
  | stay (m : Machine π) : Takes 0 m m
  | next {n : Nat} {m middle after : Machine π} (hstate : m.state = .running)
      (hstep : m.step = (middle, none)) (h : Takes n middle after) : Takes (n + 1) m after

/-- The machine completes a number of instructions, and the one behind them raises an
error and leaves another machine behind. -/
def Fails (n : Nat) (m : Machine π) (error : Raised) (after : Machine π) : Prop :=
  ∃ last, Takes n m last ∧ last.step = (after, some error)

namespace Takes

theorem one (hstate : m.state = .running) (hstep : m.step = (after, none)) : Takes 1 m after :=
  .next hstate hstep (.stay after)

theorem trans (h : Takes n m middle) (h' : Takes k middle after) : Takes (n + k) m after := by
  induction h with
  | stay => rwa [Nat.zero_add]
  | next hstate hstep _ ih =>
      rw [Nat.add_right_comm]
      exact .next hstate hstep (ih h')

theorem fails (h : Takes n m middle) (h' : Fails k middle error after) :
    Fails (n + k) m error after := by
  obtain ⟨last, hlast, hraises⟩ := h'
  exact ⟨last, h.trans hlast, hraises⟩

/-- The steps taken begin with any smaller number of them. -/
theorem exists_take_of_le (h : Takes n m after) (hle : k ≤ n) : ∃ middle, Takes k m middle := by
  induction h generalizing k with
  | stay m =>
      obtain rfl := Nat.le_zero.1 hle
      exact ⟨m, .stay m⟩
  | @next _ m _ _ hstate hstep _ ih =>
      cases k with
      | zero => exact ⟨m, .stay m⟩
      | succ k =>
          obtain ⟨middle, hmiddle⟩ := ih (Nat.le_of_succ_le_succ hle)
          exact ⟨middle, .next hstate hstep hmiddle⟩

theorem running_of_succ (h : Takes (n + 1) m after) : m.state = .running := by
  cases h with
  | next hstate _ _ => exact hstate

theorem running (h : Takes n m after) (hafter : after.state = .running) : m.state = .running := by
  cases h with
  | stay => exact hafter
  | next hstate _ _ => exact hstate

/-- What every step keeps is kept by the steps taken. -/
theorem invariant {P : Machine π → Prop} (h : Takes n m after)
    (hstep : ∀ m : Machine π, P m → P m.step.1) (hm : P m) : P after := by
  induction h with
  | stay => exact hm
  | next _ hmiddle _ ih =>
      have hnext := hstep _ hm
      rw [hmiddle] at hnext
      exact ih hnext

end Takes

/-! ## Calls of step -/

/-- The machine after a number of calls of step. -/
def stepTimes : Nat → Machine π → Machine π
  | 0, m => m
  | n + 1, m => stepTimes n m.step.1

theorem stepTimes_of_takes (h : Takes n m after) : m.stepTimes n = after := by
  induction h with
  | stay => rfl
  | next _ hstep _ ih =>
      rw [stepTimes, hstep]
      exact ih

theorem stepTimes_succ (n : Nat) (m : Machine π) :
    m.stepTimes (n + 1) = (m.stepTimes n).step.1 := by
  induction n generalizing m with
  | zero => rfl
  | succ n ih => exact ih m.step.1

theorem stepTimes_add (n k : Nat) (m : Machine π) :
    m.stepTimes (n + k) = (m.stepTimes n).stepTimes k := by
  induction n generalizing m with
  | zero => rw [Nat.zero_add, stepTimes]
  | succ n ih =>
      rw [Nat.add_right_comm]
      exact ih m.step.1

/-- What every step keeps is kept by calls of step. -/
theorem stepTimes_invariant {P : Machine π → Prop} (hstep : ∀ m : Machine π, P m → P m.step.1)
    (hm : P m) (n : Nat) : P (m.stepTimes n) := by
  induction n generalizing m with
  | zero => exact hm
  | succ n ih => exact ih (hstep m hm)

/-- Before each of the steps taken the machine is running. -/
theorem running_stepTimes_of_takes (h : Takes (n + 1) m after) :
    (m.stepTimes n).state = .running := by
  induction n generalizing m with
  | zero => exact h.running_of_succ
  | succ n ih =>
      cases h with
      | next _ hstep hrest =>
          rw [stepTimes, hstep]
          exact ih hrest

/-- How many of a number of calls of step are made of a machine with the property. -/
def callsWhere (P : Machine π → Prop) [DecidablePred P] (m : Machine π) (n : Nat) : Nat :=
  (List.range n).countP fun k => decide (P (m.stepTimes k))

theorem callsWhere_succ (P : Machine π → Prop) [DecidablePred P] (m : Machine π) (n : Nat) :
    m.callsWhere P (n + 1) = m.callsWhere P n + if P (m.stepTimes n) then 1 else 0 := by
  simp [callsWhere, List.range_succ, List.countP_append, List.countP_cons]

theorem callsWhere_mono (P : Machine π → Prop) [DecidablePred P] (m : Machine π) (h : n ≤ k) :
    m.callsWhere P n ≤ m.callsWhere P k := by
  induction h with
  | refl => exact Nat.le_refl _
  | @step k _ ih =>
      rw [callsWhere_succ]
      exact Nat.le_add_right_of_le ih

/-! ## Runs that end -/

theorem runFor_succ (fuel : Nat) (m : Machine π) :
    m.runFor (fuel + 1) =
      match m.step.2 with
      | some error => (m.step.1, .raised error)
      | none =>
          if m.step.1.state = .running then m.step.1.runFor fuel
          else (m.step.1, .halted m.step.1.result) := by
  rw [runFor]
  rcases m.step with ⟨after, _ | error⟩ <;> rfl

/-- A running machine that raises nothing is run by running what its step leaves behind. -/
theorem runFor_succ_of_step {fuel : Nat} (hstep : m.step = (middle, none))
    (hrunning : middle.state = .running) : m.runFor (fuel + 1) = middle.runFor fuel := by
  rw [runFor, hstep]
  simp [hrunning]

/-- A run that halts gives the result of the machine that it leaves behind. -/
theorem result_of_runFor_halted {fuel : Nat} {result : RunResult}
    (h : (m.runFor fuel).2 = .halted result) : result = (m.runFor fuel).1.result := by
  induction fuel generalizing m with
  | zero => simp [runFor] at h
  | succ fuel ih =>
      rw [runFor_succ] at h ⊢
      split at h
      · simp at h
      · split at h
        · rename_i hrunning
          simp only [if_pos hrunning]
          exact ih h
        · rename_i hidle
          simp only [if_neg hidle]
          exact (Verdict.halted.inj h).symm

theorem runFor_of_takes_halted (h : Takes n m after) (hhalted : after.state = .halted) :
    m.runFor (n + 1) = (after, .halted after.result) := by
  induction h with
  | stay m =>
      have hidle : m.state ≠ .running := by simp [hhalted]
      rw [runFor, step_of_not_running hidle]
      simp [hidle]
  | @next n _ middle _ _ hstep hrest ih =>
      cases n with
      | zero =>
          cases hrest with
          | stay => simp [runFor, hstep, hhalted]
      | succ n => rw [runFor_succ_of_step hstep hrest.running_of_succ, ih hhalted]

theorem running_of_raises (h : m.step = (after, some error)) : m.state = .running := by
  by_cases hstate : m.state = .running
  · exact hstate
  · simp [step_of_not_running hstate] at h

/-- A step that raises something leaves the machine as it was, apart from its port, and keeps
the fault that it raises. -/
theorem eq_of_raises (h : m.step.2 = some error) :
    m.step.1 = { m with port := m.step.1.port, fault := error.fault? } := by
  have hrunning : m.state = .running := running_of_raises (Prod.ext rfl h)
  have hfault := ((state_running_iff m).1 hrunning).1
  cases hfetch : m.program.fetch? m.index with
  | none =>
      rw [step, if_pos hrunning, hfetch] at h ⊢
      obtain rfl := Option.some.inj h
      simp [Raised.fault?, ← hfault]
  | some x =>
      have hexecutes := x.executes m.program.jumps m.index m.tape m.port
      rw [step_of_fetch hrunning hfetch] at h ⊢
      generalize x.execute m.program.jumps m.index m.tape m.port = effect at h hexecutes ⊢
      obtain ⟨tape, port, error' | next⟩ := effect
      · obtain rfl : tape = m.tape := hexecutes.tape_of_error rfl
        cases error' with
        | fault own | noTarget index | noInstruction index | foreign own =>
            obtain rfl := Option.some.inj h
            rfl
      · simp [settle] at h

/-- A step that raises nothing leaves a machine without a fault. -/
theorem fault_step_of_not_raises (hfault : m.fault = none) (h : m.step.2 = none) :
    m.step.1.fault = none := by
  revert h
  apply step_cases (motive := fun result => result.2 = none → result.1.fault = none)
  case idle => exact fun _ _ => hfault
  case lost => exact fun _ _ h => by simp at h
  case goes => exact fun _ _ _ _ _ _ => rfl
  case raises => exact fun _ _ _ _ _ _ h => by simp at h

theorem runFor_of_fails (h : Fails n m error after) :
    m.runFor (n + 1) = (after, .raised error) := by
  obtain ⟨last, hlast, hraises⟩ := h
  induction hlast with
  | stay => rw [runFor, hraises]
  | next _ hstep hrest ih =>
      have hrunning := hrest.running (running_of_raises hraises)
      rw [runFor_succ_of_step hstep hrunning, ih hraises]

/-- A run that raises something has completed instructions up to the one that raises it. -/
theorem exists_fails_of_runFor {fuel : Nat} (h : m.runFor fuel = (after, .raised error)) :
    ∃ n, n < fuel ∧ Fails n m error after := by
  induction fuel generalizing m with
  | zero => cases h
  | succ fuel ih =>
      cases hstep : m.step with
      | mk next raised =>
          rw [runFor, hstep] at h
          cases raised with
          | some own =>
              obtain ⟨rfl, hown⟩ := Prod.mk.inj h
              obtain rfl := Verdict.raised.inj hown
              exact ⟨0, Nat.succ_pos fuel, m, .stay m, hstep⟩
          | none =>
              dsimp only at h
              split at h
              case isTrue hrunning =>
                obtain ⟨n, hn, last, hlast, hraises⟩ := ih h
                have hstate : m.state = .running := by
                  by_cases hstate : m.state = .running
                  · exact hstate
                  · rw [step_of_not_running hstate] at hstep
                    obtain ⟨rfl, _⟩ := Prod.mk.inj hstep
                    exact hrunning
                exact ⟨n + 1, Nat.succ_lt_succ hn, last, .next hstate hstep hlast, hraises⟩
              case isFalse => cases h

/-- A machine that can take one step more has not ended its run. -/
theorem runFor_unfinished_of_takes (h : Takes (n + 1) m after) :
    (m.runFor n).2 = .unfinished := by
  induction n generalizing m with
  | zero => rfl
  | succ n ih =>
      cases h with
      | next _ hstep hrest => rw [runFor_succ_of_step hstep hrest.running_of_succ, ih hrest]

/-- A run that has ended ends in the same way with more fuel. -/
theorem runFor_add {fuel : Nat} {verdict : Verdict} (h : m.runFor fuel = (after, verdict))
    (hverdict : verdict ≠ .unfinished) (more : Nat) :
    m.runFor (fuel + more) = (after, verdict) := by
  induction fuel generalizing m with
  | zero =>
      simp only [runFor, Prod.mk.injEq] at h
      exact absurd h.2.symm hverdict
  | succ fuel ih =>
      rw [Nat.add_right_comm, runFor]
      rw [runFor] at h
      split at h
      · exact h
      · split at h
        · rename_i hrunning
          simp only [hrunning, if_true]
          exact ih h
        · rename_i hidle
          simp only [hidle, if_false]
          exact h

/-- Runs that end, end in one way. -/
theorem runFor_unique {fuel fuel' : Nat} {result result' : Machine π × Verdict}
    (h : m.runFor fuel = result) (h' : m.runFor fuel' = result')
    (hended : result.2 ≠ .unfinished) (hended' : result'.2 ≠ .unfinished) : result = result' := by
  have hmore := runFor_add h hended fuel'
  have hmore' := runFor_add h' hended' fuel
  rw [Nat.add_comm, hmore] at hmore'
  exact hmore'

theorem run_of_fault_eq_none (h : m.fault = none) (fuel : Nat) : m.run fuel = m.runFor fuel := by
  rw [run, h]

/-- A call of run that has ended ends in the same way with more fuel. -/
theorem run_add {fuel : Nat} {verdict : Verdict} (h : m.run fuel = (after, verdict))
    (hverdict : verdict ≠ .unfinished) (more : Nat) : m.run (fuel + more) = (after, verdict) := by
  cases hfault : m.fault with
  | some own => rwa [run, hfault] at h ⊢
  | none =>
      rw [run_of_fault_eq_none hfault] at h ⊢
      exact runFor_add h hverdict more

end Machine

end TapeMachine
