/-
  Machines driven by hand.

  A machine can be driven one step after another, or run, or both in turn; a run is nothing
  but a number of calls of step.  Main statement: where the port raises nothing that passes
  through the machine, calls of step and then a run end as one run does; a machine that has
  halted or failed stays as it is, whatever is called; the number of steps is the number of
  calls of step that completed an instruction, and a run gives results of halted machines
  only.
-/
import TapeMachine.Proofs.Safety

set_option autoImplicit false

namespace TapeMachine

namespace Machine

variable {π : Type} [Port π] {m after : Machine π}

/-! ## Machines at rest -/

/-- What a call of run says when it has left the machine as it is now. -/
def verdict (m : Machine π) : Verdict :=
  match m.fault with
  | some own => .raised (.fault own)
  | none => if m.state = .running then .unfinished else .halted m.result

omit [Port π] in
theorem verdict_of_running (h : m.state = .running) : m.verdict = .unfinished := by
  rw [verdict, ((state_running_iff m).1 h).1]
  exact if_pos h

omit [Port π] in
theorem verdict_of_halted (h : m.state = .halted) : m.verdict = .halted m.result := by
  rw [verdict, ((state_halted_iff m).1 h).1]
  simp [h]

omit [Port π] in
theorem verdict_of_fault {own : Fault} (h : m.fault = some own) :
    m.verdict = .raised (.fault own) := by
  rw [verdict, h]

omit [Port π] in
/-- All that is kept of what was raised is a fault. -/
theorem exists_fault_of_verdict {error : Raised} (h : m.verdict = .raised error) :
    ∃ own, error = .fault own ∧ m.fault = some own := by
  unfold verdict at h
  cases hfault : m.fault with
  | some own =>
      rw [hfault] at h
      exact ⟨own, (Verdict.raised.inj h).symm, rfl⟩
  | none =>
      rw [hfault] at h
      dsimp only at h
      split at h
      · cases h
      · cases h

omit [Port π] in
/-- A machine that a call of run leaves with a result has halted, and the pointer of the
result is on one of its cells. -/
theorem halted_of_verdict {result : RunResult} (h : m.verdict = .halted result) :
    result = m.result ∧ result.state = .halted ∧ result.pointer < result.cells.length := by
  cases hstate : m.state with
  | running => simp [verdict_of_running hstate] at h
  | failed =>
      obtain ⟨own, hfault⟩ := (state_failed_iff m).1 hstate
      simp [verdict_of_fault hfault] at h
  | halted =>
      rw [verdict_of_halted hstate, Verdict.halted.injEq] at h
      obtain rfl := h
      refine ⟨rfl, hstate, ?_⟩
      simpa [result] using m.tape.pointer_lt_size

theorem stepTimes_of_not_running (h : m.state ≠ .running) (n : Nat) : m.stepTimes n = m := by
  induction n with
  | zero => rfl
  | succ n ih => rw [stepTimes_succ, ih, step_of_not_running h]

theorem run_of_not_running (h : m.state ≠ .running) (fuel : Nat) :
    m.run (fuel + 1) = (m, m.verdict) := by
  cases hfault : m.fault with
  | some own => rw [run, hfault, verdict_of_fault hfault]
  | none =>
      rw [run_of_fault_eq_none hfault, runFor_succ, step_of_not_running h, verdict, hfault]
      simp [h]

/-! ## Calls of step and run -/

/-- The number of calls of step that a run makes while the machine has no fault. -/
def stepCallsFor : (fuel : Nat) → Machine π → Nat
  | 0, _ => 0
  | fuel + 1, m =>
      if m.step.2 = none ∧ m.step.1.state = .running then stepCallsFor fuel m.step.1 + 1 else 1

/-- The number of calls of step that a run makes. -/
def stepCalls (fuel : Nat) (m : Machine π) : Nat :=
  if m.fault.isSome then 0 else stepCallsFor fuel m

/-- A number of calls of step lead from one machine to another.  They are made by hand, or by
a run, which is looked at after any number of its steps. -/
inductive Driven (start : Machine π) : Nat → Machine π → Prop
  | start : Driven start 0 start
  | step {n : Nat} {m : Machine π} (h : Driven start n m) : Driven start (n + 1) m.step.1
  | run {n : Nat} {m : Machine π} (h : Driven start n m) (fuel : Nat) :
      Driven start (n + m.stepCalls fuel) (m.run fuel).1

theorem runFor_eq_stepTimes (fuel : Nat) (m : Machine π) :
    (m.runFor fuel).1 = m.stepTimes (stepCallsFor fuel m) := by
  induction fuel generalizing m with
  | zero => rfl
  | succ fuel ih =>
      rw [runFor_succ, stepCallsFor]
      cases m.step.2 with
      | some error => simp [stepTimes]
      | none =>
          by_cases hnext : m.step.1.state = .running
          · simp only [hnext, and_self, if_true, stepTimes]
            exact ih m.step.1
          · simp [hnext, stepTimes]

/-- A run is as many calls of step as it makes. -/
theorem run_eq_stepTimes (fuel : Nat) (m : Machine π) :
    (m.run fuel).1 = m.stepTimes (m.stepCalls fuel) := by
  cases hfault : m.fault with
  | some own =>
      rw [run, stepCalls, hfault]
      rfl
  | none =>
      rw [run_of_fault_eq_none hfault, runFor_eq_stepTimes, stepCalls, hfault]
      rfl

theorem Driven.eq_stepTimes {n : Nat} (h : Driven m n after) : after = m.stepTimes n := by
  induction h with
  | start => rfl
  | step _ ih => rw [stepTimes_succ, ih]
  | run _ fuel ih => rw [run_eq_stepTimes, stepTimes_add, ← ih]

/-! ## Machines that stay as they are -/

/-- A machine that calls of step and run leave as it is.  A step raises nothing, and a run
gives the result again or raises the fault again. -/
structure Rests (m : Machine π) : Prop where
  eq_of_driven : ∀ n after, Driven m n after → after = m
  step_eq : m.step = (m, none)
  run_of_halted : m.state = .halted → ∀ fuel, m.run (fuel + 1) = (m, .halted m.result)
  run_of_fault : ∀ own, m.fault = some own → ∀ fuel, m.run fuel = (m, .raised (.fault own))

theorem rests_of_not_running (h : m.state ≠ .running) : Rests m where
  eq_of_driven n after hafter := by rw [hafter.eq_stepTimes, stepTimes_of_not_running h]
  step_eq := step_of_not_running h
  run_of_halted hhalted fuel := by rw [run_of_not_running h, verdict_of_halted hhalted]
  run_of_fault own hfault fuel := by rw [run, hfault]

/-! ## Instructions completed -/

/-- The next call of step completes an instruction. -/
def Completes (m : Machine π) : Prop := m.state = .running ∧ m.step.2 = none

instance (m : Machine π) : Decidable m.Completes :=
  inferInstanceAs (Decidable (_ ∧ _))

theorem steps_step (m : Machine π) :
    m.step.1.steps = m.steps + if m.Completes then 1 else 0 := by
  simp only [Completes]
  apply step_cases (motive := fun result =>
    result.1.steps = m.steps + if m.state = .running ∧ result.2 = none then 1 else 0)
  case idle => exact fun hstate => by simp [hstate]
  case lost => exact fun _ _ => by simp
  case goes => exact fun _ _ hstate _ _ => by simp [hstate]
  case raises => exact fun _ _ _ _ _ _ => by simp

/-- The number of steps is the number of calls of step that completed an instruction. -/
theorem steps_stepTimes (m : Machine π) (n : Nat) :
    (m.stepTimes n).steps = m.steps + m.callsWhere Completes n := by
  induction n with
  | zero => rfl
  | succ n ih => rw [stepTimes_succ, steps_step, ih, callsWhere_succ, Nat.add_assoc]

/-! ## Runs to the end -/

section Faults

variable {program : Program} (hprogram : program.jumps.Resolves program.instructions)
  (hforeign : ∀ (port : π) error, ¬ Port.Raises port (.foreign error))

include hprogram hforeign

/-- Whatever is raised within the program is a fault, which stops the machine. -/
theorem Within.exists_fault_of_raises (h : Within program m) {error : Raised}
    (hraised : m.step.2 = some error) : ∃ own, error = .fault own ∧ m.step.1.fault = some own := by
  have hforeseen := foreseen_of_step hprogram h (Prod.ext rfl hraised)
  have hfault : m.step.1.fault = error.fault? := by rw [eq_of_raises hraised]
  cases error with
  | fault own => exact ⟨own, rfl, hfault⟩
  | noTarget index | noInstruction index | foreign own =>
      exact absurd rfl (hforeseen.fault?_ne_none (hforeign m.port))

/-- A run of a running machine is as many calls of step.  Those behind its end change
nothing. -/
theorem Within.runFor_eq (h : Within program m) (hstate : m.state = .running) (fuel : Nat) :
    m.runFor fuel = (m.stepTimes fuel, (m.stepTimes fuel).verdict) := by
  induction fuel generalizing m with
  | zero => exact Prod.ext rfl (verdict_of_running hstate).symm
  | succ fuel ih =>
      rw [runFor_succ, stepTimes]
      cases hraised : m.step.2 with
      | some error =>
          obtain ⟨own, rfl, hfault⟩ := h.exists_fault_of_raises hprogram hforeign hraised
          have hfailed : m.step.1.state ≠ .running := by
            rw [(state_failed_iff _).2 ⟨own, hfault⟩]
            simp
          rw [stepTimes_of_not_running hfailed, verdict_of_fault hfault]
      | none =>
          have hfault := fault_step_of_not_raises ((state_running_iff m).1 hstate).1 hraised
          by_cases hnext : m.step.1.state = .running
          · simp only [if_pos hnext]
            exact ih (within_step hprogram h) hnext
          · rw [stepTimes_of_not_running hnext, verdict, hfault]
            simp [hnext]

theorem Within.run_eq (h : Within program m) (fuel : Nat) :
    m.run (fuel + 1) = (m.stepTimes (fuel + 1), (m.stepTimes (fuel + 1)).verdict) := by
  by_cases hstate : m.state = .running
  · rw [run_of_fault_eq_none ((state_running_iff m).1 hstate).1]
    exact h.runFor_eq hprogram hforeign hstate (fuel + 1)
  · rw [run_of_not_running hstate, stepTimes_of_not_running hstate]

/-- A run that has ended says what the machine that it leaves behind comes to. -/
theorem Within.verdict_of_ended (h : Within program m) {fuel : Nat} {verdict : Verdict}
    (hrun : m.run fuel = (after, verdict)) (hverdict : verdict ≠ .unfinished) :
    after.verdict = verdict := by
  have hmore := run_add hrun hverdict 1
  rw [h.run_eq hprogram hforeign, Prod.mk.injEq] at hmore
  obtain ⟨rfl, hafter⟩ := hmore
  exact hafter

/-- Calls of step and then a run are one run, with as much more fuel. -/
theorem Within.run_stepTimes (h : Within program m) (k fuel : Nat) :
    (m.stepTimes k).run (fuel + 1) = m.run (k + (fuel + 1)) := by
  have hk := within_stepTimes hprogram h k
  have hrun := h.run_eq hprogram hforeign (k + fuel)
  rw [Nat.add_assoc] at hrun
  rw [hk.run_eq hprogram hforeign, hrun, stepTimes_add k (fuel + 1)]

end Faults

/-! ## Driving a compiled program -/

/-- However the machine is driven, by calls of step and of run, it does the same. -/
structure DrivenAlike (m : Machine π) : Prop where
  /-- Calls of step and then a run end as one run does. -/
  ends_iff : ∀ k after verdict, verdict ≠ .unfinished →
    ((∃ fuel, (m.stepTimes k).run fuel = (after, verdict)) ↔ ∃ fuel, m.run fuel = (after, verdict))
  unfinished_iff : ∀ k, (∀ fuel, ((m.stepTimes k).run fuel).2 = .unfinished) ↔
    ∀ fuel, (m.run fuel).2 = .unfinished
  rests : ∀ n after, Driven m n after → after.state ≠ .running → Rests after
  /-- Of the calls of step, those that completed an instruction are counted. -/
  steps_eq : ∀ n after, Driven m n after → after.steps = m.steps + m.callsWhere Completes n
  halted_of_result : ∀ n after fuel result, Driven m n after →
    (after.run fuel).2 = .halted result →
      result = (after.run fuel).1.result ∧ result.state = .halted ∧
        result.pointer < result.cells.length

section Proofs

variable {program : Program} (hprogram : program.jumps.Resolves program.instructions)
  (hforeign : ∀ (port : π) error, ¬ Port.Raises port (.foreign error))

include hprogram hforeign

theorem Within.ends_iff (h : Within program m) (k : Nat) {verdict : Verdict}
    (hverdict : verdict ≠ .unfinished) :
    (∃ fuel, (m.stepTimes k).run fuel = (after, verdict)) ↔
      ∃ fuel, m.run fuel = (after, verdict) := by
  constructor
  · rintro ⟨fuel, hfuel⟩
    refine ⟨k + (fuel + 1), ?_⟩
    rw [← h.run_stepTimes hprogram hforeign]
    exact run_add hfuel hverdict 1
  · rintro ⟨fuel, hfuel⟩
    refine ⟨fuel + 1, ?_⟩
    rw [h.run_stepTimes hprogram hforeign, Nat.add_left_comm]
    exact run_add hfuel hverdict (k + 1)

theorem Within.unfinished_iff (h : Within program m) (k : Nat) :
    (∀ fuel, ((m.stepTimes k).run fuel).2 = .unfinished) ↔
      ∀ fuel, (m.run fuel).2 = .unfinished := by
  constructor
  · intro hunfinished fuel
    by_contra hended
    obtain ⟨fuel', hfuel⟩ := (h.ends_iff hprogram hforeign k hended).2 ⟨fuel, rfl⟩
    exact hended (by rw [← hunfinished fuel', hfuel])
  · intro hunfinished fuel
    by_contra hended
    obtain ⟨fuel', hfuel⟩ := (h.ends_iff hprogram hforeign k hended).1 ⟨fuel, rfl⟩
    exact hended (by rw [← hunfinished fuel', hfuel])

theorem Within.halted_of_result (h : Within program m) {fuel : Nat} {result : RunResult}
    (hresult : (m.run fuel).2 = .halted result) :
    result = (m.run fuel).1.result ∧ result.state = .halted ∧
      result.pointer < result.cells.length := by
  have hrun : m.run fuel = ((m.run fuel).1, .halted result) := Prod.ext rfl hresult
  exact halted_of_verdict (h.verdict_of_ended hprogram hforeign hrun (by simp))

theorem Within.drivenAlike (h : Within program m) : DrivenAlike m where
  ends_iff k _ _ hverdict := h.ends_iff hprogram hforeign k hverdict
  unfinished_iff k := h.unfinished_iff hprogram hforeign k
  rests _ _ _ hstate := rests_of_not_running hstate
  steps_eq n _ hafter := by rw [hafter.eq_stepTimes, steps_stepTimes]
  halted_of_result n _ _ _ hafter hresult := by
    obtain rfl := hafter.eq_stepTimes
    exact (within_stepTimes hprogram h n).halted_of_result hprogram hforeign hresult

end Proofs

/-- A machine in front of a compiled program, over a port that raises nothing but failures
and faults, can be driven in any way. -/
theorem drivenAlike_of_compile {source : String} {program : Program}
    (h : Program.compile source = .ok program)
    (hforeign : ∀ (port : π) error, ¬ Port.Raises port (.foreign error)) (tape : Tape) (port : π) :
    DrivenAlike (start program port tape) :=
  (within_start program port tape).drivenAlike (Program.resolves_of_compile h) hforeign

/-- A program that moves off the tape, whether it is stepped before or not. -/
theorem drivenAlike_of_compile_underflow : ∃ program, Program.compile "+[.<]" = .ok program ∧
    (∀ (port : BufferPort) error, ¬ Port.Raises port (.foreign error)) ∧
    DrivenAlike (start program (BufferPort.ofInput []) Tape.single) ∧
    ∃ after fuel, ((start program (BufferPort.ofInput []) Tape.single).stepTimes 3).run fuel =
      (after, .raised (.fault (.underflow (some 3)))) := by
  have hcompile : Program.compile "+[.<]" = .ok
      ⟨#[.increment, .loopOpen, .output, .moveLeft, .loopClose], ⟨[(1, 4), (4, 1)]⟩⟩ := rfl
  have halike := drivenAlike_of_compile hcompile BufferPort.not_raises_foreign Tape.single
    (BufferPort.ofInput [])
  have hends := (halike.ends_iff 3 _ (.raised (.fault (.underflow (some 3)))) (by simp)).2
    ⟨4, rfl⟩
  exact ⟨_, hcompile, BufferPort.not_raises_foreign, halike, _, hends⟩

end Machine

end TapeMachine
