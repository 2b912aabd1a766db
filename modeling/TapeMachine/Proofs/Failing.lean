/-
  When a step fails.

  Main statement: a step turns a machine failed exactly when the pointer would leave the tape
  or the port fails to take or to give a byte.  Whatever a step raises, the machine stays as
  it was, apart from its port and from the fault that it keeps; what is no fault leaves it
  running.
-/
import TapeMachine.Port.Stream
import TapeMachine.Proofs.ExactRuns

set_option autoImplicit false

namespace TapeMachine

/-! ## One instruction -/

namespace Instruction

variable {π : Type} [Port π]

/-- The fault with which an instruction fails, and when. -/
inductive FailsWith (index : Int) (tape : Tape) (port : π) : Instruction → Fault → Prop
  /-- There is nothing left of the first cell. -/
  | underflow (h : tape.pointer = 0) :
      FailsWith index tape port .moveLeft (.underflow (some index))
  /-- The pointer is on the last cell that the limit allows. -/
  | overflow (bound : Nat) (hlimit : tape.limit = some bound) (h : tape.pointer + 1 = bound) :
      FailsWith index tape port .moveRight (.overflow bound)
  /-- The port fails to take the current cell. -/
  | write (cause : PortFailure)
      (h : (Port.write port tape.current.toNat).2 = .error (.failure cause)) :
      FailsWith index tape port .output (.port cause)
  /-- The port fails to give a value. -/
  | read (cause : PortFailure) (h : (Port.read port).2 = .error (.failure cause)) :
      FailsWith index tape port .input (.port cause)
  /-- The port gives a value that is no byte. -/
  | noByte (value : Int) (h : (Port.read port).2 = .ok (some value))
      (hvalue : value < 0 ∨ 255 < value) :
      FailsWith index tape port .input (.port (.notByte value))

/-- What an instruction raises that is no fault, and when. -/
inductive PassesOn (jumps : JumpTable) (index : Int) (tape : Tape) (port : π) :
    Instruction → Raised → Prop
  /-- There is no jump to skip the loop with. -/
  | skips (h : tape.current = 0) (hgap : jumps.target? index = none) :
      PassesOn jumps index tape port .loopOpen (.noTarget index)
  /-- There is no jump to repeat the loop with. -/
  | returns (h : tape.current ≠ 0) (hgap : jumps.target? index = none) :
      PassesOn jumps index tape port .loopClose (.noTarget index)
  | write (error : ForeignError)
      (h : (Port.write port tape.current.toNat).2 = .error (.foreign error)) :
      PassesOn jumps index tape port .output (.foreign error)
  | read (error : ForeignError) (h : (Port.read port).2 = .error (.foreign error)) :
      PassesOn jumps index tape port .input (.foreign error)

variable {jumps : JumpTable} {index : Int} {tape : Tape} {port : π} {x : Instruction}

theorem next_of_failsWith {own : Fault} (h : FailsWith index tape port x own) :
    (x.execute jumps index tape port).next = .error (.fault own) := by
  cases h with
  | underflow hzero => rw [execute_moveLeft, Tape.moveLeft_of_zero hzero]
  | overflow bound hlimit hend =>
      have hfault := (tape.moveRight_fault_iff _).2 ⟨bound, hlimit, hend, rfl⟩
      rw [execute_moveRight, hfault]
  | write cause hwrite =>
      rw [execute_output, hwrite]
      rfl
  | read cause hread =>
      rw [execute_input, Port.nextCell, hread]
      rfl
  | noByte value hread hvalue =>
      have hcell := (Tape.cellOf_eq_error_iff value _).2 ⟨hvalue, rfl⟩
      rw [execute_input, Port.nextCell, hread]
      simp only [Option.getD_some, hcell]

theorem next_of_passesOn {error : Raised} (h : PassesOn jumps index tape port x error) :
    (x.execute jumps index tape port).next = .error error := by
  cases h with
  | skips hzero hgap => simp only [execute, if_pos hzero, hgap]
  | returns hzero hgap => simp only [execute, if_neg hzero, hgap]
  | write error hwrite =>
      rw [execute_output, hwrite]
      rfl
  | read error hread =>
      rw [execute_input, Port.nextCell, hread]
      rfl

/-- An input instruction raises something when the port does so or gives no byte. -/
theorem refuses_of_nextCell {error : Raised} (hport : ∀ own, ¬ Port.Raises port (.fault own))
    (h : Port.nextCell port = .error error) :
    (∃ own, error = .fault own ∧ FailsWith index tape port .input own) ∨
      PassesOn jumps index tape port .input error := by
  unfold Port.nextCell at h
  rcases hread : (Port.read port).2 with own | value
  · rw [hread] at h
    obtain rfl := Except.error.inj h
    cases own with
    | failure cause => exact Or.inl ⟨_, rfl, .read cause hread⟩
    | fault own => exact absurd (Or.inl hread) (hport own)
    | foreign own => exact Or.inr (.read own hread)
  · rw [hread] at h
    rcases hcell : Tape.cellOf (value.getD 0) with failure | cell
    · simp only [hcell, Except.error.injEq] at h
      obtain ⟨hvalue, rfl⟩ := (Tape.cellOf_eq_error_iff _ _).1 hcell
      obtain rfl := h
      cases value with
      | none => simp at hvalue
      | some value => exact Or.inl ⟨_, rfl, .noByte value hread hvalue⟩
    · simp [hcell] at h

/-- An instruction raises what it fails with and what it passes on, and nothing else, unless
the port raises a fault of its own. -/
theorem next_eq_error_iff (hport : ∀ own, ¬ Port.Raises port (.fault own)) (error : Raised) :
    (x.execute jumps index tape port).next = .error error ↔
      (∃ own, error = .fault own ∧ FailsWith index tape port x own) ∨
        PassesOn jumps index tape port x error := by
  constructor
  · intro h
    cases x with
    | moveRight =>
        rw [execute_moveRight] at h
        cases hfault : tape.moveRight.2 with
        | none => simp [hfault] at h
        | some own =>
            obtain ⟨bound, hlimit, hend, rfl⟩ := (tape.moveRight_fault_iff own).1 hfault
            simp only [hfault, Except.error.injEq] at h
            exact Or.inl ⟨_, h.symm, .overflow bound hlimit hend⟩
    | moveLeft =>
        rw [execute_moveLeft] at h
        by_cases hzero : tape.pointer = 0
        · simp only [Tape.moveLeft_of_zero hzero, Except.error.injEq] at h
          exact Or.inl ⟨_, h.symm, .underflow hzero⟩
        · obtain ⟨_, hmove⟩ := Tape.moveLeft_of_pos hzero
          simp [hmove] at h
    | increment | decrement => simp [execute] at h
    | output =>
        rw [execute_output] at h
        rcases hwrite : (Port.write port tape.current.toNat).2 with own | done
        · simp only [hwrite, Except.error.injEq] at h
          obtain rfl := h
          cases own with
          | failure cause => exact Or.inl ⟨_, rfl, .write cause hwrite⟩
          | fault own => exact absurd (Or.inr ⟨tape.current, hwrite⟩) (hport own)
          | foreign own => exact Or.inr (.write own hwrite)
        · simp [hwrite] at h
    | input =>
        rw [execute_input] at h
        cases hcell : Port.nextCell port with
        | ok cell => simp [hcell] at h
        | error own =>
            simp only [hcell, Except.error.injEq] at h
            obtain rfl := h
            exact refuses_of_nextCell hport hcell
    | loopOpen =>
        by_cases hzero : tape.current = 0
        · cases hgap : jumps.target? index with
          | some target => simp [execute, hzero, hgap] at h
          | none =>
              simp only [execute, if_pos hzero, hgap, Except.error.injEq] at h
              obtain rfl := h
              exact Or.inr (.skips hzero hgap)
        · simp [execute, hzero] at h
    | loopClose =>
        by_cases hzero : tape.current = 0
        · simp [execute, hzero] at h
        · cases hgap : jumps.target? index with
          | some target => simp [execute, hzero, hgap] at h
          | none =>
              simp only [execute, if_neg hzero, hgap, Except.error.injEq] at h
              obtain rfl := h
              exact Or.inr (.returns hzero hgap)
  · rintro (⟨own, rfl, hfails⟩ | hpasses)
    · exact next_of_failsWith hfails
    · exact next_of_passesOn hpasses

end Instruction

/-! ## One step -/

namespace Machine

variable {π : Type} [Port π] {m : Machine π}

/-- A step fails exactly as its instruction does, and whatever it raises, it changes nothing
but the port and the fault. -/
structure FailsExactly (m : Machine π) : Prop where
  /-- When a step turns the machine failed. -/
  failed_iff : (m.state ≠ .failed ∧ m.step.1.state = .failed) ↔
    m.state = .running ∧ ∃ x own, m.program.fetch? m.index = some x ∧
      x.FailsWith m.index m.tape m.port own
  raised_iff : ∀ error, m.step.2 = some error ↔
    m.state = .running ∧ ∃ x, m.program.fetch? m.index = some x ∧
      ((∃ own, error = .fault own ∧ x.FailsWith m.index m.tape m.port own) ∨
        x.PassesOn m.program.jumps m.index m.tape m.port error)
  eq_of_raises : ∀ error, m.step.2 = some error →
    m.step.1 = { m with port := m.step.1.port, fault := error.fault? }
  running_of_passed : ∀ error, m.step.2 = some error → error.fault? = none →
    m.step.1.fault = none ∧ m.step.1.state = .running

theorem raises_iff_of_index_nonneg (hindex : 0 ≤ m.index)
    (hport : ∀ own, ¬ Port.Raises m.port (.fault own)) (error : Raised) :
    m.step.2 = some error ↔
      m.state = .running ∧ ∃ x, m.program.fetch? m.index = some x ∧
        ((∃ own, error = .fault own ∧ x.FailsWith m.index m.tape m.port own) ∨
          x.PassesOn m.program.jumps m.index m.tape m.port error) := by
  by_cases hstate : m.state = .running
  · obtain ⟨x, hfetch⟩ := exists_fetch_of_index_nonneg hindex hstate
    rw [step_of_fetch hstate hfetch, raised_settle_iff, Instruction.next_eq_error_iff hport]
    simp [hstate, hfetch]
  · rw [step_of_not_running hstate]
    simp [hstate]

theorem failsExactly_of_index_nonneg (hindex : 0 ≤ m.index)
    (hport : ∀ own, ¬ Port.Raises m.port (.fault own)) : FailsExactly m where
  failed_iff := by
    have hraised := raises_iff_of_index_nonneg hindex hport
    constructor
    · rintro ⟨hsound, hfailed⟩
      have hrunning : m.state = .running := by
        by_cases hstate : m.state = .running
        · exact hstate
        · rw [step_of_not_running hstate] at hfailed
          exact absurd hfailed hsound
      obtain ⟨own, hfault⟩ := (state_failed_iff _).1 hfailed
      cases herror : m.step.2 with
      | none =>
          have hnone := fault_step_of_not_raises ((state_running_iff m).1 hrunning).1 herror
          simp [hnone] at hfault
      | some error =>
          rw [eq_of_raises herror] at hfault
          obtain ⟨_, x, hfetch, hrefuses⟩ := (hraised error).1 herror
          obtain ⟨own, -, hfails⟩ | hpasses := hrefuses
          · exact ⟨hrunning, x, own, hfetch, hfails⟩
          · cases hpasses <;> simp [Raised.fault?] at hfault
    · rintro ⟨hrunning, x, own, hfetch, hfails⟩
      have herror := (hraised (.fault own)).2 ⟨hrunning, x, hfetch, Or.inl ⟨own, rfl, hfails⟩⟩
      refine ⟨by simp [hrunning], (state_failed_iff _).2 ⟨own, ?_⟩⟩
      rw [eq_of_raises herror]
      rfl
  raised_iff := raises_iff_of_index_nonneg hindex hport
  eq_of_raises _ := Machine.eq_of_raises
  running_of_passed error herror hpassed := by
    have hrunning : m.state = .running := running_of_raises (Prod.ext rfl herror)
    have hindex := ((state_running_iff m).1 hrunning).2
    rw [Machine.eq_of_raises herror, hpassed]
    exact ⟨rfl, (state_running_iff _).2 ⟨rfl, hindex⟩⟩

/-! ## Every step -/

/-- Where every jump leads into the program or behind it, so does every step. -/
theorem index_nonneg_step
    (htargets : ∀ key target, m.program.jumps.target? key = some target → 0 ≤ target)
    (hindex : 0 ≤ m.index) : 0 ≤ m.step.1.index := by
  apply step_cases (motive := fun result => 0 ≤ result.1.index)
  case idle => exact fun _ => hindex
  case lost => exact fun _ _ => hindex
  case raises => exact fun _ _ _ _ _ _ => hindex
  case goes =>
    intro x next _ _ hnext
    rcases (x.executes _ _ _ _).next_of_ok hnext with
      rfl | ⟨rfl, target, htarget, rfl⟩ | ⟨rfl, htarget⟩
    · exact Int.add_nonneg hindex (by decide)
    · exact Int.add_nonneg (htargets _ _ htarget) (by decide)
    · exact htargets _ _ htarget

theorem program_step (m : Machine π) : m.step.1.program = m.program := by
  apply step_cases (motive := fun result => result.1.program = m.program)
  case idle => exact fun _ => rfl
  case lost => exact fun _ _ => rfl
  case raises => exact fun _ _ _ _ _ _ => rfl
  case goes => exact fun _ _ _ _ _ => rfl

theorem index_nonneg_stepTimes
    (htargets : ∀ key target, m.program.jumps.target? key = some target → 0 ≤ target)
    (hindex : 0 ≤ m.index) (n : Nat) : 0 ≤ (m.stepTimes n).index := by
  have hboth : 0 ≤ (m.stepTimes n).index ∧ (m.stepTimes n).program = m.program := by
    refine stepTimes_invariant (P := fun after => 0 ≤ after.index ∧ after.program = m.program)
      ?_ ⟨hindex, rfl⟩ n
    rintro after ⟨hafter, hprogram⟩
    rw [← hprogram] at htargets
    exact ⟨index_nonneg_step htargets hafter, (program_step after).trans hprogram⟩
  exact hboth.1

/-- With any program and any jump table that leads nowhere in front of it, and over a port that
raises no fault of its own, a machine fails exactly as it should, now and after any number of
steps. -/
theorem failsExactly_stepTimes
    (htargets : ∀ key target, m.program.jumps.target? key = some target → 0 ≤ target)
    (hindex : 0 ≤ m.index) (hport : ∀ (port : π) own, ¬ Port.Raises port (.fault own)) (n : Nat) :
    FailsExactly (m.stepTimes n) :=
  failsExactly_of_index_nonneg (index_nonneg_stepTimes htargets hindex n) (hport _)

end Machine

/-- A port over streams raises nothing but failures. -/
theorem StreamPort.exists_failure_of_raises {port : StreamPort} {error : PortError}
    (h : Port.Raises port error) : ∃ cause, error = .failure cause := by
  rcases h with hread | ⟨byte, hwrite⟩
  · simp only [Port.read, read] at hread
    split at hread
    · simp at hread
    · exact ⟨_, (Except.error.inj hread).symm⟩
    · simp at hread
    · simp at hread
  · simp only [Port.write, write] at hwrite
    split at hwrite
    · exact ⟨_, (Except.error.inj hwrite).symm⟩
    · split at hwrite
      · split at hwrite
        · exact ⟨_, (Except.error.inj hwrite).symm⟩
        · simp at hwrite
      · exact ⟨_, (Except.error.inj hwrite).symm⟩

/-- A machine in the middle of a program that nobody compiled, in front of a closed stream. -/
theorem Machine.failsExactly_stepTimes_closed :
    let m : Machine StreamPort :=
      ⟨⟨#[.loopOpen, .output], ⟨[(0, 9)]⟩⟩, ⟨none, some .closed⟩, Tape.single, 1, 5, none⟩
    (∀ key target, m.program.jumps.target? key = some target → 0 ≤ target) ∧ 0 ≤ m.index ∧
      (∀ (port : StreamPort) own, ¬ Port.Raises port (.fault own)) ∧ FailsExactly m ∧
        m.step.1 = { m with port := m.step.1.port, fault := some (.port .closed) } := by
  intro m
  have htargets : ∀ key target, m.program.jumps.target? key = some target → 0 ≤ target := by
    intro key target htarget
    by_cases hkey : key = 0
    · subst hkey
      obtain rfl := Option.some.inj htarget
      decide
    · simp [m, JumpTable.target?, List.lookup_cons, beq_eq_false_iff_ne.2 hkey] at htarget
  have hport : ∀ (port : StreamPort) own, ¬ Port.Raises port (.fault own) := by
    intro port own hraises
    obtain ⟨cause, hcause⟩ := StreamPort.exists_failure_of_raises hraises
    simp at hcause
  have hexactly : FailsExactly m := failsExactly_stepTimes htargets (by decide) hport 0
  exact ⟨htargets, by decide, hport, hexactly, hexactly.eq_of_raises _ rfl⟩

end TapeMachine
