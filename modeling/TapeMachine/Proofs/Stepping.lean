/-
  Machines step by step.

  What one instruction can do, what one step of a machine is, and what calls of step and
  run keep.  Main statements: an instruction goes on behind itself or follows a jump, it
  raises nothing that is not foreseen unless the jump table has a gap, and what every step
  keeps holds of every machine that such calls lead to.
-/
import TapeMachine.Machine
import TapeMachine.Proofs.Moves

set_option autoImplicit false

namespace TapeMachine

/-! ## What a port can raise -/

/-- The port raises the error when it is asked to read, or to write a byte. -/
def Port.Raises {π : Type} [Port π] (port : π) (error : PortError) : Prop :=
  (Port.read port).2 = .error error ∨
    ∃ byte : UInt8, (Port.write port byte.toNat).2 = .error error

/-- What a machine may raise in front of a port: the pointer cannot leave the tape, the port
fails, or the port raises an error of its own.  Neither a wrong bracket nor a missing jump or
instruction is among them. -/
inductive Foreseen {π : Type} [Port π] (port : π) : Raised → Prop
  | underflow (index : Int) : Foreseen port (.fault (.underflow (some index)))
  | overflow (limit : Int) : Foreseen port (.fault (.overflow limit))
  | failure (cause : PortFailure) : Foreseen port (.fault (.port cause))
  | passed (error : PortError) (h : Port.Raises port error) : Foreseen port (.ofPort error)

/-- The cell that a read of the port gives, or what is raised instead.  The end of the input
gives a zero cell. -/
def Port.nextCell {π : Type} [Port π] (port : π) : Except Raised UInt8 :=
  match (Port.read port).2 with
  | .error error => .error (.ofPort error)
  | .ok value =>
      match Tape.cellOf (value.getD 0) with
      | .ok cell => .ok cell
      | .error failure => .error (.fault (.port failure))

/-! ## One instruction -/

namespace Instruction

variable {π : Type} [Port π]

/-- A port that an instruction leaves behind: as it was, or read from, or with the current
cell written to it. -/
def Touched (tape : Tape) (port after : π) : Prop :=
  after = port ∨ after = (Port.read port).1 ∨
    after = (Port.write port tape.current.toNat).1

/-- What executing an instruction can leave behind: it goes on behind itself, or a bracket
follows its jump, or something is raised and the tape stays as it was. -/
inductive Executes (jumps : JumpTable) (index : Int) (tape : Tape) (port : π) :
    Instruction → Effect π → Prop
  | goes (x : Instruction) (tape' : Tape) (port' : π) (hport : Touched tape port port') :
      Executes jumps index tape port x ⟨tape', port', .ok (index + 1)⟩
  | skips (target : Int) (h : jumps.target? index = some target) :
      Executes jumps index tape port .loopOpen ⟨tape, port, .ok (target + 1)⟩
  | returns (target : Int) (h : jumps.target? index = some target) :
      Executes jumps index tape port .loopClose ⟨tape, port, .ok target⟩
  | raises (x : Instruction) (error : Raised) (port' : π) (hport : Touched tape port port')
      (h : Foreseen port error) :
      Executes jumps index tape port x ⟨tape, port', .error error⟩
  /-- The jump table has a gap. -/
  | lost (x : Instruction) (hbracket : x = .loopOpen ∨ x = .loopClose)
      (h : jumps.target? index = none) :
      Executes jumps index tape port x ⟨tape, port, .error (.noTarget index)⟩

theorem executes (x : Instruction) (jumps : JumpTable) (index : Int) (tape : Tape) (port : π) :
    Executes jumps index tape port x (x.execute jumps index tape port) := by
  have hsame : Touched tape port port := Or.inl rfl
  cases x with
  | moveRight =>
      rcases hmove : tape.moveRight with ⟨tape', _ | fault⟩
      · simp only [execute, hmove]
        exact .goes _ _ _ hsame
      · have htape : tape' = tape := by
          simpa [hmove] using tape.moveRight_of_fault (congrArg Prod.snd hmove)
        obtain ⟨bound, _, _, rfl⟩ := (tape.moveRight_fault_iff fault).1 (congrArg Prod.snd hmove)
        simp only [execute, hmove, htape]
        exact .raises _ _ _ hsame (.overflow bound)
  | moveLeft =>
      simp only [execute, Tape.moveLeft]
      by_cases hzero : tape.pointer = 0
      · rw [if_pos hzero]
        exact .raises _ _ _ hsame (.underflow index)
      · rw [if_neg hzero]
        exact .goes _ _ _ hsame
  | increment | decrement => exact .goes _ _ _ hsame
  | output =>
      rcases hwrite : Port.write port tape.current.toNat with ⟨port', error | done⟩
      · simp only [execute, hwrite]
        exact .raises _ _ _ (Or.inr (Or.inr (by rw [hwrite])))
          (.passed error (Or.inr ⟨tape.current, by rw [hwrite]⟩))
      · simp only [execute, hwrite]
        exact .goes _ _ _ (Or.inr (Or.inr (by rw [hwrite])))
  | input =>
      have hread : Touched tape port (Port.read port).1 := Or.inr (Or.inl rfl)
      rcases hresult : Port.read port with ⟨port', error | value⟩
      · rw [hresult] at hread
        simp only [execute, hresult]
        exact .raises _ _ _ hread (.passed error (Or.inl (by rw [hresult])))
      · rw [hresult] at hread
        cases hcell : Tape.cellOf (value.getD 0) with
        | error failure =>
            simp only [execute, hresult, hcell]
            exact .raises _ _ _ hread (.failure failure)
        | ok cell =>
            simp only [execute, hresult, hcell]
            exact .goes _ _ _ hread
  | loopOpen =>
      by_cases hzero : tape.current = 0
      · cases htarget : jumps.target? index with
        | none =>
            simp only [execute, if_pos hzero, htarget]
            exact .lost _ (Or.inl rfl) htarget
        | some target =>
            simp only [execute, if_pos hzero, htarget]
            exact .skips target htarget
      · simp only [execute, if_neg hzero]
        exact .goes _ _ _ hsame
  | loopClose =>
      by_cases hzero : tape.current = 0
      · simp only [execute, if_pos hzero]
        exact .goes _ _ _ hsame
      · cases htarget : jumps.target? index with
        | none =>
            simp only [execute, if_neg hzero, htarget]
            exact .lost _ (Or.inr rfl) htarget
        | some target =>
            simp only [execute, if_neg hzero, htarget]
            exact .returns target htarget

/-- A move to the right raises the fault of the tape. -/
theorem execute_moveRight (jumps : JumpTable) (index : Int) (tape : Tape) (port : π) :
    moveRight.execute jumps index tape port = ⟨tape.moveRight.1, port,
      match tape.moveRight.2 with
      | none => .ok (index + 1)
      | some fault => .error (.fault fault)⟩ := by
  rcases hmove : tape.moveRight with ⟨tape', _ | fault⟩
  · simp only [execute, hmove]
  · simp only [execute, hmove]

/-- A move to the left that fails names the place of the instruction. -/
theorem execute_moveLeft (jumps : JumpTable) (index : Int) (tape : Tape) (port : π) :
    moveLeft.execute jumps index tape port = ⟨tape.moveLeft.1, port,
      match tape.moveLeft.2 with
      | none => .ok (index + 1)
      | some _ => .error (.fault (.underflow (some index)))⟩ := by
  rcases hmove : tape.moveLeft with ⟨tape', _ | fault⟩
  · simp only [execute, hmove]
  · simp only [execute, hmove]

/-- An output instruction raises what the port raises. -/
theorem execute_output (jumps : JumpTable) (index : Int) (tape : Tape) (port : π) :
    output.execute jumps index tape port = ⟨tape, (Port.write port tape.current.toNat).1,
      match (Port.write port tape.current.toNat).2 with
      | .ok _ => .ok (index + 1)
      | .error error => .error (.ofPort error)⟩ := by
  rcases hwrite : Port.write port tape.current.toNat with ⟨port', error | done⟩
  · simp only [execute, hwrite]
  · simp only [execute, hwrite]

/-- An input instruction fills the current cell when the port has a byte for it. -/
theorem execute_input (jumps : JumpTable) (index : Int) (tape : Tape) (port : π) :
    input.execute jumps index tape port =
      match Port.nextCell port with
      | .ok cell => ⟨tape.put cell, (Port.read port).1, .ok (index + 1)⟩
      | .error error => ⟨tape, (Port.read port).1, .error error⟩ := by
  rcases hread : Port.read port with ⟨port', error | value⟩
  · simp only [execute, Port.nextCell, hread]
  · cases hcell : Tape.cellOf (value.getD 0) with
    | error failure => simp only [execute, Port.nextCell, hread, hcell]
    | ok cell => simp only [execute, Port.nextCell, hread, hcell]

/-- Only the input and the output instruction touch the port. -/
theorem port_execute (x : Instruction) (jumps : JumpTable) (index : Int) (tape : Tape)
    (port : π) : (x.execute jumps index tape port).port =
      match x with
      | .input => (Port.read port).1
      | .output => (Port.write port tape.current.toNat).1
      | _ => port := by
  cases x with
  | moveRight => rw [execute_moveRight]
  | moveLeft => rw [execute_moveLeft]
  | increment | decrement => rfl
  | output => rw [execute_output]
  | input =>
      rw [execute_input]
      cases Port.nextCell port with
      | error error => rfl
      | ok cell => rfl
  | loopOpen =>
      rw [execute]
      split
      · split <;> rfl
      · rfl
  | loopClose =>
      rw [execute]
      split
      · rfl
      · split <;> rfl

/-- What is true of all that an instruction can do to the tape is true of what it does. -/
theorem tape_execute_cases (x : Instruction) {jumps : JumpTable} {index : Int} {tape : Tape}
    {port : π} {motive : Tape → Prop} (same : motive tape) (right : motive tape.moveRight.1)
    (left : motive tape.moveLeft.1) (put : ∀ cell, motive (tape.put cell)) :
    motive (x.execute jumps index tape port).tape := by
  cases x with
  | moveRight =>
      rw [execute_moveRight]
      exact right
  | moveLeft =>
      rw [execute_moveLeft]
      exact left
  | increment | decrement => exact put _
  | output =>
      rw [execute]
      split <;> exact same
  | input =>
      rw [execute]
      split
      · split
        · exact put _
        · exact same
      · exact same
  | loopOpen =>
      rw [execute]
      split
      · split <;> exact same
      · exact same
  | loopClose =>
      rw [execute]
      split
      · exact same
      · split <;> exact same

namespace Executes

variable {x : Instruction} {jumps : JumpTable} {index : Int} {tape : Tape} {port : π}
  {effect : Effect π}

/-- An instruction goes on behind itself, or a bracket follows its jump. -/
theorem next_of_ok {next : Int} (h : Executes jumps index tape port x effect)
    (hnext : effect.next = .ok next) :
    next = index + 1 ∨
      (x = .loopOpen ∧ ∃ target, jumps.target? index = some target ∧ next = target + 1) ∨
      (x = .loopClose ∧ jumps.target? index = some next) := by
  cases h with
  | goes => exact Or.inl (Except.ok.inj hnext).symm
  | skips target htarget =>
      exact Or.inr (Or.inl ⟨rfl, target, htarget, (Except.ok.inj hnext).symm⟩)
  | returns target htarget =>
      obtain rfl := Except.ok.inj hnext
      exact Or.inr (Or.inr ⟨rfl, htarget⟩)
  | raises | lost => simp at hnext

/-- An instruction raises only what is foreseen, unless a bracket has no jump. -/
theorem foreseen_of_error {error : Raised} (h : Executes jumps index tape port x effect)
    (hnext : effect.next = .error error) :
    Foreseen port error ∨ ((x = .loopOpen ∨ x = .loopClose) ∧ jumps.target? index = none) := by
  cases h with
  | goes | skips | returns => simp at hnext
  | raises _ _ _ _ hforeseen =>
      obtain rfl := Except.error.inj hnext
      exact Or.inl hforeseen
  | lost _ hbracket hgap => exact Or.inr ⟨hbracket, hgap⟩

/-- An instruction that raises something leaves the tape as it was. -/
theorem tape_of_error {error : Raised} (h : Executes jumps index tape port x effect)
    (hnext : effect.next = .error error) : effect.tape = tape := by
  cases h with
  | goes | skips | returns => simp at hnext
  | raises | lost => rfl

theorem touched (h : Executes jumps index tape port x effect) :
    Touched tape port effect.port := by
  cases h with
  | goes _ _ _ hport | raises _ _ _ hport => exact hport
  | skips | returns | lost => exact Or.inl rfl

end Executes

end Instruction

/-! ## One step -/

namespace Machine

variable {π : Type}

theorem state_running_iff (m : Machine π) :
    m.state = .running ↔ m.fault = none ∧ m.index < m.program.length := by
  unfold state
  cases m.fault with
  | some fault => simp
  | none => simp

theorem state_halted_iff (m : Machine π) :
    m.state = .halted ↔ m.fault = none ∧ (m.program.length : Int) ≤ m.index := by
  unfold state
  cases m.fault with
  | some fault => simp
  | none => simp

theorem state_failed_iff (m : Machine π) : m.state = .failed ↔ ∃ own, m.fault = some own := by
  unfold state
  cases m.fault with
  | some own => simp
  | none =>
      simp only [Option.isSome_none, Bool.false_eq_true, if_false, reduceCtorEq, exists_false,
        iff_false]
      split <;> simp

/-- A running machine that does not stand in front of the program has an instruction to
execute. -/
theorem exists_fetch_of_index_nonneg {m : Machine π} (hindex : 0 ≤ m.index)
    (hstate : m.state = .running) : ∃ x, m.program.fetch? m.index = some x := by
  have hlt := ((state_running_iff m).1 hstate).2
  have hplace : m.index.toNat < m.program.code.size := by
    have hlength : (m.program.length : Int) = m.program.code.size := rfl
    omega
  refine ⟨m.program.code[m.index.toNat], ?_⟩
  rw [Program.fetch?, if_pos hindex, Array.getElem?_eq_getElem hplace]

variable [Port π] {m : Machine π}

theorem step_of_not_running (h : m.state ≠ .running) : m.step = (m, none) := by
  rw [step, if_neg h]

theorem step_of_fetch {x : Instruction} (hstate : m.state = .running)
    (hfetch : m.program.fetch? m.index = some x) :
    m.step = settle m.program m.index m.steps
      (x.execute m.program.jumps m.index m.tape m.port) := by
  rw [step, if_pos hstate, hfetch]

omit [Port π] in
theorem tape_settle (program : Program) (index : Int) (steps : Nat) (effect : Effect π) :
    (settle program index steps effect).1.tape = effect.tape := by
  rw [settle]
  split <;> rfl

omit [Port π] in
theorem port_settle (program : Program) (index : Int) (steps : Nat) (effect : Effect π) :
    (settle program index steps effect).1.port = effect.port := by
  rw [settle]
  split <;> rfl

omit [Port π] in
/-- What an effect raises is raised when it settles. -/
theorem raised_settle_iff (program : Program) (index : Int) (steps : Nat) (effect : Effect π)
    (error : Raised) :
    (settle program index steps effect).2 = some error ↔ effect.next = .error error := by
  rw [settle]
  split
  · rename_i next hnext
    simp [hnext]
  · rename_i own hnext
    simp [hnext]
  · rename_i raised _ hnext
    simp [hnext]

/-- What is true of all that a step can leave behind is true after it. -/
theorem step_cases {motive : Machine π × Option Raised → Prop}
    (idle : m.state ≠ .running → motive (m, none))
    (lost : m.state = .running → m.program.fetch? m.index = none →
      motive (m, some (.noInstruction m.index)))
    (goes : ∀ x next, m.state = .running → m.program.fetch? m.index = some x →
      (x.execute m.program.jumps m.index m.tape m.port).next = .ok next →
      motive (⟨m.program, (x.execute m.program.jumps m.index m.tape m.port).port,
        (x.execute m.program.jumps m.index m.tape m.port).tape, next, m.steps + 1, none⟩, none))
    (raises : ∀ x error, m.state = .running → m.program.fetch? m.index = some x →
      (x.execute m.program.jumps m.index m.tape m.port).next = .error error →
      ∀ fault, motive (⟨m.program, (x.execute m.program.jumps m.index m.tape m.port).port,
        (x.execute m.program.jumps m.index m.tape m.port).tape, m.index, m.steps, fault⟩,
        some error)) :
    motive m.step := by
  by_cases hstate : m.state = .running
  · cases hfetch : m.program.fetch? m.index with
    | none =>
        rw [step, if_pos hstate, hfetch]
        exact lost hstate hfetch
    | some x =>
        rw [step_of_fetch hstate hfetch, settle]
        split
        · rename_i next hnext
          exact goes x next hstate hfetch hnext
        · rename_i own hnext
          exact raises x (.fault own) hstate hfetch hnext (some own)
        · rename_i error _ hnext
          exact raises x error hstate hfetch hnext none
  · rw [step_of_not_running hstate]
    exact idle hstate

/-! ## Calls of step and run -/

/-- What every step keeps is kept by a run. -/
theorem runFor_invariant {P : Machine π → Prop} (hstep : ∀ m : Machine π, P m → P m.step.1)
    (fuel : Nat) (h : P m) : P (m.runFor fuel).1 := by
  induction fuel generalizing m with
  | zero => exact h
  | succ fuel ih =>
      have hnext := hstep m h
      rw [runFor]
      split
      · rename_i after raised hresult
        rwa [hresult] at hnext
      · rename_i after hresult
        rw [hresult] at hnext
        split
        · exact ih hnext
        · exact hnext

theorem run_invariant {P : Machine π → Prop} (hstep : ∀ m : Machine π, P m → P m.step.1)
    (fuel : Nat) (h : P m) : P (m.run fuel).1 := by
  rw [run]
  split
  · exact h
  · exact runFor_invariant hstep fuel h

/-- The machines that calls of step and run lead to, in whatever order they are made.  A run
that does not end is looked at after any number of its steps. -/
inductive Reachable (start : Machine π) : Machine π → Prop
  | start : Reachable start start
  | step {m : Machine π} (h : Reachable start m) : Reachable start m.step.1
  | run {m : Machine π} (h : Reachable start m) (fuel : Nat) : Reachable start (m.run fuel).1

/-- What holds at the start and is kept by every step holds of all reachable machines. -/
theorem Reachable.invariant {P : Machine π → Prop} {start : Machine π} (hstart : P start)
    (hstep : ∀ m : Machine π, P m → P m.step.1) (h : Reachable start m) : P m := by
  induction h with
  | start => exact hstart
  | step _ ih => exact hstep _ ih
  | run _ fuel ih => exact run_invariant hstep fuel ih

end Machine

end TapeMachine
