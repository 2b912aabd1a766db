/-
  Machines in lockstep.

  Two machines in front of one program may differ in their tapes and in their ports, which
  may be of different kinds.  They are in lockstep when all else is the same and a relation
  holds between the tapes and the ports.  Main statements: machines stay in lockstep in a
  step, and raise the same, when executing the next instruction keeps the relation; an
  instruction that does not move the pointer uses a tape only for its current cell, and any
  instruction uses a port only for what it gives and takes.
-/
import TapeMachine.Journal
import TapeMachine.Proofs.Stepping

set_option autoImplicit false

namespace TapeMachine

/-- A relation between a tape with a port and another tape with another port. -/
def Likeness (π π' : Type) : Type := Tape → π → Tape → π' → Prop

/-- The effects lead to the same place or raise the same, and leave what is related. -/
structure Effect.Related {π π' : Type} (R : Likeness π π') (effect : Effect π)
    (effect' : Effect π') : Prop where
  next_eq : effect'.next = effect.next
  related : R effect.tape effect.port effect'.tape effect'.port

namespace Machine

variable {π π' : Type} {R : Likeness π π'} {m : Machine π} {m' : Machine π'}

/-- The machines are the same up to their tapes and ports, which are related. -/
structure Lockstep (R : Likeness π π') (m : Machine π) (m' : Machine π') : Prop where
  program_eq : m'.program = m.program
  index_eq : m'.index = m.index
  steps_eq : m'.steps = m.steps
  fault_eq : m'.fault = m.fault
  related : R m.tape m.port m'.tape m'.port

theorem Lockstep.state_eq (h : Lockstep R m m') : m'.state = m.state := by
  rw [state, state, h.fault_eq, h.program_eq, h.index_eq]

/-- Machines in lockstep give the same result when their tapes show the same. -/
theorem Lockstep.result_eq (h : Lockstep R m m') (hcells : m'.tape.cells = m.tape.cells)
    (hpointer : m'.tape.pointer = m.tape.pointer) : m'.result = m.result := by
  rw [result, result, h.state_eq, h.steps_eq, hcells, hpointer]

/-- Machines in lockstep leave the same records behind. -/
theorem Lockstep.runRecords_eq {before : Machine π} {before' : Machine π'}
    (hbefore : Lockstep R before before') (h : Lockstep R m m')
    (hsize : m'.tape.size = m.tape.size) (verdict : Verdict) :
    before'.runRecords m' verdict = before.runRecords m verdict := by
  simp only [runRecords, faultRecords, hbefore.fault_eq, h.fault_eq, h.index_eq, h.steps_eq,
    hsize]

theorem lockstep_start {tape tape' : Tape} {port : π} {port' : π'} (program : Program)
    (h : R tape port tape' port') :
    Lockstep R (start program port tape) (start program port' tape') :=
  ⟨rfl, rfl, rfl, rfl, h⟩

/-- Related effects settle into machines in lockstep. -/
theorem lockstep_settle {effect : Effect π} {effect' : Effect π'} (program : Program)
    (index : Int) (steps : Nat) (h : effect.Related R effect') :
    Lockstep R (settle program index steps effect).1 (settle program index steps effect').1 ∧
      (settle program index steps effect').2 = (settle program index steps effect).2 := by
  rw [settle, settle, h.next_eq]
  split
  · exact ⟨⟨rfl, rfl, rfl, rfl, h.related⟩, rfl⟩
  · exact ⟨⟨rfl, rfl, rfl, rfl, h.related⟩, rfl⟩
  · exact ⟨⟨rfl, rfl, rfl, rfl, h.related⟩, rfl⟩

variable [Port π] [Port π']

theorem Lockstep.step (h : Lockstep R m m')
    (hexecute : ∀ x, m.state = .running → m.program.fetch? m.index = some x →
      (x.execute m.program.jumps m.index m.tape m.port).Related R
        (x.execute m.program.jumps m.index m'.tape m'.port)) :
    Lockstep R m.step.1 m'.step.1 ∧ m'.step.2 = m.step.2 := by
  by_cases hstate : m.state = .running
  · have hstate' : m'.state = .running := h.state_eq.trans hstate
    cases hfetch : m.program.fetch? m.index with
    | none =>
        have hfetch' : m'.program.fetch? m'.index = none := by
          rw [h.program_eq, h.index_eq, hfetch]
        rw [Machine.step, Machine.step, if_pos hstate, if_pos hstate', hfetch, hfetch']
        exact ⟨h, congrArg (fun index => some (Raised.noInstruction index)) h.index_eq⟩
    | some x =>
        have hfetch' : m'.program.fetch? m'.index = some x := by
          rw [h.program_eq, h.index_eq, hfetch]
        rw [step_of_fetch hstate hfetch, step_of_fetch hstate' hfetch', h.program_eq, h.index_eq,
          h.steps_eq]
        exact lockstep_settle _ _ _ (hexecute x hstate hfetch)
  · have hstate' : m'.state ≠ .running := by rwa [h.state_eq]
    rw [step_of_not_running hstate, step_of_not_running hstate']
    exact ⟨h, rfl⟩

end Machine

/-! ## Tapes -/

/-- The tapes are related and the ports are the same. -/
def Likeness.ofTapes {π : Type} (T : Tape → Tape → Prop) : Likeness π π :=
  fun tape port tape' port' => T tape tape' ∧ port' = port

/-- An instruction that does not move the pointer has the same effect on tapes with the same
current cell, and writes the same cell into both. -/
theorem Instruction.execute_related_of_tapes {π : Type} [Port π] {T : Tape → Tape → Prop}
    {tape tape' : Tape} (x : Instruction) (jumps : JumpTable) (index : Int) (port : π)
    (hright : x ≠ .moveRight) (hleft : x ≠ .moveLeft) (h : T tape tape')
    (hcurrent : tape'.current = tape.current)
    (hput : ∀ cell, T (tape.put cell) (tape'.put cell)) :
    (x.execute jumps index tape port).Related (.ofTapes T)
      (x.execute jumps index tape' port) := by
  cases x with
  | moveRight => exact absurd rfl hright
  | moveLeft => exact absurd rfl hleft
  | increment =>
      refine ⟨rfl, ?_, rfl⟩
      simp only [execute, Tape.increment, hcurrent]
      exact hput _
  | decrement =>
      refine ⟨rfl, ?_, rfl⟩
      simp only [execute, Tape.decrement, hcurrent]
      exact hput _
  | output =>
      simp only [execute, hcurrent]
      rcases Port.write port tape.current.toNat with ⟨port', error | done⟩
      · exact ⟨rfl, h, rfl⟩
      · exact ⟨rfl, h, rfl⟩
  | input =>
      simp only [execute]
      rcases Port.read port with ⟨port', error | value⟩
      · exact ⟨rfl, h, rfl⟩
      · cases hcell : Tape.cellOf (value.getD 0) with
        | error failure =>
            simp only [hcell]
            exact ⟨rfl, h, rfl⟩
        | ok cell =>
            simp only [hcell]
            exact ⟨rfl, hput cell, rfl⟩
  | loopOpen =>
      simp only [execute, hcurrent]
      by_cases hzero : tape.current = 0
      · simp only [if_pos hzero]
        cases jumps.target? index with
        | none => exact ⟨rfl, h, rfl⟩
        | some target => exact ⟨rfl, h, rfl⟩
      · simp only [if_neg hzero]
        exact ⟨rfl, h, rfl⟩
  | loopClose =>
      simp only [execute, hcurrent]
      by_cases hzero : tape.current = 0
      · simp only [if_pos hzero]
        exact ⟨rfl, h, rfl⟩
      · simp only [if_neg hzero]
        cases jumps.target? index with
        | none => exact ⟨rfl, h, rfl⟩
        | some target => exact ⟨rfl, h, rfl⟩

/-! ## Ports -/

/-- The tapes are the same and the ports are related. -/
def Likeness.ofPorts {π π' : Type} (P : π → π' → Prop) : Likeness π π' :=
  fun tape port tape' port' => tape' = tape ∧ P port port'

/-- An instruction does the same in front of ports that give and take the same. -/
theorem Instruction.execute_related_of_ports {π π' : Type} [Port π] [Port π']
    {P : π → π' → Prop} {port : π} {port' : π'} (x : Instruction) (jumps : JumpTable)
    (index : Int) (tape : Tape) (h : P port port')
    (hread : x = .input → Port.nextCell port' = Port.nextCell port ∧
      P (Port.read port).1 (Port.read port').1)
    (hwrite : x = .output →
      (Port.write port' tape.current.toNat).2 = (Port.write port tape.current.toNat).2 ∧
        P (Port.write port tape.current.toNat).1 (Port.write port' tape.current.toNat).1) :
    (x.execute jumps index tape port).Related (.ofPorts P)
      (x.execute jumps index tape port') := by
  cases x with
  | moveRight =>
      rw [execute_moveRight, execute_moveRight]
      exact ⟨rfl, rfl, h⟩
  | moveLeft =>
      rw [execute_moveLeft, execute_moveLeft]
      exact ⟨rfl, rfl, h⟩
  | increment | decrement => exact ⟨rfl, rfl, h⟩
  | output =>
      obtain ⟨hresult, hafter⟩ := hwrite rfl
      rw [execute_output, execute_output, hresult]
      exact ⟨rfl, rfl, hafter⟩
  | input =>
      obtain ⟨hcell, hafter⟩ := hread rfl
      rw [execute_input, execute_input, hcell]
      cases Port.nextCell port with
      | ok cell => exact ⟨rfl, rfl, hafter⟩
      | error error => exact ⟨rfl, rfl, hafter⟩
  | loopOpen =>
      simp only [execute]
      by_cases hzero : tape.current = 0
      · simp only [if_pos hzero]
        cases jumps.target? index with
        | none => exact ⟨rfl, rfl, h⟩
        | some target => exact ⟨rfl, rfl, h⟩
      · simp only [if_neg hzero]
        exact ⟨rfl, rfl, h⟩
  | loopClose =>
      simp only [execute]
      by_cases hzero : tape.current = 0
      · simp only [if_pos hzero]
        exact ⟨rfl, rfl, h⟩
      · simp only [if_neg hzero]
        cases jumps.target? index with
        | none => exact ⟨rfl, rfl, h⟩
        | some target => exact ⟨rfl, rfl, h⟩

/-- Machines stay in lockstep when their ports give and take the same for the next
instruction. -/
theorem Machine.Lockstep.step_of_ports {π π' : Type} [Port π] [Port π'] {P : π → π' → Prop}
    {m : Machine π} {m' : Machine π'} (h : Lockstep (.ofPorts P) m m')
    (hread : m.state = .running → m.program.fetch? m.index = some .input →
      Port.nextCell m'.port = Port.nextCell m.port ∧
        P (Port.read m.port).1 (Port.read m'.port).1)
    (hwrite : m.state = .running → m.program.fetch? m.index = some .output → ∀ byte : UInt8,
      (Port.write m'.port byte.toNat).2 = (Port.write m.port byte.toNat).2 ∧
        P (Port.write m.port byte.toNat).1 (Port.write m'.port byte.toNat).1) :
    Lockstep (.ofPorts P) m.step.1 m'.step.1 ∧ m'.step.2 = m.step.2 := by
  obtain ⟨htape, hport⟩ := h.related
  apply h.step
  intro x hstate hfetch
  rw [htape]
  apply x.execute_related_of_ports _ _ _ hport
  · intro hx
    exact hread hstate (hx ▸ hfetch)
  · intro hx
    exact hwrite hstate (hx ▸ hfetch) _

end TapeMachine
