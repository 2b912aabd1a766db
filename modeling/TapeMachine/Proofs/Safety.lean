/-
  Safety of compiled programs.

  Main statement: whatever a port does and however a machine is driven, a machine in front
  of a compiled program stays within it.  It halts only behind its last instruction, finds
  every jump and every cell it looks for, writes nothing but bytes, and raises only what
  comes from the tape or from the port.
-/
import TapeMachine.Port.Buffer
import TapeMachine.Proofs.ExactRuns
import TapeMachine.Proofs.Matching

set_option autoImplicit false

namespace TapeMachine

/-! ## Compiled programs -/

namespace Program

theorem fetch?_natCast (program : Program) (place : Nat) :
    program.fetch? place = program.instructions[place]? := by
  simp [fetch?, instructions]

theorem length_instructions (program : Program) :
    program.instructions.length = program.length := by
  simp [instructions, length]

theorem jumps_of_compile {source : String} {program : Program}
    (h : compile source = .ok program) :
    JumpTable.ofInstructions program.instructions = .ok program.jumps := by
  unfold compile ofInstructions at h
  cases htable : JumpTable.ofInstructions (Instruction.lex source) with
  | error fault => simp [htable, Except.map] at h
  | ok table =>
      simp only [htable, Except.map, Except.ok.injEq] at h
      subst h
      simpa [instructions] using htable

theorem resolves_of_compile {source : String} {program : Program}
    (h : compile source = .ok program) : program.jumps.Resolves program.instructions :=
  JumpTable.resolves_of_ofInstructions (jumps_of_compile h)

end Program

/-! ## Where a machine stands -/

namespace Machine

section Within

variable {π : Type} {program : Program} {m : Machine π}

/-- The machine is on an instruction of the program or behind the last one. -/
structure Within (program : Program) (m : Machine π) : Prop where
  program_eq : m.program = program
  index_nonneg : 0 ≤ m.index
  index_le_length : m.index ≤ program.length

theorem within_start (program : Program) (port : π) (tape : Tape) :
    Within program (start program port tape) where
  program_eq := rfl
  index_nonneg := Int.le_refl 0
  index_le_length := Int.natCast_nonneg program.length

theorem Within.exists_place (h : Within program m) : ∃ place : Nat, m.index = place :=
  ⟨m.index.toNat, (Int.toNat_of_nonneg h.index_nonneg).symm⟩

/-- A running machine has an instruction to execute. -/
theorem Within.exists_fetch (h : Within program m) (hstate : m.state = .running) :
    ∃ x, program.fetch? m.index = some x := by
  rw [← h.program_eq]
  exact exists_fetch_of_index_nonneg h.index_nonneg hstate

/-- The jump of a bracket leads to a place within the program. -/
theorem target_bounds {code : List Instruction} {table : JumpTable} (h : table.Resolves code)
    {place : Nat} (hbracket : code[place]? = some .loopOpen ∨ code[place]? = some .loopClose) :
    ∃ target : Nat, table.target? place = some (target : Int) ∧ target < code.length := by
  rcases hbracket with hopen | hclose
  · obtain ⟨stop, hmatched, htarget, _⟩ := h.opens place hopen
    exact ⟨stop, htarget, hmatched.stop_lt_length⟩
  · obtain ⟨start, hmatched, htarget⟩ := h.closes place hclose
    exact ⟨start, htarget, Nat.lt_trans hmatched.start_lt_stop hmatched.stop_lt_length⟩

theorem exists_target (hprogram : program.jumps.Resolves program.instructions)
    (h : Within program m) {x : Instruction} (hfetch : program.fetch? m.index = some x)
    (hbracket : x = .loopOpen ∨ x = .loopClose) :
    ∃ target : Nat, program.jumps.target? m.index = some (target : Int) ∧
      target < program.length := by
  obtain ⟨place, hplace⟩ := h.exists_place
  rw [hplace, program.fetch?_natCast] at hfetch
  rw [hplace, ← program.length_instructions]
  apply target_bounds hprogram
  rcases hbracket with rfl | rfl
  · exact Or.inl hfetch
  · exact Or.inr hfetch

variable [Port π]

/-- A step stays within a program whose brackets are paired. -/
theorem within_step (hprogram : program.jumps.Resolves program.instructions)
    (h : Within program m) : Within program m.step.1 := by
  apply step_cases (motive := fun result => Within program result.1)
  case idle => exact fun _ => h
  case lost => exact fun _ _ => h
  case raises => exact fun _ _ _ _ _ _ => ⟨h.program_eq, h.index_nonneg, h.index_le_length⟩
  case goes =>
    intro x next hstate hfetch hnext
    have hlt := ((state_running_iff m).1 hstate).2
    have hnonneg := h.index_nonneg
    rw [h.program_eq] at hlt hfetch hnext
    suffices hbounds : 0 ≤ next ∧ next ≤ program.length from
      ⟨h.program_eq, hbounds.1, hbounds.2⟩
    rcases (x.executes _ _ _ _).next_of_ok hnext with
      rfl | ⟨rfl, target, htarget, rfl⟩ | ⟨rfl, htarget⟩
    · omega
    · obtain ⟨stop, hstop, hbound⟩ := exists_target hprogram h hfetch (Or.inl rfl)
      rw [htarget, Option.some.injEq] at hstop
      omega
    · obtain ⟨start, hstart, hbound⟩ := exists_target hprogram h hfetch (Or.inr rfl)
      rw [htarget, Option.some.injEq] at hstart
      omega

theorem within_stepTimes (hprogram : program.jumps.Resolves program.instructions)
    (h : Within program m) (n : Nat) : Within program (m.stepTimes n) :=
  stepTimes_invariant (fun _ hm => within_step hprogram hm) h n

/-- A step within a program whose brackets are paired raises only what is foreseen. -/
theorem foreseen_of_step (hprogram : program.jumps.Resolves program.instructions)
    (h : Within program m) {after : Machine π} {error : Raised}
    (hstep : m.step = (after, some error)) : Foreseen m.port error := by
  suffices hraised : ∀ error, m.step.2 = some error → Foreseen m.port error from
    hraised error (by rw [hstep])
  apply step_cases (motive := fun result =>
    ∀ error, result.2 = some error → Foreseen m.port error)
  case idle => simp
  case goes => simp
  case lost =>
    intro hstate hnone
    obtain ⟨x, hx⟩ := h.exists_fetch hstate
    rw [h.program_eq, hx] at hnone
    simp at hnone
  case raises =>
    intro x error _ hfetch hnext _ error' herror
    obtain rfl := Option.some.inj herror
    rw [h.program_eq] at hfetch hnext
    rcases (x.executes _ _ _ _).foreseen_of_error hnext with hforeseen | ⟨hbracket, hgap⟩
    · exact hforeseen
    · obtain ⟨target, htarget, _⟩ := exists_target hprogram h hfetch hbracket
      rw [hgap] at htarget
      simp at htarget

end Within

/-! ## What is written -/

/-- What reads and writes of bytes keep true of a port stays true of it in a machine. -/
theorem port_invariant {π : Type} [Port π] {I : π → Prop} {start m : Machine π}
    (hstart : I start.port) (hread : ∀ port, I port → I (Port.read port).1)
    (hwrite : ∀ (port : π) (byte : UInt8), I port → I (Port.write port byte.toNat).1)
    (h : Reachable start m) : I m.port := by
  refine h.invariant (P := fun m => I m.port) hstart fun m hm => ?_
  have hexecute : ∀ x : Instruction,
      I (x.execute m.program.jumps m.index m.tape m.port).port := by
    intro x
    rcases (x.executes m.program.jumps m.index m.tape m.port).touched with
      hport | hport | hport
    · rwa [hport]
    · rw [hport]
      exact hread _ hm
    · rw [hport]
      exact hwrite _ _ hm
  apply step_cases (motive := fun result => I result.1.port)
  case idle => exact fun _ => hm
  case lost => exact fun _ _ => hm
  case goes => exact fun x _ _ _ _ => hexecute x
  case raises => exact fun x _ _ _ _ _ => hexecute x

end Machine

theorem BufferPort.not_raises_foreign (port : BufferPort) (error : ForeignError) :
    ¬ Port.Raises port (.foreign error) := by
  rintro (hread | ⟨byte, hwrite⟩)
  · cases hremaining : port.remaining with
    | nil => simp [Port.read, read_nil hremaining] at hread
    | cons first rest => simp [Port.read, read_cons hremaining] at hread
  · simp [Port.write, write_byte] at hwrite

/-- A port that keeps a list of the values handed to it to be written. -/
structure LoggedPort (π : Type) where
  port : π
  written : List Int

instance {π : Type} [Port π] : Port (LoggedPort π) where
  read logged := ({ logged with port := (Port.read logged.port).1 }, (Port.read logged.port).2)
  write logged value :=
    (⟨(Port.write logged.port value).1, logged.written ++ [value]⟩,
      (Port.write logged.port value).2)

/-! ## Sound machines -/

namespace Machine

variable {π : Type} [Port π]

/-- The machine has not gone wrong in the program and cannot do so in its next step. -/
structure Sound (program : Program) (m : Machine π) : Prop where
  program_eq : m.program = program
  index_nonneg : 0 ≤ m.index
  index_le_length : m.index ≤ program.length
  index_of_halted : m.state = .halted → m.index = program.length
  exists_fetch : m.state = .running →
    m.index < program.length ∧ ∃ x, program.fetch? m.index = some x
  /-- The jump of the bracket in front of the machine is there. -/
  contains_of_bracket : m.state = .running →
    (program.fetch? m.index = some .loopOpen ∨ program.fetch? m.index = some .loopClose) →
      program.jumps.contains m.index = true
  pointer_lt_size : m.tape.pointer < m.tape.size
  size_le_capacity : m.tape.size ≤ m.tape.capacity
  foreseen : ∀ after error, m.step = (after, some error) → Foreseen m.port error

theorem Within.sound {program : Program} {m : Machine π}
    (hprogram : program.jumps.Resolves program.instructions) (h : Within program m) :
    Sound program m where
  program_eq := h.program_eq
  index_nonneg := h.index_nonneg
  index_le_length := h.index_le_length
  index_of_halted hstate := by
    have hge := ((state_halted_iff m).1 hstate).2
    rw [h.program_eq] at hge
    exact Int.le_antisymm h.index_le_length hge
  exists_fetch hstate := by
    have hlt := ((state_running_iff m).1 hstate).2
    rw [h.program_eq] at hlt
    exact ⟨hlt, h.exists_fetch hstate⟩
  contains_of_bracket _ hbracket := by
    have hexists : ∃ target : Nat, program.jumps.target? m.index = some (target : Int) ∧
        target < program.length := by
      rcases hbracket with hopen | hclose
      · exact exists_target hprogram h hopen (Or.inl rfl)
      · exact exists_target hprogram h hclose (Or.inr rfl)
    obtain ⟨target, htarget, _⟩ := hexists
    rw [JumpTable.contains, htarget]
    rfl
  pointer_lt_size := m.tape.pointer_lt_size
  size_le_capacity := m.tape.size_le_capacity
  foreseen _ _ hstep := foreseen_of_step hprogram h hstep

/-- However it is driven and whatever its port does, a machine in front of a compiled program
does not go wrong, and hands only bytes to its port. -/
theorem sound_of_compile {source : String} {program : Program}
    (h : Program.compile source = .ok program) (tape : Tape) (port : π) :
    (∀ m, Reachable (start program port tape) m → Sound program m) ∧
      ∀ m : Machine (LoggedPort π), Reachable (start program ⟨port, []⟩ tape) m →
        ∀ value ∈ m.port.written, 0 ≤ value ∧ value ≤ 255 := by
  have hprogram := Program.resolves_of_compile h
  constructor
  · intro m hm
    have hwithin : Within program m :=
      hm.invariant (within_start program port tape) fun _ hstep => within_step hprogram hstep
    exact hwithin.sound hprogram
  · intro m hm
    refine port_invariant (I := fun logged : LoggedPort π =>
      ∀ value ∈ logged.written, 0 ≤ value ∧ value ≤ 255) (by simp [start]) ?_ ?_ hm
    · exact fun _ hlogged => hlogged
    · intro logged byte hlogged value hvalue
      rcases List.mem_append.1 hvalue with hbefore | hnew
      · exact hlogged value hbefore
      · obtain rfl := List.mem_singleton.1 hnew
        have := byte.toNat_lt
        omega

/-- A cell counted down, each of its values written. -/
theorem sound_of_compile_countdown : ∃ program, Program.compile "+++[.-]" = .ok program ∧
    ∀ m, Reachable (start program (BufferPort.ofInput []) Tape.single) m → Sound program m := by
  have hcompile : Program.compile "+++[.-]" = .ok
      ⟨#[.increment, .increment, .increment, .loopOpen, .output, .decrement, .loopClose],
        ⟨[(3, 6), (6, 3)]⟩⟩ := rfl
  exact ⟨_, hcompile, (sound_of_compile hcompile Tape.single (BufferPort.ofInput [])).1⟩

end Machine

end TapeMachine
