/-
  Calling run again.

  A port may be interrupted: now and then a read or a write raises an error that passes
  through the machine, and neither gives nor takes a byte.  Main statement: when run is
  called again after each interruption, the calls end as a single run over the port without
  interruptions does, in the same machine and with the same result or error, and they never
  end when that run does not.
-/
import TapeMachine.Proofs.Driving
import TapeMachine.Proofs.Lockstep

set_option autoImplicit false

namespace TapeMachine

/-! ## Interrupted ports -/

/-- A port with a schedule of interruptions, one entry for each read or write to come.  An
entry with an error interrupts the operation; one without, and the end of the schedule, let
it through. -/
structure InterruptedPort (π : Type) where
  port : π
  schedule : List (Option ForeignError)

namespace InterruptedPort

variable {π α : Type}

/-- The number of interruptions to come. -/
def left (q : InterruptedPort π) : Nat := q.schedule.countP Option.isSome

/-- Performs an operation of the port, unless it is interrupted. -/
def perform (q : InterruptedPort π) (operation : π → π × Except PortError α) :
    InterruptedPort π × Except PortError α :=
  match q.schedule with
  | some error :: rest => (⟨q.port, rest⟩, .error (.foreign error))
  | schedule => (⟨(operation q.port).1, schedule.tail⟩, (operation q.port).2)

instance [Port π] : Port (InterruptedPort π) where
  read q := q.perform Port.read
  write q value := q.perform fun port => Port.write port value

/-- An interruption leaves the port alone, and there is one less to come. -/
theorem perform_of_interrupted {q : InterruptedPort π} {error : ForeignError}
    {rest : List (Option ForeignError)} (h : q.schedule = some error :: rest)
    (operation : π → π × Except PortError α) :
    (q.perform operation).2 = .error (.foreign error) ∧
      (q.perform operation).1.port = q.port ∧ (q.perform operation).1.left < q.left := by
  simp [perform, left, h]

/-- An operation that is let through does what it does without interruptions. -/
theorem perform_of_passes {q : InterruptedPort π}
    (h : ∀ error rest, q.schedule ≠ some error :: rest)
    (operation : π → π × Except PortError α) :
    (q.perform operation).2 = (operation q.port).2 ∧
      (q.perform operation).1.port = (operation q.port).1 ∧
        (q.perform operation).1.left = q.left := by
  rcases hschedule : q.schedule with _ | ⟨_ | error, rest⟩
  · simp [perform, left, hschedule]
  · simp [perform, left, hschedule]
  · exact absurd hschedule (h error rest)

end InterruptedPort

namespace Machine

variable {π : Type}

/-- The machine over the port without interruptions. -/
def plain (m : Machine (InterruptedPort π)) : Machine π where
  program := m.program
  port := m.port.port
  tape := m.tape
  index := m.index
  steps := m.steps
  fault := m.fault

theorem state_plain (m : Machine (InterruptedPort π)) : m.plain.state = m.state := rfl

theorem result_plain (m : Machine (InterruptedPort π)) : m.plain.result = m.result := rfl

/-- Interruptions are all that makes the ports differ, and so many are to come. -/
def Uninterrupted (n : Nat) : Likeness π (InterruptedPort π) :=
  .ofPorts fun port q => q.port = port ∧ q.left = n

theorem lockstep_plain (m : Machine (InterruptedPort π)) :
    Lockstep (Uninterrupted m.port.left) m.plain m :=
  ⟨rfl, rfl, rfl, rfl, rfl, rfl, rfl⟩

theorem Lockstep.plain_eq {n : Nat} {m : Machine π} {m' : Machine (InterruptedPort π)}
    (h : Lockstep (Uninterrupted n) m m') : m'.plain = m ∧ m'.port.left = n := by
  obtain ⟨program, port, tape, index, steps, fault⟩ := m
  obtain ⟨program', ⟨port', schedule⟩, tape', index', steps', fault'⟩ := m'
  obtain ⟨rfl, rfl, rfl, rfl, rfl, rfl, hleft⟩ := h
  exact ⟨rfl, hleft⟩

/-! ## One step -/

/-- What is raised, and the machine behind it, come from an interruption: without it the
machine is where it was. -/
structure InterruptedAt (before : Machine π) (m after : Machine (InterruptedPort π))
    (raised : Option Raised) : Prop where
  plain_eq : after.plain = before
  fault_eq : after.fault = none
  raised_eq : ∃ error, raised = some (.foreign error)
  left_lt : after.port.left < m.port.left

variable [Port π] {m : Machine (InterruptedPort π)}

theorem interruptedAt_step {x : Instruction} {error : ForeignError}
    {rest : List (Option ForeignError)} (hstate : m.state = .running)
    (hfetch : m.program.fetch? m.index = some x) (hx : x = .input ∨ x = .output)
    (hschedule : m.port.schedule = some error :: rest) :
    InterruptedAt m.plain m m.step.1 m.step.2 := by
  have hread := InterruptedPort.perform_of_interrupted hschedule Port.read
  have hwrite := InterruptedPort.perform_of_interrupted hschedule
    fun port => Port.write port m.tape.current.toNat
  have hraised : (x.execute m.program.jumps m.index m.tape m.port).next =
      .error (.foreign error) := by
    rcases hx with rfl | rfl
    · have hcell : Port.nextCell m.port = .error (.foreign error) := by
        simp only [Port.nextCell, Port.read, hread.1, Raised.ofPort]
      rw [Instruction.execute_input, hcell]
    · rw [Instruction.execute_output]
      simp only [Port.write, hwrite.1, Raised.ofPort]
  have hport : (x.execute m.program.jumps m.index m.tape m.port).port.port = m.port.port ∧
      (x.execute m.program.jumps m.index m.tape m.port).port.left < m.port.left := by
    rw [Instruction.port_execute]
    rcases hx with rfl | rfl
    · exact hread.2
    · exact hwrite.2
  have herror : m.step.2 = some (.foreign error) := by
    rw [step_of_fetch hstate hfetch, raised_settle_iff]
    exact hraised
  have hafter : m.step.1.port = (x.execute m.program.jumps m.index m.tape m.port).port := by
    rw [step_of_fetch hstate hfetch, port_settle]
  have hfault := ((state_running_iff m).1 hstate).1
  have hsame := eq_of_raises herror
  rw [← hafter] at hport
  refine ⟨?_, ?_, ⟨error, herror⟩, hport.2⟩
  · rw [hsame]
    simp only [plain, Raised.fault?, hport.1, hfault]
  · rw [hsame]
    rfl

/-- A step does what it does without interruptions, or it is interrupted. -/
theorem step_plain (m : Machine (InterruptedPort π)) :
    (m.step.1.plain = m.plain.step.1 ∧ m.step.2 = m.plain.step.2 ∧
        m.step.1.port.left = m.port.left) ∨
      InterruptedAt m.plain m m.step.1 m.step.2 := by
  by_cases hinterrupted : ∃ x error rest, m.state = .running ∧
      m.program.fetch? m.index = some x ∧ (x = .input ∨ x = .output) ∧
        m.port.schedule = some error :: rest
  · obtain ⟨x, error, rest, hstate, hfetch, hx, hschedule⟩ := hinterrupted
    exact Or.inr (interruptedAt_step hstate hfetch hx hschedule)
  · have hpasses : ∀ x, m.state = .running → m.program.fetch? m.index = some x →
        (x = .input ∨ x = .output) → ∀ error rest, m.port.schedule ≠ some error :: rest :=
      fun x hstate hfetch hx error rest hschedule =>
        hinterrupted ⟨x, error, rest, hstate, hfetch, hx, hschedule⟩
    have hlockstep := (lockstep_plain m).step_of_ports
      (fun hstate hfetch => by
        obtain ⟨hresult, hport, hleft⟩ :=
          InterruptedPort.perform_of_passes (hpasses _ hstate hfetch (Or.inl rfl)) Port.read
        refine ⟨?_, hport, hleft⟩
        rw [Port.nextCell, Port.nextCell]
        simp only [Port.read] at hresult ⊢
        rw [hresult]
        rfl)
      (fun hstate hfetch _ =>
        InterruptedPort.perform_of_passes (hpasses _ hstate hfetch (Or.inr rfl)) _)
    obtain ⟨hlockstep, hraised⟩ := hlockstep
    obtain ⟨hplain, hleft⟩ := hlockstep.plain_eq
    exact Or.inl ⟨hplain, hraised, hleft⟩

/-! ## One run -/

/-- A run does what it does without interruptions. -/
structure RunAlike (m : Machine (InterruptedPort π))
    (result : Machine (InterruptedPort π) × Verdict) (plain : Machine π × Verdict) : Prop where
  plain_eq : result.1.plain = plain.1
  verdict_eq : result.2 = plain.2
  left_eq : result.1.port.left = m.port.left

/-- A run is interrupted, and leaves a machine behind that the run without interruptions
comes past. -/
structure RunInterrupted (m : Machine (InterruptedPort π))
    (result : Machine (InterruptedPort π) × Verdict) : Prop where
  fault_eq : result.1.fault = none
  verdict_eq : ∃ error, result.2 = .raised (.foreign error)
  left_lt : result.1.port.left < m.port.left
  exists_runFor : ∃ k, ∀ fuel, m.plain.runFor (k + fuel) = result.1.plain.runFor fuel

theorem runFor_plain (fuel : Nat) (m : Machine (InterruptedPort π)) :
    RunAlike m (m.runFor fuel) (m.plain.runFor fuel) ∨ RunInterrupted m (m.runFor fuel) := by
  induction fuel generalizing m with
  | zero => exact Or.inl ⟨rfl, rfl, rfl⟩
  | succ fuel ih =>
      rw [runFor_succ, runFor_succ]
      rcases m.step_plain with ⟨hplain, hraised, hleft⟩ | hinterrupted
      · rw [← hplain, ← hraised, state_plain, result_plain]
        cases hstep : m.step.2 with
        | some error => exact Or.inl ⟨rfl, rfl, hleft⟩
        | none =>
            by_cases hrunning : m.step.1.state = .running
            · simp only [if_pos hrunning]
              rcases ih m.step.1 with halike | hcut
              · exact Or.inl ⟨halike.plain_eq, halike.verdict_eq, halike.left_eq.trans hleft⟩
              · obtain ⟨k, hk⟩ := hcut.exists_runFor
                refine Or.inr ⟨hcut.fault_eq, hcut.verdict_eq, hleft ▸ hcut.left_lt, k + 1, ?_⟩
                intro more
                have hnext : m.plain.step = (m.step.1.plain, none) :=
                  Prod.ext hplain.symm (hraised.symm.trans hstep)
                rw [Nat.add_right_comm, runFor_succ_of_step hnext hrunning, hk]
            · simp only [if_neg hrunning]
              exact Or.inl ⟨rfl, rfl, hleft⟩
      · obtain ⟨error, herror⟩ := hinterrupted.raised_eq
        rw [herror]
        refine Or.inr ⟨hinterrupted.fault_eq, ⟨error, rfl⟩, hinterrupted.left_lt, 0, ?_⟩
        intro more
        rw [Nat.zero_add, hinterrupted.plain_eq]

theorem run_plain (fuel : Nat) (m : Machine (InterruptedPort π)) :
    RunAlike m (m.run fuel) (m.plain.run fuel) ∨
      m.fault = none ∧ RunInterrupted m (m.run fuel) := by
  cases hfault : m.fault with
  | some own =>
      have hplain : m.plain.fault = some own := hfault
      rw [run, run, hfault, hplain]
      exact Or.inl ⟨rfl, rfl, rfl⟩
  | none =>
      have hplain : m.plain.fault = none := hfault
      rw [run_of_fault_eq_none hfault, run_of_fault_eq_none hplain]
      exact (runFor_plain fuel m).imp_right fun h => ⟨rfl, h⟩

/-- Behind an interruption the run goes on where the run without interruptions is. -/
theorem RunInterrupted.exists_run {result : Machine (InterruptedPort π) × Verdict}
    (h : RunInterrupted m result) (hfault : m.fault = none) :
    ∃ k, ∀ fuel, m.plain.run (k + fuel) = result.1.plain.run fuel := by
  obtain ⟨k, hk⟩ := h.exists_runFor
  refine ⟨k, fun fuel => ?_⟩
  have hplain : m.plain.fault = none := hfault
  have hafter : result.1.plain.fault = none := h.fault_eq
  rw [run_of_fault_eq_none hplain, run_of_fault_eq_none hafter, hk]

/-! ## Run after run -/

/-- Calls run, and calls it again when it was interrupted, a bounded number of times. -/
def rerun (fuel : Nat) : (calls : Nat) → Machine (InterruptedPort π) →
    Machine (InterruptedPort π) × Verdict
  | 0, m => m.run fuel
  | calls + 1, m =>
      let result := m.run fuel
      if result.1.port.left < m.port.left then rerun fuel calls result.1 else result

/-- When the run without interruptions ends, there are enough calls for all of the
interruptions, and the last one ends alike. -/
theorem rerun_of_ended {fuel calls : Nat} {after : Machine π} {verdict : Verdict}
    (h : m.plain.run fuel = (after, verdict)) (hverdict : verdict ≠ .unfinished)
    (hcalls : m.port.left ≤ calls) :
    (rerun fuel calls m).1.plain = after ∧ (rerun fuel calls m).2 = verdict := by
  induction calls generalizing m with
  | zero =>
      rcases run_plain fuel m with halike | ⟨_, hcut⟩
      · rw [h] at halike
        exact ⟨halike.plain_eq, halike.verdict_eq⟩
      · have hlt := hcut.left_lt
        omega
  | succ calls ih =>
      rw [rerun]
      rcases run_plain fuel m with halike | ⟨hfault, hcut⟩
      · rw [h] at halike
        rw [if_neg (by simp [halike.left_eq])]
        exact ⟨halike.plain_eq, halike.verdict_eq⟩
      · have hlt := hcut.left_lt
        obtain ⟨k, hk⟩ := hcut.exists_run hfault
        rw [if_pos hlt]
        refine ih ?_ (by omega)
        rw [← hk, Nat.add_comm]
        exact run_add h hverdict k

theorem rerun_of_unfinished {fuel calls : Nat}
    (h : ∀ fuel, (m.plain.run fuel).2 = .unfinished) (hcalls : m.port.left ≤ calls) :
    (rerun fuel calls m).2 = .unfinished := by
  induction calls generalizing m with
  | zero =>
      rcases run_plain fuel m with halike | ⟨_, hcut⟩
      · exact halike.verdict_eq.trans (h fuel)
      · have hlt := hcut.left_lt
        omega
  | succ calls ih =>
      rw [rerun]
      rcases run_plain fuel m with halike | ⟨hfault, hcut⟩
      · rw [if_neg (by simp [halike.left_eq])]
        exact halike.verdict_eq.trans (h fuel)
      · have hlt := hcut.left_lt
        obtain ⟨k, hk⟩ := hcut.exists_run hfault
        rw [if_pos hlt]
        exact ih (fun fuel' => by rw [← hk, h]) (by omega)

/-! ## Compiled programs -/

/-- Within a program a run of a machine over a port without foreign errors raises none. -/
theorem Within.run_ne_foreign {program : Program} {m : Machine π}
    (hprogram : program.jumps.Resolves program.instructions)
    (hforeign : ∀ (port : π) error, ¬ Port.Raises port (.foreign error)) (h : Within program m)
    (fuel : Nat) (error : ForeignError) : (m.run fuel).2 ≠ .raised (.foreign error) := by
  intro hraised
  have hrun : m.run fuel = ((m.run fuel).1, .raised (.foreign error)) := Prod.ext rfl hraised
  have hverdict := h.verdict_of_ended hprogram hforeign hrun (by simp)
  rw [verdict] at hverdict
  split at hverdict
  · simp at hverdict
  · split at hverdict <;> simp at hverdict

/-- Calling run again after every interruption makes up for the interruptions. -/
structure Retryable (plain : Machine π) (m : Machine (InterruptedPort π)) : Prop where
  /-- Where the run without interruptions ends, the calls of run end in the same machine, and
  give or raise the same. -/
  ends : ∀ fuel calls after verdict, plain.run fuel = (after, verdict) →
    verdict ≠ .unfinished → m.port.left ≤ calls →
      (rerun fuel calls m).1.plain = after ∧ (rerun fuel calls m).2 = verdict
  never_ends : (∀ fuel, (plain.run fuel).2 = .unfinished) →
    ∀ fuel calls, m.port.left ≤ calls → (rerun fuel calls m).2 = .unfinished
  /-- A call of run that is interrupted raises a foreign error. -/
  foreign_of_interrupted : ∀ middle fuel, Reachable m middle →
    (middle.run fuel).1.port.left < middle.port.left →
      ∃ error, (middle.run fuel).2 = .raised (.foreign error)
  /-- Foreign errors come from interruptions only, where the port itself raises none. -/
  interrupted_of_foreign : (∀ (port : π) error, ¬ Port.Raises port (.foreign error)) →
    ∀ middle fuel error, Reachable m middle → (middle.run fuel).2 = .raised (.foreign error) →
      (middle.run fuel).1.port.left < middle.port.left

/-- Interruptions of the port lose and repeat nothing, in front of a compiled program. -/
theorem retryable_of_compile {source : String} {program : Program}
    (h : Program.compile source = .ok program) (tape : Tape) (port : π)
    (schedule : List (Option ForeignError)) :
    Retryable (start program port tape) (start program ⟨port, schedule⟩ tape) where
  ends _ _ _ _ hrun hverdict hcalls := rerun_of_ended hrun hverdict hcalls
  never_ends hrun _ _ hcalls := rerun_of_unfinished hrun hcalls
  foreign_of_interrupted middle fuel _ hlt := by
    rcases run_plain fuel middle with halike | ⟨_, hcut⟩
    · exact absurd halike.left_eq (Nat.ne_of_lt hlt)
    · exact hcut.verdict_eq
  interrupted_of_foreign hforeign middle fuel error hmiddle hraised := by
    have hprogram := Program.resolves_of_compile h
    have hwithin : Within program middle :=
      hmiddle.invariant (within_start program ⟨port, schedule⟩ tape) fun _ hstep =>
        within_step hprogram hstep
    have hplain : Within program middle.plain :=
      ⟨hwithin.program_eq, hwithin.index_nonneg, hwithin.index_le_length⟩
    rcases run_plain fuel middle with halike | ⟨_, hcut⟩
    · exact absurd (halike.verdict_eq.symm.trans hraised)
        (hplain.run_ne_foreign hprogram hforeign fuel error)
    · exact hcut.left_lt

/-- The first read and both writes are interrupted, one of them twice, and the bytes arrive
once each. -/
theorem retryable_of_compile_echo : ∃ program, Program.compile ",[.,]" = .ok program ∧
    ∃ m : Machine (InterruptedPort BufferPort), m.port.schedule =
        [some ⟨"A", "a"⟩, none, some ⟨"B", "b"⟩, some ⟨"A", "a"⟩, none, none, some ⟨"B", "b"⟩] ∧
      Retryable (start program (BufferPort.ofInput [65, 66]) Tape.single) m ∧
      (rerun 9 4 m).1.port.port = ⟨[], 2, #[65, 66]⟩ ∧
      (rerun 9 4 m).2 = .halted ⟨.halted, 9, 0, [0]⟩ := by
  have hcompile : Program.compile ",[.,]" = .ok
      ⟨#[.input, .loopOpen, .output, .input, .loopClose], ⟨[(1, 4), (4, 1)]⟩⟩ := rfl
  have hretryable := retryable_of_compile hcompile Tape.single (BufferPort.ofInput [65, 66])
    [some ⟨"A", "a"⟩, none, some ⟨"B", "b"⟩, some ⟨"A", "a"⟩, none, none, some ⟨"B", "b"⟩]
  obtain ⟨hplain, hverdict⟩ := hretryable.ends 9 4 _ (.halted ⟨.halted, 9, 0, [0]⟩) rfl
    (by simp) (by decide)
  exact ⟨_, hcompile, _, rfl, hretryable, congrArg Machine.port hplain, hverdict⟩

end Machine

end TapeMachine
