/-
  The records of compilations, steps and runs.

  A fault is noted by the step that raises it, and the end of a program by the run that
  reaches it.  Main statements: the records that are made up from a machine before and after a
  call are the notes taken on the way; a step or a run that turns a sound machine into a failed
  one leaves one warning, a run that ends leaves one record of its result, and all others
  leave none.  The record of a compilation counts the instructions and the loops, the warning
  names the index, the steps and the fault, and the record of a result names its steps and
  its cells.
-/
import TapeMachine.Journal
import TapeMachine.Proofs.Safety

set_option autoImplicit false

namespace TapeMachine

/-! ## Loops counted -/

theorem Block.length_loops (b : Block) (offset : Nat) :
    (b.loops offset).length = b.instructions.count .loopOpen := by
  induction b generalizing offset with
  | done => rfl
  | basic operation rest ih =>
      rw [loops, instructions, List.count_cons_of_ne operation.instruction_ne_loopOpen, ih]
  | loop body rest ihBody ihRest =>
      rw [loops, instructions, List.length_append, List.length_cons, ihBody, ihRest,
        List.count_cons_self, List.count_append, List.count_cons_of_ne (by simp)]
      omega

theorem JumpTable.loopCount_ofLoops (loops : List (Nat × Nat)) :
    (ofLoops loops).loopCount = loops.length := by
  have hlength : (loops.flatMap Loops.jumps).length = 2 * loops.length := by
    induction loops with
    | nil => rfl
    | cons loop rest ih =>
        rw [List.flatMap_cons, List.length_append, ih, List.length_cons]
        simp only [Loops.jumps, List.length_cons, List.length_nil]
        omega
  rw [loopCount, size, ofLoops, hlength, Nat.mul_div_cancel_left _ (by decide)]

/-- A compiled program has as many loops as opening brackets. -/
theorem Program.loopCount_of_compile {source : String} {program : Program}
    (h : compile source = .ok program) :
    program.jumps.loopCount = program.instructions.count .loopOpen := by
  obtain ⟨loops, hloops, htable⟩ :=
    (JumpTable.ofInstructions_eq_ok_iff _ _).1 (jumps_of_compile h)
  obtain ⟨b, hinstructions, rfl⟩ := (Block.loops_ofInstructions_iff _ _).1 hloops
  rw [← htable, JumpTable.loopCount_ofLoops, b.length_loops, hinstructions]

/-- The record of a compilation by what it counts. -/
def Record.counted (instructions loops : Nat) : Record :=
  ⟨.debug, "bytetape.program", s!"compiled {instructions} instructions, {loops} loops"⟩

theorem Program.compileRecords_of_compile {source : String} {program : Program}
    (h : compile source = .ok program) :
    compileRecords (compile source) =
      [.counted program.instructions.length (program.instructions.count .loopOpen)] := by
  rw [h, compileRecords, Record.compiled, loopCount_of_compile h, ← length_instructions,
    Record.counted]

/-! ## Notes -/

/-- The record of a failure by what it names. -/
def Record.warned (index : Int) (steps : Nat) (message : String) : Record :=
  ⟨.warning, "bytetape.executor",
    s!"execution failed at instruction {index} after {steps} steps: {message}"⟩

/-- The record of a result by what it counts. -/
def Record.returned (steps cells : Nat) : Record :=
  ⟨.debug, "bytetape.executor", s!"halted after {steps} steps, tape has {cells} cells"⟩

/-- What a verdict raises. -/
def Verdict.raised? : Verdict → Option Raised
  | .raised error => some error
  | _ => none

/-- The result of a verdict. -/
def Verdict.result? : Verdict → Option RunResult
  | .halted result => some result
  | _ => none

theorem Raised.eq_of_fault?_eq_some {error : Raised} {own : Fault} (h : error.fault? = some own) :
    error = .fault own := by
  cases error with
  | fault fault => rw [Option.some.inj h]
  | noTarget index | noInstruction index | foreign foreign => simp [fault?] at h

namespace Machine

variable {π : Type} [Port π] {m after : Machine π}

/-- What a step notes: the fault that it raises, if it does. -/
def stepNotes (m : Machine π) : List Record :=
  match m.step.2 with
  | some (.fault own) => [.warned m.step.1.index m.step.1.steps own.message]
  | _ => []

/-- What the steps of a run note, and what the run notes behind them at the end of the
program. -/
def runForNotes : (fuel : Nat) → Machine π → List Record
  | 0, _ => []
  | fuel + 1, m =>
      m.stepNotes ++
        match m.step.2 with
        | some _ => []
        | none =>
            if m.step.1.state = .running then runForNotes fuel m.step.1
            else [.returned m.step.1.steps m.step.1.tape.size]

/-- What a call of run notes.  A fault that is raised again is not noted again. -/
def runNotes (fuel : Nat) (m : Machine π) : List Record :=
  if m.fault.isSome then [] else runForNotes fuel m

/-! ## Faults after a call -/

omit [Port π] in
theorem state_ne_failed_iff (m : Machine π) : m.state ≠ .failed ↔ m.fault = none := by
  rw [ne_eq, state_failed_iff, ← Option.ne_none_iff_exists', not_not]

theorem step_of_fault {own : Fault} (h : m.fault = some own) : m.step = (m, none) := by
  have hstate : m.state = .failed := (state_failed_iff m).2 ⟨own, h⟩
  exact step_of_not_running (by simp [hstate])

/-- A step keeps the fault that the machine has, or else the one that it raises. -/
theorem fault_step (m : Machine π) :
    m.step.1.fault = m.fault.or (m.step.2.bind Raised.fault?) := by
  cases hfault : m.fault with
  | some own =>
      rw [step_of_fault hfault, hfault]
      rfl
  | none =>
      rw [Option.none_or]
      cases hraised : m.step.2 with
      | none => exact fault_step_of_not_raises hfault hraised
      | some error =>
          rw [eq_of_raises hraised]
          rfl

theorem fault_runFor (fuel : Nat) (h : m.fault = none) :
    (m.runFor fuel).1.fault = (m.runFor fuel).2.raised?.bind Raised.fault? := by
  induction fuel generalizing m with
  | zero => exact h
  | succ fuel ih =>
      have hfault := fault_step m
      rw [h, Option.none_or] at hfault
      rw [runFor_succ]
      cases hraised : m.step.2 with
      | some error =>
          rw [hraised] at hfault
          exact hfault
      | none =>
          rw [hraised] at hfault
          by_cases hrunning : m.step.1.state = .running
          · simp only [if_pos hrunning]
            exact ih hfault
          · simp only [if_neg hrunning]
            exact hfault

/-- A run keeps the fault that the machine has, or else the one that it raises. -/
theorem fault_run (fuel : Nat) (m : Machine π) :
    (m.run fuel).1.fault = m.fault.or ((m.run fuel).2.raised?.bind Raised.fault?) := by
  cases hfault : m.fault with
  | some own =>
      rw [run, hfault]
      exact hfault
  | none =>
      rw [run_of_fault_eq_none hfault, Option.none_or]
      exact fault_runFor fuel hfault

/-! ## Records are notes -/

omit [Port π] in
theorem faultRecords_of_fault {own : Fault} (h : m.fault = some own) :
    m.faultRecords after = [] := by
  rw [faultRecords, h]

omit [Port π] in
theorem faultRecords_of_sound (h : after.fault = none) : m.faultRecords after = [] := by
  rw [faultRecords, h]
  cases m.fault with
  | some own | none => rfl

omit [Port π] in
theorem faultRecords_of_fails {own : Fault} (h : m.fault = none) (hafter : after.fault = some own) :
    m.faultRecords after = [.warned after.index after.steps own.message] := by
  rw [faultRecords, h, hafter]
  rfl

/-- The record made up after a step is what the step notes. -/
theorem stepNotes_eq (m : Machine π) : m.stepNotes = m.faultRecords m.step.1 := by
  have hafter := fault_step m
  cases hfault : m.fault with
  | some own => rw [faultRecords_of_fault hfault, stepNotes, step_of_fault hfault]
  | none =>
      rw [hfault, Option.none_or] at hafter
      rw [stepNotes]
      cases hraised : m.step.2 with
      | none =>
          rw [hraised] at hafter
          exact (faultRecords_of_sound hafter).symm
      | some error =>
          rw [hraised] at hafter
          cases error with
          | fault own => exact (faultRecords_of_fails hfault hafter).symm
          | noTarget index | noInstruction index | foreign own =>
              exact (faultRecords_of_sound hafter).symm

omit [Port π] in
/-- Of the machine before a run only its fault matters for the records. -/
theorem runRecords_congr {m' : Machine π} (h : m.fault = m'.fault) (verdict : Verdict) :
    m.runRecords after verdict = m'.runRecords after verdict := by
  cases verdict with
  | halted result => rfl
  | raised error | unfinished => simp only [runRecords, faultRecords, h]

theorem runForNotes_eq (fuel : Nat) (h : m.fault = none) :
    m.runForNotes fuel = m.runRecords (m.runFor fuel).1 (m.runFor fuel).2 := by
  induction fuel generalizing m with
  | zero => exact (faultRecords_of_sound h).symm
  | succ fuel ih =>
      have hfault := fault_step m
      rw [runForNotes, runFor_succ, stepNotes_eq]
      cases hraised : m.step.2 with
      | some error => exact List.append_nil _
      | none =>
          rw [h, hraised] at hfault
          rw [faultRecords_of_sound hfault, List.nil_append]
          by_cases hrunning : m.step.1.state = .running
          -- The step has raised nothing, so what follows starts without a fault as well.
          · simp only [if_pos hrunning]
            rw [ih hfault, runRecords_congr (hfault.trans h.symm)]
          · simp only [if_neg hrunning]
            rfl

/-- The record made up after a run is what its steps and its end note. -/
theorem runNotes_eq (fuel : Nat) (m : Machine π) :
    m.runNotes fuel = m.runRecords (m.run fuel).1 (m.run fuel).2 := by
  cases hfault : m.fault with
  | some own =>
      rw [runNotes, run, hfault]
      exact (faultRecords_of_fault hfault).symm
  | none =>
      rw [runNotes, hfault, run_of_fault_eq_none hfault]
      exact runForNotes_eq fuel hfault

/-! ## Calls accounted for -/

/-- What a call of step or run leaves. -/
structure Drive (π : Type) where
  after : Machine π
  raised : Option Raised
  /-- The result that a run returns. -/
  result : Option RunResult
  records : List Record

/-- A call of step. -/
def driveStep (m : Machine π) : Drive π :=
  ⟨m.step.1, m.step.2, none, m.faultRecords m.step.1⟩

/-- A call of run. -/
def driveRun (fuel : Nat) (m : Machine π) : Drive π :=
  ⟨(m.run fuel).1, (m.run fuel).2.raised?, (m.run fuel).2.result?,
    m.runRecords (m.run fuel).1 (m.run fuel).2⟩

/-- The records of a call are those of what it did to the machine. -/
structure Accounted (m : Machine π) (drive : Drive π) : Prop where
  /-- The call that turns the machine failed leaves a warning. -/
  warns : m.state ≠ .failed → drive.after.state = .failed → ∃ own,
    drive.after.fault = some own ∧ drive.raised = some (.fault own) ∧
      drive.records = [.warned drive.after.index drive.after.steps own.message]
  returns : ∀ result, drive.result = some result →
    result = drive.after.result ∧ drive.records = [.returned result.steps result.cells.length]
  silent : (m.state = .failed ∨ drive.after.state ≠ .failed) → drive.result = none →
    drive.records = []
  /-- A failed machine stays failed, and nothing more is said of it. -/
  silent_of_failed : m.state = .failed → drive.after.state = .failed ∧ drive.records = []
  silent_of_halted : m.state = .halted → drive.result = none → drive.records = []
  silent_of_passed : ∀ error, drive.raised = some error → error.fault? = none →
    drive.records = []

/-- A call notes the fault that it raises, and the result that it returns. -/
structure Noted (m : Machine π) (drive : Drive π) : Prop where
  fault_eq : drive.after.fault = m.fault.or (drive.raised.bind Raised.fault?)
  raises_of_halted : m.state = .halted → drive.raised = none
  records_eq : drive.result = none → drive.records = m.faultRecords drive.after
  returns : ∀ result, drive.result = some result →
    m.fault = none ∧ drive.raised = none ∧ result = drive.after.result ∧
      drive.records = [.returned result.steps result.cells.length]

namespace Noted

variable {drive : Drive π}

omit [Port π]

theorem result_of_raises (h : Noted m drive) {error : Raised} (herror : drive.raised = some error) :
    drive.result = none := by
  cases hresult : drive.result with
  | none => rfl
  | some result => simp [(h.returns result hresult).2.1] at herror

theorem result_of_fault (h : Noted m drive) {own : Fault} (hbefore : m.fault = some own) :
    drive.result = none := by
  cases hresult : drive.result with
  | none => rfl
  | some result => simp [(h.returns result hresult).1] at hbefore

/-- A call in which the machine does not fail says nothing but what it returns. -/
theorem silent (h : Noted m drive) (hraised : drive.raised.bind Raised.fault? = none)
    (hresult : drive.result = none) : drive.records = [] := by
  have hfault := h.fault_eq
  rw [hraised, Option.or_none] at hfault
  rw [h.records_eq hresult]
  cases hbefore : m.fault with
  | some own => exact faultRecords_of_fault hbefore
  | none => exact faultRecords_of_sound (hfault.trans hbefore)

theorem keeps_failed (h : Noted m drive) (hstate : m.state = .failed) :
    drive.after.state = .failed ∧ drive.records = [] := by
  obtain ⟨own, hbefore⟩ := (state_failed_iff m).1 hstate
  have hafter : drive.after.fault = some own := by
    rw [h.fault_eq, hbefore, Option.some_or]
  refine ⟨(state_failed_iff _).2 ⟨own, hafter⟩, ?_⟩
  rw [h.records_eq (h.result_of_fault hbefore), faultRecords_of_fault hbefore]

theorem warns (h : Noted m drive) (hstate : m.state ≠ .failed)
    (hafter : drive.after.state = .failed) : ∃ own,
      drive.after.fault = some own ∧ drive.raised = some (.fault own) ∧
        drive.records = [.warned drive.after.index drive.after.steps own.message] := by
  have hbefore := (state_ne_failed_iff m).1 hstate
  obtain ⟨own, hown⟩ := (state_failed_iff _).1 hafter
  have hfault := h.fault_eq
  rw [hbefore, Option.none_or, hown] at hfault
  obtain ⟨error, herror, hfault⟩ := Option.bind_eq_some_iff.1 hfault.symm
  refine ⟨own, hown, ?_, ?_⟩
  · rw [herror, Raised.eq_of_fault?_eq_some hfault]
  · rw [h.records_eq (h.result_of_raises herror), faultRecords_of_fails hbefore hown]

theorem accounted (h : Noted m drive) : Accounted m drive where
  warns := h.warns
  returns result hresult := (h.returns result hresult).2.2
  silent := by
    rintro (hstate | hafter) hresult
    · exact (h.keeps_failed hstate).2
    · rw [h.records_eq hresult, faultRecords_of_sound ((state_ne_failed_iff _).1 hafter)]
  silent_of_failed := h.keeps_failed
  silent_of_halted hstate hresult :=
    h.silent (by rw [h.raises_of_halted hstate, Option.bind_none]) hresult
  silent_of_passed error herror hpassed :=
    h.silent (by rw [herror, Option.bind_some, hpassed]) (h.result_of_raises herror)

end Noted

theorem noted_driveStep (m : Machine π) : Noted m m.driveStep where
  fault_eq := fault_step m
  raises_of_halted hstate := by
    rw [driveStep, step_of_not_running (by simp [hstate])]
  records_eq _ := rfl
  returns _ hresult := by simp [driveStep] at hresult

/-- What a run that ends leaves: a sound machine and its result. -/
theorem returns_of_run {fuel : Nat} {result : RunResult}
    (h : (m.run fuel).2 = .halted result) :
    m.fault = none ∧ result = (m.run fuel).1.result := by
  cases hfault : m.fault with
  | some own => simp [run, hfault] at h
  | none =>
      rw [run_of_fault_eq_none hfault] at h ⊢
      exact ⟨rfl, result_of_runFor_halted h⟩

theorem raised?_run_of_halted (fuel : Nat) (h : m.state = .halted) :
    (m.run fuel).2.raised? = none := by
  rw [run_of_fault_eq_none ((state_halted_iff m).1 h).1]
  cases fuel with
  | zero => rfl
  | succ fuel =>
      rw [runFor_succ, step_of_not_running (by simp [h])]
      simp [h, Verdict.raised?]

theorem noted_driveRun (fuel : Nat) (m : Machine π) : Noted m (m.driveRun fuel) where
  fault_eq := fault_run fuel m
  raises_of_halted := raised?_run_of_halted fuel
  records_eq hresult := by
    simp only [driveRun] at hresult ⊢
    cases hverdict : (m.run fuel).2 with
    | halted result => simp [hverdict, Verdict.result?] at hresult
    | raised error | unfinished => rfl
  returns result hresult := by
    simp only [driveRun] at hresult ⊢
    cases hverdict : (m.run fuel).2 with
    | raised error | unfinished => simp [hverdict, Verdict.result?] at hresult
    | halted own =>
        rw [hverdict] at hresult
        obtain rfl := Option.some.inj hresult
        obtain ⟨hfault, rfl⟩ := returns_of_run hverdict
        exact ⟨hfault, rfl, rfl, by
          simp [runRecords, Record.halted, Record.returned, Machine.result, Tape.size]⟩

end Machine

end TapeMachine
