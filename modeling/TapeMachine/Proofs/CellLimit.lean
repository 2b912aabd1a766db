/-
  Runs under a limit of cells.

  A limit of cells is a threshold and nothing else, and the capacity of a new tape cannot be
  seen.  Main statement: a machine whose tape has a limit does what the machine without one
  does as long as that one keeps within the limit; the step with which it would go beyond
  the limit overflows and changes nothing.  So a run that halts with so many cells halts
  alike under every limit that allows them and overflows under every other limit.
-/
import TapeMachine.Interpreter
import TapeMachine.Proofs.ExactRuns
import TapeMachine.Proofs.Lockstep

set_option autoImplicit false

namespace TapeMachine

/-! ## Tapes with and without a limit -/

/-- The tapes show the same cells and the same pointer.  The first one has no limit, and the
second one has the given one; their capacities may differ. -/
structure Tape.Limited (bound : Nat) (free limited : Tape) : Prop where
  cells_eq : limited.cells = free.cells
  pointer_eq : limited.pointer = free.pointer
  limit_free : free.limit = none
  limit_limited : limited.limit = some bound

namespace Tape.Limited

variable {bound : Nat} {free limited : Tape}

theorem size_eq (h : Limited bound free limited) : limited.size = free.size :=
  congrArg Array.size h.cells_eq

theorem size_le (h : Limited bound free limited) : free.size ≤ bound := by
  rw [← h.size_eq]
  exact Nat.le_trans limited.size_le_capacity (limited.capacity_le_limit bound h.limit_limited)

theorem current_eq (h : Limited bound free limited) : limited.current = free.current := by
  simp only [current, h.cells_eq, h.pointer_eq]

theorem put (h : Limited bound free limited) (cell : UInt8) :
    Limited bound (free.put cell) (limited.put cell) where
  cells_eq := by simp only [cells_put, h.cells_eq, h.pointer_eq]
  pointer_eq := h.pointer_eq
  limit_free := h.limit_free
  limit_limited := h.limit_limited

theorem moveTo (h : Limited bound free limited) {position position' : Nat}
    (hposition : position' = position) (hfree : position < free.size)
    (hlimited : position' < limited.size) :
    Limited bound (free.moveTo position hfree) (limited.moveTo position' hlimited) where
  cells_eq := h.cells_eq
  pointer_eq := hposition
  limit_free := h.limit_free
  limit_limited := h.limit_limited

theorem moveLeft (h : Limited bound free limited) :
    Limited bound free.moveLeft.1 limited.moveLeft.1 ∧
      limited.moveLeft.2 = free.moveLeft.2 := by
  have hpointer := h.pointer_eq
  by_cases hzero : free.pointer = 0
  · rw [Tape.moveLeft, Tape.moveLeft, if_pos hzero, if_pos (hpointer.trans hzero)]
    exact ⟨h, rfl⟩
  · rw [Tape.moveLeft, Tape.moveLeft, if_neg hzero, if_neg (hpointer ▸ hzero)]
    exact ⟨h.moveTo (by rw [hpointer]) _ _, rfl⟩

/-- Both tapes move to the right, or the limited one has no cell left and the other one
gains a cell beyond the limit. -/
theorem moveRight (h : Limited bound free limited) :
    (Limited bound free.moveRight.1 limited.moveRight.1 ∧ free.moveRight.2 = none ∧
      limited.moveRight.2 = none) ∨
    (bound < free.moveRight.1.size ∧
      limited.moveRight = (limited, some (.overflow bound))) := by
  have hsize := h.size_eq
  have hpointer := h.pointer_eq
  rcases Nat.lt_or_ge (free.pointer + 1) free.size with hinside | hlast
  · have hinside' : limited.pointer + 1 < limited.size := by omega
    rw [moveRight_of_lt hinside, moveRight_of_lt hinside']
    exact Or.inl ⟨h.moveTo (by rw [hpointer]) _ _, rfl, rfl⟩
  have hlast' : limited.size ≤ limited.pointer + 1 := by omega
  have hfree : free.Allows (free.size + 1) := by
    intro other hother
    rw [h.limit_free] at hother
    simp at hother
  obtain ⟨grown, hmove, hcells, hgrown, hlimit, _⟩ := moveRight_of_room hlast hfree
  rw [hmove]
  rcases Nat.lt_or_ge limited.size bound with hroom | hfull
  · have hlimited : limited.Allows (limited.size + 1) := by
      intro other hother
      rw [h.limit_limited, Option.some.injEq] at hother
      omega
    obtain ⟨grown', hmove', hcells', hgrown', hlimit', _⟩ := moveRight_of_room hlast' hlimited
    rw [hmove']
    refine Or.inl ⟨⟨?_, ?_, ?_, ?_⟩, rfl, rfl⟩
    · rw [hcells', hcells, h.cells_eq]
    · rw [hgrown', hgrown, hsize]
    · rw [hlimit, h.limit_free]
    · rw [hlimit', h.limit_limited]
  · rw [moveRight_of_limit hlast' h.limit_limited hfull]
    refine Or.inr ⟨?_, rfl⟩
    rw [size, hcells, Array.size_push, ← size]
    omega

end Tape.Limited

/-! ## Tapes do not shrink -/

theorem Tape.size_le_moveRight (t : Tape) : t.size ≤ t.moveRight.1.size := by
  apply t.moveRight_cases (motive := fun result => t.size ≤ result.1.size)
  case inside => exact fun _ => Nat.le_refl _
  case full => exact fun _ _ _ _ => Nat.le_refl _
  case grows =>
    intro grown _ _ hcells _ _ _
    rw [size, size, hcells, Array.size_push]
    exact Nat.le_succ _

theorem Tape.size_moveLeft (t : Tape) : t.moveLeft.1.size = t.size := by
  rw [moveLeft]
  split <;> rfl

theorem Tape.size_put (t : Tape) (cell : UInt8) : (t.put cell).size = t.size := by
  simp [size]

theorem Instruction.size_le_execute {π : Type} [Port π] (x : Instruction) (jumps : JumpTable)
    (index : Int) (tape : Tape) (port : π) :
    tape.size ≤ (x.execute jumps index tape port).tape.size := by
  apply x.tape_execute_cases (motive := fun after => tape.size ≤ after.size)
  case same => exact Nat.le_refl _
  case right => exact tape.size_le_moveRight
  case left => exact Nat.le_of_eq tape.size_moveLeft.symm
  case put => exact fun cell => Nat.le_of_eq (tape.size_put cell).symm

namespace Machine

variable {π : Type} [Port π] {m free limited : Machine π} {bound : Nat}

theorem size_le_step (m : Machine π) : m.tape.size ≤ m.step.1.tape.size := by
  apply step_cases (motive := fun result => m.tape.size ≤ result.1.tape.size)
  case idle => exact fun _ => Nat.le_refl _
  case lost => exact fun _ _ => Nat.le_refl _
  case goes => exact fun x _ _ _ _ => x.size_le_execute _ _ _ _
  case raises => exact fun x _ _ _ _ _ => x.size_le_execute _ _ _ _

theorem size_le_runFor (m : Machine π) (fuel : Nat) :
    m.tape.size ≤ (m.runFor fuel).1.tape.size :=
  runFor_invariant (P := fun after => m.tape.size ≤ after.tape.size)
    (fun after h => Nat.le_trans h after.size_le_step) fuel (Nat.le_refl _)

theorem size_step_le_runFor (m : Machine π) (fuel : Nat) :
    m.step.1.tape.size ≤ (m.runFor (fuel + 1)).1.tape.size := by
  rw [runFor_succ]
  split
  · exact Nat.le_refl _
  · split
    · exact m.step.1.size_le_runFor fuel
    · exact Nat.le_refl _

/-! ## One step under a limit -/

/-- Executing an instruction does the same under a limit, unless it makes the tape too long,
where the limited tape overflows. -/
theorem execute_limited (x : Instruction) (jumps : JumpTable) (index : Int) (port : π)
    {tape tape' : Tape} (h : tape.Limited bound tape') :
    (x.execute jumps index tape port).Related (.ofTapes (Tape.Limited bound))
        (x.execute jumps index tape' port) ∨
      (bound < (x.execute jumps index tape port).tape.size ∧
        x.execute jumps index tape' port =
          ⟨tape', port, .error (.fault (.overflow bound))⟩) := by
  by_cases hright : x = .moveRight
  · subst hright
    rw [Instruction.execute_moveRight, Instruction.execute_moveRight]
    rcases h.moveRight with ⟨hmoved, hfree, hlimited⟩ | ⟨hlong, hlimited⟩
    · rw [hfree, hlimited]
      exact Or.inl ⟨rfl, hmoved, rfl⟩
    · rw [hlimited]
      exact Or.inr ⟨hlong, rfl⟩
  by_cases hleft : x = .moveLeft
  · subst hleft
    obtain ⟨hmoved, hfault⟩ := h.moveLeft
    rw [Instruction.execute_moveLeft, Instruction.execute_moveLeft, hfault]
    exact Or.inl ⟨rfl, hmoved, rfl⟩
  · exact Or.inl (x.execute_related_of_tapes jumps index port hright hleft h h.current_eq h.put)

/-- The machines are the same up to their tapes, which differ in the limit only. -/
def AlikeBelow (bound : Nat) (free limited : Machine π) : Prop :=
  Lockstep (.ofTapes (Tape.Limited bound)) free limited

/-- A machine whose step goes beyond the limit on a tape without one. -/
structure Overflows (bound : Nat) (free limited : Machine π) : Prop where
  bound_lt_size : bound < free.step.1.tape.size
  /-- Under the limit the step changes nothing but the fault. -/
  step_eq : limited.step =
    ({ limited with fault := some (.overflow bound) }, some (.fault (.overflow bound)))

/-- A step does the same under a limit, or it overflows. -/
theorem AlikeBelow.step (h : AlikeBelow bound free limited) :
    (AlikeBelow bound free.step.1 limited.step.1 ∧ limited.step.2 = free.step.2) ∨
      Overflows bound free limited := by
  obtain ⟨htape, hport⟩ := h.related
  have hsame : (∀ x, free.state = .running → free.program.fetch? free.index = some x →
      (x.execute free.program.jumps free.index free.tape free.port).Related
        (.ofTapes (Tape.Limited bound))
        (x.execute free.program.jumps free.index limited.tape limited.port)) →
      (AlikeBelow bound free.step.1 limited.step.1 ∧ limited.step.2 = free.step.2) ∨
        Overflows bound free limited :=
    fun hexecute => Or.inl (Lockstep.step h hexecute)
  by_cases hstate : free.state = .running
  · cases hfetch : free.program.fetch? free.index with
    | none => exact hsame fun x _ hx => by simp [hfetch] at hx
    | some x =>
        rcases execute_limited x free.program.jumps free.index free.port htape with
          hrelated | ⟨hlong, hoverflow⟩
        · refine hsame fun x' _ hx' => ?_
          obtain rfl := Option.some.inj (hfetch.symm.trans hx')
          rw [hport]
          exact hrelated
        · have hfetch' : limited.program.fetch? limited.index = some x := by
            rw [h.program_eq, h.index_eq, hfetch]
          rw [← h.program_eq, ← h.index_eq, ← hport] at hoverflow
          refine Or.inr ⟨?_, ?_⟩
          · rw [step_of_fetch hstate hfetch, tape_settle]
            exact hlong
          · rw [step_of_fetch (h.state_eq.trans hstate) hfetch', hoverflow]
            rfl
  · exact hsame fun x hrunning => absurd hrunning hstate

/-! ## Runs under a limit -/

/-- As long as the tape without a limit stays within it, calls of step do the same. -/
theorem AlikeBelow.stepTimes (h : AlikeBelow bound free limited) {n : Nat}
    (hsize : ∀ k ≤ n, (free.stepTimes k).tape.size ≤ bound) :
    AlikeBelow bound (free.stepTimes n) (limited.stepTimes n) := by
  induction n with
  | zero => exact h
  | succ n ih =>
      have hbefore := ih fun k hk => hsize k (Nat.le_succ_of_le hk)
      have hafter := hsize (n + 1) (Nat.le_refl _)
      rw [stepTimes_succ] at hafter
      rw [stepTimes_succ, stepTimes_succ]
      rcases hbefore.step with ⟨halike, _⟩ | hoverflows
      · exact halike
      · exact absurd hoverflows.bound_lt_size (Nat.not_lt.2 hafter)

omit [Port π] in
theorem AlikeBelow.result_eq (h : AlikeBelow bound free limited) :
    limited.result = free.result := by
  obtain ⟨htape, _⟩ := h.related
  exact Lockstep.result_eq h htape.cells_eq htape.pointer_eq

/-- A run does the same under a limit, or its tape becomes too long and it overflows. -/
theorem AlikeBelow.runFor (h : AlikeBelow bound free limited) (fuel : Nat) :
    (AlikeBelow bound (free.runFor fuel).1 (limited.runFor fuel).1 ∧
      (limited.runFor fuel).2 = (free.runFor fuel).2) ∨
    (bound < (free.runFor fuel).1.tape.size ∧
      (limited.runFor fuel).2 = .raised (.fault (.overflow bound))) := by
  induction fuel generalizing free limited with
  | zero => exact Or.inl ⟨h, rfl⟩
  | succ fuel ih =>
      rcases h.step with ⟨halike, hraised⟩ | hoverflows
      · rw [runFor_succ, runFor_succ, hraised, halike.state_eq, halike.result_eq]
        cases free.step.2 with
        | some error => exact Or.inl ⟨halike, rfl⟩
        | none =>
            by_cases hrunning : free.step.1.state = .running
            · simp only [if_pos hrunning]
              exact ih halike
            · simp only [if_neg hrunning]
              exact Or.inl ⟨halike, trivial⟩
      · refine Or.inr ⟨?_, ?_⟩
        · exact Nat.lt_of_lt_of_le hoverflows.bound_lt_size (free.size_step_le_runFor fuel)
        · rw [runFor_succ, hoverflows.step_eq]

/-! ## What is seen -/

/-- What can be seen of the machines is the same. -/
structure SameView (free limited : Machine π) : Prop where
  index_eq : limited.index = free.index
  steps_eq : limited.steps = free.steps
  state_eq : limited.state = free.state
  fault_eq : limited.fault = free.fault
  pointer_eq : limited.tape.pointer = free.tape.pointer
  cells_eq : limited.tape.cells = free.tape.cells
  port_eq : limited.port = free.port

omit [Port π] in
theorem AlikeBelow.sameView (h : AlikeBelow bound free limited) : SameView free limited where
  index_eq := h.index_eq
  steps_eq := h.steps_eq
  state_eq := h.state_eq
  fault_eq := h.fault_eq
  pointer_eq := h.related.1.pointer_eq
  cells_eq := h.related.1.cells_eq
  port_eq := h.related.2

/-- The limit is a threshold: as long as the tape without a limit keeps within it, the machines
look the same, and the step that goes beyond it overflows and changes nothing but the fault. -/
structure Threshold (bound : Nat) (free limited : Machine π) : Prop where
  sameView : ∀ n, (∀ k ≤ n, (free.stepTimes k).tape.size ≤ bound) →
    SameView (free.stepTimes n) (limited.stepTimes n)
  raised_eq : ∀ n, (∀ k ≤ n + 1, (free.stepTimes k).tape.size ≤ bound) →
    (limited.stepTimes n).step.2 = (free.stepTimes n).step.2
  overflows : ∀ n, (∀ k ≤ n, (free.stepTimes k).tape.size ≤ bound) →
    bound < (free.stepTimes (n + 1)).tape.size →
      (limited.stepTimes n).step =
        ({ limited.stepTimes n with fault := some (.overflow bound) },
          some (.fault (.overflow bound)))

theorem AlikeBelow.threshold (h : AlikeBelow bound free limited) :
    Threshold bound free limited where
  sameView n hsize := (h.stepTimes hsize).sameView
  raised_eq n hsize := by
    have hbefore := h.stepTimes fun k hk => hsize k (Nat.le_succ_of_le hk)
    have hafter := hsize (n + 1) (Nat.le_refl _)
    rw [stepTimes_succ] at hafter
    rcases hbefore.step with ⟨_, hraised⟩ | hoverflows
    · exact hraised
    · exact absurd hoverflows.bound_lt_size (Nat.not_lt.2 hafter)
  overflows n hsize hlong := by
    rw [stepTimes_succ] at hlong
    rcases (h.stepTimes hsize).step with ⟨halike, _⟩ | hoverflows
    · exact absurd halike.related.1.size_le (Nat.not_le.2 hlong)
    · exact hoverflows.step_eq

end Machine

/-! ## Runs of source texts -/

/-- New tapes differ in their limit only, whatever capacities are asked for. -/
theorem Settings.exists_newTape_limited (settings settings' : Settings) {bound : Nat}
    (hbound : 1 ≤ bound) :
    ∃ free limited, { settings with maxCells := none }.newTape = some free ∧
      { settings' with maxCells := some (bound : Int) }.newTape = some limited ∧
        free.Limited bound limited := by
  have hallowed : (1 : Int) ≤ bound := Int.ofNat_le.2 hbound
  simp only [newTape, Tape.create, dif_pos hallowed]
  exact ⟨_, _, rfl, rfl, rfl, rfl, rfl, rfl⟩

namespace Interpreter

theorem Ending.eq_halted_of_ofVerdict {verdict : Verdict} {result : RunResult}
    (h : ofVerdict verdict = .halted result) : verdict = .halted result := by
  cases verdict with
  | halted other => rw [ofVerdict, halted.injEq] at h; rw [h]
  | raised error => simp [ofVerdict] at h
  | unfinished => simp [ofVerdict] at h

end Interpreter

namespace Machine

variable {π : Type} [Port π] {program : Program} {free limited : Machine π} {bound : Nat}

omit [Port π] in
/-- Alike machines leave the same records behind. -/
theorem AlikeBelow.runRecords_eq {free' limited' : Machine π} (h : AlikeBelow bound free limited)
    (h' : AlikeBelow bound free' limited') (verdict : Verdict) :
    limited.runRecords limited' verdict = free.runRecords free' verdict :=
  Lockstep.runRecords_eq h h' h'.related.1.size_eq verdict

end Machine

/-- For a compiled program and any two capacities, a limit of cells is a threshold.  A run that
halts with so many cells is the same under a limit that allows them, and overflows under
a limit that does not. -/
theorem Machine.threshold_of_compile {source : String} {program : Program}
    (h : Program.compile source = .ok program) {π : Type} [Port π] (port : π)
    (settings settings' : Settings) {bound : Nat} (hbound : 1 ≤ bound) :
    ∃ free limited, { settings with maxCells := none }.newTape = some free ∧
      { settings' with maxCells := some (bound : Int) }.newTape = some limited ∧
      Threshold bound (start program port free) (start program port limited) ∧
      ∀ fuel result,
        (Interpreter.run fuel source port { settings with maxCells := none }).ending =
          .halted result →
        (result.cells.length ≤ bound →
          Interpreter.run fuel source port { settings' with maxCells := some (bound : Int) } =
            Interpreter.run fuel source port { settings with maxCells := none }) ∧
        (bound < result.cells.length →
          (Interpreter.run fuel source port
            { settings' with maxCells := some (bound : Int) }).ending =
              .raised (.fault (.overflow bound))) := by
  obtain ⟨free, limited, hfree, hlimited, htape⟩ :=
    Settings.exists_newTape_limited settings settings' hbound
  have halike : AlikeBelow bound (start program port free) (start program port limited) :=
    lockstep_start program ⟨htape, rfl⟩
  refine ⟨free, limited, hfree, hlimited, halike.threshold, fun fuel result hhalted => ?_⟩
  rw [Interpreter.run_of_compile h hfree] at hhalted
  rw [Interpreter.run_of_compile h hfree, Interpreter.run_of_compile h hlimited]
  have hcells : result.cells.length = ((start program port free).runFor fuel).1.tape.size := by
    rw [result_of_runFor_halted (Interpreter.Ending.eq_halted_of_ofVerdict hhalted)]
    exact Array.length_toList
  rw [hcells]
  rcases halike.runFor fuel with ⟨hafter, hverdict⟩ | ⟨hlong, hoverflow⟩
  · refine ⟨fun _ => ?_, fun hlong => absurd hafter.related.1.size_le (Nat.not_le.2 hlong)⟩
    simp only [hverdict, halike.runRecords_eq hafter, hafter.related.2]
  · refine ⟨fun hle => absurd hlong (Nat.not_lt.2 hle), fun _ => ?_⟩
    simp only [hoverflow]
    rfl

/-- A run of three cells, under limits of two and of three cells. -/
theorem Machine.threshold_of_compile_three :
    (Interpreter.run 5 ">>+" (BufferPort.ofInput []) { maxCells := some 2 }).ending =
        .raised (.fault (.overflow 2)) ∧
      Interpreter.run 5 ">>+" (BufferPort.ofInput []) { maxCells := some 3, initialCells := 7 } =
        Interpreter.run 5 ">>+" (BufferPort.ofInput []) { initialCells := -1 } := by
  have hcompile : Program.compile ">>+" =
      .ok ⟨#[.moveRight, .moveRight, .increment], ⟨[]⟩⟩ := rfl
  have hhalted : (Interpreter.run 5 ">>+" (BufferPort.ofInput [])
      { initialCells := -1, maxCells := none }).ending = .halted ⟨.halted, 3, 2, [0, 0, 1]⟩ := rfl
  obtain ⟨_, _, _, _, _, hruns⟩ := threshold_of_compile hcompile (BufferPort.ofInput [])
    { initialCells := -1 } {} (show 1 ≤ 2 by decide)
  obtain ⟨_, _, _, _, _, hruns'⟩ := threshold_of_compile hcompile (BufferPort.ofInput [])
    { initialCells := -1 } { initialCells := 7 } (show 1 ≤ 3 by decide)
  exact ⟨(hruns 5 _ hhalted).2 (by decide), (hruns' 5 _ hhalted).1 (by decide)⟩

end TapeMachine
