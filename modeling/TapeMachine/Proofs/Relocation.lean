/-
  Cells in front of a tape.

  A machine cannot tell how many cells are in front of those it uses, as long as it does not
  move off the left end of the tape.  Main statement: with any cells put in front, and a
  limit that allows so many cells more, a machine does the same in as many steps as it takes
  without an underflow; the cells in front stay as they are.  The step that would underflow
  goes on into them.
-/
import TapeMachine.Port.Buffer
import TapeMachine.Proofs.Driving
import TapeMachine.Proofs.Lockstep

set_option autoImplicit false

namespace TapeMachine

/-! ## Tapes with cells in front -/

/-- The second tape is the first one with cells in front.  Its pointer stands so much farther
to the right, and its limit, when there is one, allows so many cells more; the capacities may
differ in any way. -/
structure Tape.Relocated (front : Array UInt8) (tape tape' : Tape) : Prop where
  cells_eq : tape'.cells = front ++ tape.cells
  pointer_eq : tape'.pointer = front.size + tape.pointer
  limit_eq : tape'.limit = tape.limit.map (front.size + ·)

/-- The tape with cells in front. -/
def Tape.behind (t : Tape) (front : Array UInt8) : Tape where
  cells := front ++ t.cells
  capacity := front.size + t.capacity
  pointer := front.size + t.pointer
  limit := t.limit.map (front.size + ·)
  pointer_lt_size := by
    rw [Array.size_append]
    exact Nat.add_lt_add_left t.pointer_lt_size _
  size_le_capacity := by
    rw [Array.size_append]
    exact Nat.add_le_add_left t.size_le_capacity _
  capacity_le_limit := by
    intro bound hbound
    obtain ⟨bound, hlimit, rfl⟩ := Option.map_eq_some_iff.1 hbound
    exact Nat.add_le_add_left (t.capacity_le_limit bound hlimit) _

namespace Tape.Relocated

variable {front : Array UInt8} {tape tape' : Tape}

theorem behind (tape : Tape) (front : Array UInt8) : Relocated front tape (tape.behind front) :=
  ⟨rfl, rfl, rfl⟩

theorem size_eq (h : Relocated front tape tape') : tape'.size = front.size + tape.size := by
  rw [size, h.cells_eq, Array.size_append, size]

theorem limit_of_some (h : Relocated front tape tape') {bound : Nat}
    (hlimit : tape.limit = some bound) : tape'.limit = some (front.size + bound) := by
  rw [h.limit_eq, hlimit]
  rfl

theorem allows (h : Relocated front tape tape') {count : Nat} (hallows : tape.Allows count) :
    tape'.Allows (front.size + count) := by
  intro bound hbound
  rw [h.limit_eq] at hbound
  obtain ⟨bound, hlimit, rfl⟩ := Option.map_eq_some_iff.1 hbound
  exact Nat.add_le_add_left (hallows bound hlimit) _

theorem current_eq (h : Relocated front tape tape') : tape'.current = tape.current := by
  simp only [current, h.cells_eq, h.pointer_eq]
  rw [Array.getElem_append_right (Nat.le_add_right _ _)]
  simp only [Nat.add_sub_cancel_left]

theorem put (h : Relocated front tape tape') (cell : UInt8) :
    Relocated front (tape.put cell) (tape'.put cell) where
  cells_eq := by
    simp only [cells_put, h.cells_eq, h.pointer_eq]
    rw [Array.set_append_right _ (Nat.le_add_right _ _)]
    simp only [Nat.add_sub_cancel_left]
  pointer_eq := h.pointer_eq
  limit_eq := h.limit_eq

theorem moveTo (h : Relocated front tape tape') {place place' : Nat}
    (hplace : place' = front.size + place) (hlt : place < tape.size) (hlt' : place' < tape'.size) :
    Relocated front (tape.moveTo place hlt) (tape'.moveTo place' hlt') where
  cells_eq := h.cells_eq
  pointer_eq := hplace
  limit_eq := h.limit_eq

/-- Away from the left end of the tape both tapes move to the left. -/
theorem moveLeft (h : Relocated front tape tape') (hpointer : tape.pointer ≠ 0) :
    Relocated front tape.moveLeft.1 tape'.moveLeft.1 ∧
      tape'.moveLeft.2 = tape.moveLeft.2 := by
  have hpointer' : tape'.pointer ≠ 0 := by
    have := h.pointer_eq
    omega
  obtain ⟨hlt, hmove⟩ := moveLeft_of_pos hpointer
  obtain ⟨hlt', hmove'⟩ := moveLeft_of_pos hpointer'
  rw [hmove, hmove']
  refine ⟨h.moveTo ?_ hlt hlt', rfl⟩
  have := h.pointer_eq
  omega

/-- Both tapes move to the right, or both are on the last cell that their limits allow. -/
theorem moveRight (h : Relocated front tape tape') :
    (Relocated front tape.moveRight.1 tape'.moveRight.1 ∧
      tape'.moveRight.2 = tape.moveRight.2) ∨
    ∃ bound : Nat, tape.moveRight = (tape, some (.overflow bound)) ∧
      tape'.moveRight = (tape', some (.overflow (front.size + bound : Nat))) := by
  have hsize := h.size_eq
  have hpointer := h.pointer_eq
  apply tape.moveRight_cases (motive := fun result =>
    (Relocated front result.1 tape'.moveRight.1 ∧ tape'.moveRight.2 = result.2) ∨
      ∃ bound : Nat, result = (tape, some (.overflow bound)) ∧
        tape'.moveRight = (tape', some (.overflow (front.size + bound : Nat))))
  case inside =>
    intro hinside
    have hinside' : tape'.pointer + 1 < tape'.size := by omega
    rw [moveRight_of_lt hinside']
    exact Or.inl ⟨h.moveTo (by omega) hinside hinside', rfl⟩
  case grows =>
    intro grown hlast hroom hcells hgrown hlimit _
    have hroom' : tape'.Allows (tape'.size + 1) := by
      rw [hsize, Nat.add_assoc]
      exact h.allows hroom
    obtain ⟨grown', hmove', hcells', hgrown', hlimit', _⟩ :=
      moveRight_of_room (t := tape') (by omega) hroom'
    rw [hmove']
    refine Or.inl ⟨⟨?_, ?_, ?_⟩, rfl⟩
    · rw [hcells', hcells, h.cells_eq, Array.push_append]
    · rw [hgrown', hgrown, hsize]
    · rw [hlimit', hlimit, h.limit_eq]
  case full =>
    intro bound hlimit hlast hbound
    refine Or.inr ⟨bound, rfl, ?_⟩
    exact moveRight_of_limit (by omega) (h.limit_of_some hlimit) (by omega)

end Tape.Relocated

/-! ## Faults -/

/-- The faults are the same, or both tapes would grow past their limits, the second of which
allows so many cells more. -/
inductive Fault.Relocated (count : Nat) : Fault → Fault → Prop
  | same (fault : Fault) : Relocated count fault fault
  | overflow (bound : Nat) : Relocated count (.overflow bound) (.overflow (count + bound : Nat))

/-- The errors are the same, up to the limit in an overflow. -/
inductive Raised.Relocated (count : Nat) : Raised → Raised → Prop
  | same (error : Raised) : Relocated count error error
  | overflow (bound : Nat) :
      Relocated count (.fault (.overflow bound)) (.fault (.overflow (count + bound : Nat)))

theorem Fault.rel_self (count : Nat) (fault : Option Fault) :
    Option.Rel (Fault.Relocated count) fault fault := by
  cases fault with
  | none => exact .none
  | some fault => exact .some (.same fault)

theorem Raised.rel_self (count : Nat) (raised : Option Raised) :
    Option.Rel (Raised.Relocated count) raised raised := by
  cases raised with
  | none => exact .none
  | some error => exact .some (.same error)

/-! ## Underflows -/

/-- An underflow comes from a move to the left, unless the port raises it. -/
theorem Instruction.eq_moveLeft_of_underflow {π : Type} [Port π] {x : Instruction}
    {jumps : JumpTable} {index : Int} {tape : Tape} {port : π} {place : Option Int}
    (h : (x.execute jumps index tape port).next = .error (.fault (.underflow place))) :
    x = .moveLeft ∨ Port.Raises port (.fault (.underflow place)) := by
  have hown : ∀ error, Raised.ofPort error = .fault (.underflow place) →
      error = .fault (.underflow place) := by
    intro error heq
    cases error with
    | fault own => rw [Raised.fault.inj heq]
    | failure cause | foreign own => simp [Raised.ofPort] at heq
  cases x with
  | moveRight =>
      rw [execute_moveRight] at h
      cases hfault : tape.moveRight.2 with
      | none => simp [hfault] at h
      | some own =>
          obtain ⟨bound, _, _, rfl⟩ := (tape.moveRight_fault_iff own).1 hfault
          simp [hfault] at h
  | moveLeft => exact Or.inl rfl
  | increment | decrement => simp [execute] at h
  | output =>
      rw [execute_output] at h
      rcases hwrite : (Port.write port tape.current.toNat).2 with error | done
      · simp only [hwrite, Except.error.injEq] at h
        rw [hown error h] at hwrite
        exact Or.inr (Or.inr ⟨tape.current, hwrite⟩)
      · simp [hwrite] at h
  | input =>
      rw [execute_input, Port.nextCell] at h
      rcases hread : (Port.read port).2 with error | value
      · simp only [hread, Except.error.injEq] at h
        rw [hown error h] at hread
        exact Or.inr (Or.inl hread)
      · rcases hcell : Tape.cellOf (value.getD 0) with failure | cell <;>
          simp [hread, hcell] at h
  | loopOpen =>
      rw [execute] at h
      split at h
      · split at h <;> simp at h
      · simp at h
  | loopClose =>
      rw [execute] at h
      split at h
      · simp at h
      · split at h <;> simp at h

namespace Machine

variable {π : Type} {front : Array UInt8} {m m' : Machine π}

/-! ## Machines -/

/-- The machines are the same but for the cells in front of the tape of the second one, and
for the limit in an overflow. -/
structure Relocated (front : Array UInt8) (m m' : Machine π) : Prop where
  program_eq : m'.program = m.program
  index_eq : m'.index = m.index
  steps_eq : m'.steps = m.steps
  port_eq : m'.port = m.port
  fault : Option.Rel (Fault.Relocated front.size) m.fault m'.fault
  tape : m.tape.Relocated front m'.tape

theorem Relocated.state_eq (h : Relocated front m m') : m'.state = m.state := by
  have hfault : m'.fault.isSome = m.fault.isSome := by
    have hrel := h.fault
    generalize m.fault = fault, m'.fault = fault' at hrel
    cases hrel <;> rfl
  rw [state, state, hfault, h.program_eq, h.index_eq]

theorem relocated_start {tape tape' : Tape} (program : Program) (port : π)
    (h : tape.Relocated front tape') :
    Relocated front (start program port tape) (start program port tape') :=
  ⟨rfl, rfl, rfl, rfl, .none, h⟩

/-- Effects that are related settle into machines that are. -/
theorem relocated_settle {effect effect' : Effect π} (program : Program) (index : Int)
    (steps : Nat) (h : effect.Related (.ofTapes (Tape.Relocated front)) effect') :
    Relocated front (settle program index steps effect).1
        (settle program index steps effect').1 ∧
      (settle program index steps effect').2 = (settle program index steps effect).2 := by
  obtain ⟨htape, hport⟩ := h.related
  obtain ⟨⟨hprogram, hindex, hsteps, hfault, _⟩, hraised⟩ :=
    lockstep_settle program index steps h
  refine ⟨⟨hprogram, hindex, hsteps, ?_, ?_, ?_⟩, hraised⟩
  · rw [port_settle, port_settle, hport]
  · rw [hfault]
    exact Fault.rel_self _ _
  · rw [tape_settle, tape_settle]
    exact htape

variable [Port π]

/-- Executing an instruction does the same on the relocated tape, unless both tapes overflow
or the first one would be left on its left side. -/
theorem execute_relocated (x : Instruction) (jumps : JumpTable) (index : Int) (port : π)
    {tape tape' : Tape} (h : tape.Relocated front tape') :
    (x.execute jumps index tape port).Related (.ofTapes (Tape.Relocated front))
        (x.execute jumps index tape' port) ∨
      (∃ bound : Nat,
        x.execute jumps index tape port = ⟨tape, port, .error (.fault (.overflow bound))⟩ ∧
        x.execute jumps index tape' port =
          ⟨tape', port, .error (.fault (.overflow (front.size + bound : Nat)))⟩) ∨
      (x = .moveLeft ∧ tape.pointer = 0) := by
  by_cases hright : x = .moveRight
  · subst hright
    rw [Instruction.execute_moveRight, Instruction.execute_moveRight]
    rcases h.moveRight with ⟨hmoved, hfault⟩ | ⟨bound, hfull, hfull'⟩
    · rw [hfault]
      exact Or.inl ⟨rfl, hmoved, rfl⟩
    · rw [hfull, hfull']
      exact Or.inr (Or.inl ⟨bound, rfl, rfl⟩)
  by_cases hleft : x = .moveLeft
  · subst hleft
    by_cases hzero : tape.pointer = 0
    · exact Or.inr (Or.inr ⟨rfl, hzero⟩)
    · obtain ⟨hmoved, hfault⟩ := h.moveLeft hzero
      rw [Instruction.execute_moveLeft, Instruction.execute_moveLeft, hfault]
      exact Or.inl ⟨rfl, hmoved, rfl⟩
  · exact Or.inl (x.execute_related_of_tapes jumps index port hright hleft h h.current_eq h.put)

/-! ## The left end of the tape -/

/-- The next call of step moves to the left and raises an underflow.  An underflow that the
port raises on its own is none of these. -/
def Underflows (m : Machine π) : Prop :=
  m.program.fetch? m.index = some .moveLeft ∧
    ∃ index, m.step.2 = some (.fault (.underflow index))

omit [Port π] in
/-- The next instruction would move off the left end of the tape. -/
def AtLeftEnd (m : Machine π) : Prop :=
  m.state = .running ∧ m.program.fetch? m.index = some .moveLeft ∧ m.tape.pointer = 0

theorem underflows_iff_atLeftEnd : Underflows m ↔ AtLeftEnd m := by
  constructor
  · rintro ⟨hfetch, index, herror⟩
    have hstate : m.state = .running := running_of_raises (Prod.ext rfl herror)
    refine ⟨hstate, hfetch, ?_⟩
    by_contra hpointer
    obtain ⟨_, hmove⟩ := Tape.moveLeft_of_pos hpointer
    rw [step_of_fetch hstate hfetch, raised_settle_iff, Instruction.execute_moveLeft,
      hmove] at herror
    simp at herror
  · rintro ⟨hstate, hfetch, hzero⟩
    refine ⟨hfetch, some m.index, ?_⟩
    rw [step_of_fetch hstate hfetch, raised_settle_iff, Instruction.execute_moveLeft,
      Tape.moveLeft_of_zero hzero]

theorem underflows_of_raised {index : Option Int}
    (h : m.step.2 = some (.fault (.underflow index))) :
    Underflows m ∨ Port.Raises m.port (.fault (.underflow index)) := by
  have hstate : m.state = .running := running_of_raises (Prod.ext rfl h)
  cases hfetch : m.program.fetch? m.index with
  | none =>
      rw [step, if_pos hstate, hfetch] at h
      simp at h
  | some x =>
      have herror := h
      rw [step_of_fetch hstate hfetch, raised_settle_iff] at herror
      apply (Instruction.eq_moveLeft_of_underflow herror).imp_left
      rintro rfl
      exact ⟨hfetch, index, h⟩

/-! ## One step -/

/-- A step does the same with cells in front, unless it would move off the left end. -/
theorem Relocated.step (h : Relocated front m m') (hinside : ¬ Underflows m) :
    Relocated front m.step.1 m'.step.1 ∧
      Option.Rel (Raised.Relocated front.size) m.step.2 m'.step.2 := by
  have hstate' := h.state_eq
  by_cases hstate : m.state = .running
  · rw [hstate] at hstate'
    cases hfetch : m.program.fetch? m.index with
    | none =>
        have hfetch' : m'.program.fetch? m'.index = none := by
          rw [h.program_eq, h.index_eq, hfetch]
        rw [Machine.step, Machine.step, if_pos hstate, if_pos hstate', hfetch, hfetch', h.index_eq]
        exact ⟨h, Raised.rel_self _ _⟩
    | some x =>
        have hfetch' : m'.program.fetch? m'.index = some x := by
          rw [h.program_eq, h.index_eq, hfetch]
        rw [step_of_fetch hstate hfetch, step_of_fetch hstate' hfetch', h.program_eq, h.index_eq,
          h.steps_eq, h.port_eq]
        rcases execute_relocated x m.program.jumps m.index m.port h.tape with
          hrelated | ⟨bound, hfull, hfull'⟩ | ⟨rfl, hzero⟩
        · obtain ⟨hafter, hraised⟩ := relocated_settle m.program m.index m.steps hrelated
          rw [hraised]
          exact ⟨hafter, Raised.rel_self _ _⟩
        · rw [hfull, hfull']
          exact ⟨⟨rfl, rfl, rfl, rfl, .some (.overflow bound), h.tape⟩, .some (.overflow bound)⟩
        · exact absurd (underflows_iff_atLeftEnd.2 ⟨hstate, hfetch, hzero⟩) hinside
  · rw [step_of_not_running hstate, step_of_not_running (hstate' ▸ hstate)]
    exact ⟨h, .none⟩

/-- Where the first machine would move off the left end, the second one goes on. -/
theorem Relocated.completes (h : Relocated front m m') (hfront : front.size ≠ 0)
    (hend : Underflows m) : m'.Completes ∧ m'.step.1.fault = none := by
  obtain ⟨hstate, hfetch, _⟩ := underflows_iff_atLeftEnd.1 hend
  have hstate' : m'.state = .running := h.state_eq.trans hstate
  have hfetch' : m'.program.fetch? m'.index = some .moveLeft := by
    rw [h.program_eq, h.index_eq, hfetch]
  have hpointer : m'.tape.pointer ≠ 0 := by
    rw [h.tape.pointer_eq]
    omega
  obtain ⟨_, hmove⟩ := Tape.moveLeft_of_pos hpointer
  rw [Completes, step_of_fetch hstate' hfetch', Instruction.execute_moveLeft, hmove]
  exact ⟨⟨hstate', rfl⟩, rfl⟩

/-! ## Any number of steps -/

theorem Relocated.stepTimes (h : Relocated front m m') {n : Nat}
    (hinside : ∀ k < n, ¬ Underflows (m.stepTimes k)) :
    Relocated front (m.stepTimes n) (m'.stepTimes n) := by
  induction n with
  | zero => exact h
  | succ n ih =>
      have hbefore := ih fun k hk => hinside k (Nat.lt_succ_of_lt hk)
      rw [stepTimes_succ, stepTimes_succ]
      exact (hbefore.step (hinside n (Nat.lt_succ_self n))).1

/-- The machines do the same as long as the first one does not underflow, and where it does,
the second one goes on. -/
structure Relocatable (front : Array UInt8) (m m' : Machine π) : Prop where
  relocated : ∀ n, (∀ k < n, ¬ Underflows (m.stepTimes k)) →
    Relocated front (m.stepTimes n) (m'.stepTimes n) ∧
      (m'.stepTimes n).state = (m.stepTimes n).state ∧
        (m'.stepTimes n).tape.size = front.size + (m.stepTimes n).tape.size
  /-- What one machine raises the other one raises in the same step. -/
  raised : ∀ n, (∀ k ≤ n, ¬ Underflows (m.stepTimes k)) →
    Option.Rel (Raised.Relocated front.size) (m.stepTimes n).step.2 (m'.stepTimes n).step.2
  goes_on : ∀ n, (∀ k < n, ¬ Underflows (m.stepTimes k)) → Underflows (m.stepTimes n) →
    (m'.stepTimes n).Completes ∧ (m'.stepTimes (n + 1)).fault = none
  /-- Moves to the left raise every underflow that the port does not raise. -/
  underflows_of_raised : ∀ n index,
    (m.stepTimes n).step.2 = some (.fault (.underflow index)) →
      Underflows (m.stepTimes n) ∨ Port.Raises (m.stepTimes n).port (.fault (.underflow index))

/-- Every program, compiled or not, does the same over every port on a tape with cells in
front. -/
theorem relocatable_start {tape tape' : Tape} (htape : tape.Relocated front tape')
    (hfront : 1 ≤ front.size) (program : Program) (port : π) :
    Relocatable front (start program port tape) (start program port tape') := by
  have hstart := relocated_start program port htape
  constructor
  case relocated =>
    intro n hinside
    have hafter := hstart.stepTimes hinside
    exact ⟨hafter, hafter.state_eq, hafter.tape.size_eq⟩
  case raised =>
    intro n hinside
    have hbefore := hstart.stepTimes fun k hk => hinside k (Nat.le_of_lt hk)
    exact (hbefore.step (hinside n (Nat.le_refl n))).2
  case goes_on =>
    intro n hinside hunderflow
    rw [stepTimes_succ]
    exact (hstart.stepTimes hinside).completes (Nat.ne_of_gt hfront) hunderflow
  case underflows_of_raised =>
    intro n index hraised
    exact Machine.underflows_of_raised hraised

/-- The last step moves off a tape of two cells, and onto the cells in front of it. -/
theorem relocatable_start_underflow : ∃ program, Program.compile "+><<" = .ok program ∧
    let m := start program (BufferPort.ofInput []) Tape.single
    let m' := start program (BufferPort.ofInput []) (Tape.single.behind #[7, 9])
    Tape.single.Relocated #[7, 9] (Tape.single.behind #[7, 9]) ∧
      1 ≤ (#[7, 9] : Array UInt8).size ∧ Relocatable #[7, 9] m m' ∧
      (m.stepTimes 4).fault = some (.underflow (some 3)) ∧
      (m'.stepTimes 4).fault = none ∧ (m'.stepTimes 4).tape.cells = #[7, 9, 1, 0] := by
  have hcompile : Program.compile "+><<" =
      .ok ⟨#[.increment, .moveRight, .moveLeft, .moveLeft], ⟨[]⟩⟩ := rfl
  have htape := Tape.Relocated.behind Tape.single #[7, 9]
  have hfront : 1 ≤ (#[7, 9] : Array UInt8).size := by decide
  have hrelocatable := relocatable_start htape hfront
    ⟨#[.increment, .moveRight, .moveLeft, .moveLeft], ⟨[]⟩⟩ (BufferPort.ofInput [])
  refine ⟨_, hcompile, htape, hfront, hrelocatable, rfl, ?_, rfl⟩
  refine (hrelocatable.goes_on 3 ?_ ⟨rfl, some 3, rfl⟩).2
  intro k hk hunderflow
  obtain ⟨_, hfetch, hzero⟩ := underflows_iff_atLeftEnd.1 hunderflow
  match k, hk with
  | 0, _ => exact absurd hfetch (by decide)
  | 1, _ => exact absurd hfetch (by decide)
  | 2, _ => exact absurd hzero (by decide)

end Machine

end TapeMachine
