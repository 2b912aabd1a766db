/-
  Machines in front of programs one after another.

  A machine in front of a part of a program is moved when it stands in the same way in front
  of the whole.  Main statements: moving a machine commutes with its steps; a machine in
  front of two programs does what the machine in front of the first one does, and once that
  one has halted, what a new machine in front of the second one does on the same tape and
  port.
-/
import TapeMachine.Proofs.Concatenation

set_option autoImplicit false

namespace TapeMachine

/-! ## Moved errors -/

/-- The fault of an instruction whose program is moved: a failed move to the left names its
place.  A port may raise such a fault as well, and with a place of its own. -/
def Fault.moved (x : Option Instruction) (offset : Int) (fault : Fault) : Fault :=
  match x, fault with
  | some .moveLeft, .underflow (some index) => .underflow (some (index + offset))
  | _, _ => fault

/-- What an instruction raises when its program is moved. -/
def Raised.moved (x : Option Instruction) (offset : Int) : Raised → Raised
  | .fault own => .fault (own.moved x offset)
  | error => error

theorem Fault.moved_of_ne {x : Instruction} (h : x ≠ .moveLeft) (offset : Int) (fault : Fault) :
    fault.moved (some x) offset = fault := by
  cases x with
  | moveLeft => exact absurd rfl h
  | moveRight | increment | decrement | output | input | loopOpen | loopClose => rfl

theorem Raised.moved_of_ne {x : Instruction} (h : x ≠ .moveLeft) (offset : Int)
    (error : Raised) : error.moved (some x) offset = error := by
  cases error with
  | fault own => rw [moved, own.moved_of_ne h]
  | noTarget | noInstruction | foreign => rfl

theorem Fault.moved_zero (x : Option Instruction) (fault : Fault) : fault.moved x 0 = fault := by
  unfold moved
  split
  · rw [Int.add_zero]
  · rfl

theorem Raised.moved_zero (x : Option Instruction) (error : Raised) : error.moved x 0 = error := by
  cases error with
  | fault own => rw [moved, own.moved_zero]
  | noTarget | noInstruction | foreign => rfl

/-! ## Moved effects -/

section Effects

variable {π : Type}

/-- The effect of an instruction when its program is moved. -/
def Effect.moved (x : Instruction) (offset : Int) (effect : Effect π) : Effect π :=
  ⟨effect.tape, effect.port,
    match effect.next with
    | .ok next => .ok (next + offset)
    | .error error => .error (error.moved (some x) offset)⟩

/-- An instruction of a moved program has the moved effect, when its jump is moved with it. -/
theorem Instruction.execute_moved [Port π] (x : Instruction) {jumps jumps' : JumpTable}
    {index offset : Int} (tape : Tape) (port : π)
    (hjump : x = .loopOpen ∨ x = .loopClose → ∃ target, jumps.target? index = some target ∧
      jumps'.target? (index + offset) = some (target + offset)) :
    x.execute jumps' (index + offset) tape port =
      (x.execute jumps index tape port).moved x offset := by
  have hnext : index + offset + 1 = index + 1 + offset := by omega
  cases x with
  | moveRight =>
      rw [execute_moveRight, execute_moveRight, hnext]
      cases tape.moveRight.2 with
      | none => rfl
      | some fault => rfl
  | moveLeft =>
      rw [execute_moveLeft, execute_moveLeft, hnext]
      cases tape.moveLeft.2 with
      | none => rfl
      | some fault => rfl
  | increment | decrement =>
      simp only [execute, hnext]
      rfl
  | output =>
      simp only [execute, hnext]
      rcases Port.write port tape.current.toNat with ⟨port', error | done⟩
      · simp only [Effect.moved, Raised.moved_of_ne (x := .output) (by simp)]
      · rfl
  | input =>
      simp only [execute, hnext]
      rcases Port.read port with ⟨port', error | value⟩
      · simp only [Effect.moved, Raised.moved_of_ne (x := .input) (by simp)]
      · cases hcell : Tape.cellOf (value.getD 0) with
        | error failure => simp only [hcell]; rfl
        | ok cell => simp only [hcell]; rfl
  | loopOpen =>
      obtain ⟨target, htarget, htarget'⟩ := hjump (Or.inl rfl)
      have hbehind : target + offset + 1 = target + 1 + offset := by omega
      simp only [execute, hnext, htarget, htarget', hbehind]
      by_cases hzero : tape.current = 0
      · simp only [if_pos hzero]
        rfl
      · simp only [if_neg hzero]
        rfl
  | loopClose =>
      obtain ⟨target, htarget, htarget'⟩ := hjump (Or.inr rfl)
      simp only [execute, hnext, htarget, htarget']
      by_cases hzero : tape.current = 0
      · simp only [if_pos hzero]
        rfl
      · simp only [if_neg hzero]
        rfl

end Effects

/-! ## Moved machines -/

namespace Machine

variable {π : Type} {whole part : Program} {offset before : Nat} {m : Machine π}

/-- The machine in front of the whole program, where the part in front of it stands at an
offset, when steps have been taken before. -/
def moved (whole : Program) (offset before : Nat) (m : Machine π) : Machine π where
  program := whole
  port := m.port
  tape := m.tape
  index := m.index + offset
  steps := m.steps + before
  fault := m.fault.map (Fault.moved (m.program.fetch? m.index) offset)

theorem moved_zero (whole : Program) (m : Machine π) :
    m.moved whole 0 0 = { m with program := whole } := by
  have hfault : m.fault.map (Fault.moved (m.program.fetch? m.index) (0 : Nat)) = m.fault := by
    cases m.fault with
    | none => rfl
    | some fault => exact congrArg some (fault.moved_zero _)
  rw [moved, hfault]
  simp

/-- A moved effect settles into a moved machine. -/
theorem settle_moved {x : Instruction} {index : Int} (hfetch : part.fetch? index = some x)
    (whole : Program) (offset before steps : Nat) (effect : Effect π) :
    settle whole (index + offset) (steps + before) (effect.moved x offset) =
      ((settle part index steps effect).1.moved whole offset before,
        (settle part index steps effect).2.map (Raised.moved (some x) offset)) := by
  obtain ⟨tape, port, next⟩ := effect
  rcases next with error | next
  · cases error with
    | fault own =>
        simp only [settle, Effect.moved, Raised.moved, moved, hfetch]
        rfl
    | noTarget | noInstruction | foreign =>
        simp only [settle, Effect.moved, Raised.moved, moved]
        rfl
  · simp only [settle, Effect.moved, moved, Nat.add_right_comm]
    rfl

/-- A machine in front of a part is in the same state as the moved one, unless it has halted
and the whole goes on behind the part. -/
theorem state_moved (hwhole : whole.Contains offset part) (h : Within part m)
    (hend : m.state = .halted → part.length + offset = whole.length) (before : Nat) :
    (m.moved whole offset before).state = m.state := by
  obtain ⟨place, hplace⟩ := h.exists_place
  cases hfault : m.fault with
  | some own => simp [state, moved, hfault]
  | none =>
      suffices hlength : ((whole.length : Int) ≤ m.index + offset) =
          ((part.length : Int) ≤ m.index) by
        simp only [state, moved, hfault, Option.map_none, h.program_eq, hlength]
      rw [hplace]
      by_cases hlt : place < part.length
      · have hinside := hwhole.lt_length hlt
        exact propext ⟨by omega, by omega⟩
      · have hhalted : m.state = .halted :=
          (state_halted_iff m).2 ⟨hfault, by rw [h.program_eq, hplace]; omega⟩
        have hlength := hend hhalted
        exact propext ⟨by omega, by omega⟩

section Steps

variable [Port π]

/-- Moving a machine commutes with its step. -/
theorem step_moved (hpart : part.jumps.Resolves part.instructions)
    (hwhole : whole.Contains offset part) (h : Within part m)
    (hend : m.state = .halted → part.length + offset = whole.length) (before : Nat) :
    (m.moved whole offset before).step =
      (m.step.1.moved whole offset before,
        m.step.2.map (Raised.moved (part.fetch? m.index) offset)) := by
  have hstate := state_moved hwhole h hend before
  by_cases hrunning : m.state = .running
  · obtain ⟨x, hfetch⟩ := h.exists_fetch hrunning
    have hfetch' : whole.fetch? (m.index + offset) = some x := by
      obtain ⟨place, hplace⟩ := h.exists_place
      rw [hplace] at hfetch ⊢
      exact hwhole.fetch?_of_eq_some hfetch
    have hjump : x = .loopOpen ∨ x = .loopClose → ∃ target,
        part.jumps.target? m.index = some target ∧
          whole.jumps.target? (m.index + offset) = some (target + offset) := by
      intro hbracket
      obtain ⟨target, htarget, _⟩ := exists_target hpart h hfetch hbracket
      exact ⟨target, htarget, hwhole.target?_eq _ _ htarget⟩
    have hprogram := h.program_eq
    rw [step_of_fetch (hstate.trans hrunning) hfetch',
      step_of_fetch hrunning (by rw [hprogram]; exact hfetch), hprogram, hfetch]
    simp only [moved]
    rw [x.execute_moved m.tape m.port hjump]
    exact settle_moved hfetch whole offset before m.steps _
  · rw [step_of_not_running hrunning, step_of_not_running (by rwa [hstate])]
    rfl

/-- Moving a machine commutes with calls of step, as long as it does not come to the end of
the part inside the whole. -/
theorem stepTimes_moved (hpart : part.jumps.Resolves part.instructions)
    (hwhole : whole.Contains offset part) (h : Within part m) {n : Nat}
    (hend : ∀ k < n, (m.stepTimes k).state = .halted → part.length + offset = whole.length)
    (before : Nat) :
    (m.moved whole offset before).stepTimes n = (m.stepTimes n).moved whole offset before := by
  induction n with
  | zero => rfl
  | succ n ih =>
      have hn := within_stepTimes hpart h n
      rw [stepTimes_succ, stepTimes_succ, ih fun k hk => hend k (Nat.lt_succ_of_lt hk),
        step_moved hpart hwhole hn (hend n (Nat.lt_succ_self n))]

end Steps

/-! ## One program after another -/

section Sequences

variable [Port π]

/-- The machine in front of the whole is the moved one: it is in the same state, and its next
step raises the same. -/
structure Mirrors (offset before : Nat) (m whole : Machine π) : Prop where
  eq_moved : whole = m.moved whole.program offset before
  state_eq : whole.state = m.state
  raised_eq : whole.step.2 = m.step.2.map (Raised.moved (m.program.fetch? m.index) offset)

/-- A machine that is not moved raises the same. -/
theorem Mirrors.raised_eq_of_zero {m' : Machine π} (h : Mirrors 0 0 m m') :
    m'.step.2 = m.step.2 := by
  have hsame : Raised.moved (m.program.fetch? m.index) (0 : Nat) = id :=
    funext (Raised.moved_zero _)
  rw [h.raised_eq, hsame, Option.map_id, id]

theorem Within.mirrors_moved (hpart : part.jumps.Resolves part.instructions)
    (hwhole : whole.Contains offset part) (h : Within part m)
    (hend : m.state = .halted → part.length + offset = whole.length) (before : Nat) :
    Mirrors offset before m (m.moved whole offset before) where
  eq_moved := rfl
  state_eq := state_moved hwhole h hend before
  raised_eq := by rw [step_moved hpart hwhole h hend, h.program_eq]

/-- A machine that is the moved one in front of a part at the end of the whole stays so. -/
theorem Within.mirrors_stepTimes (hpart : part.jumps.Resolves part.instructions)
    (hwhole : whole.Contains offset part) (hlength : part.length + offset = whole.length)
    (h : Within part m) (before k : Nat) :
    Mirrors offset before (m.stepTimes k) ((m.moved whole offset before).stepTimes k) := by
  have hk := within_stepTimes hpart h k
  rw [stepTimes_moved hpart hwhole h fun _ _ _ => hlength]
  exact hk.mirrors_moved hpart hwhole (fun _ => hlength) before

/-- The machine does not halt before so many calls of step. -/
def GoesOn (n : Nat) (m : Machine π) : Prop := ∀ k < n, (m.stepTimes k).state ≠ .halted

instance (n : Nat) (m : Machine π) : Decidable (GoesOn n m) :=
  inferInstanceAs (Decidable (∀ k < n, (m.stepTimes k).state ≠ .halted))

/-- A machine in front of two programs does what the machine in front of the first one alone
does, and behind it what a new machine in front of the second one does. -/
structure Sequential (second : Program) (alone whole : Machine π) : Prop where
  stepTimes_eq : ∀ n, GoesOn n alone →
    whole.stepTimes n = { alone.stepTimes n with program := whole.program }
  state_eq : ∀ n, GoesOn (n + 1) alone →
    (whole.stepTimes n).state = (alone.stepTimes n).state
  raised_eq : ∀ n, GoesOn (n + 1) alone →
    (whole.stepTimes n).step.2 = (alone.stepTimes n).step.2
  index_eq : ∀ n, GoesOn n alone → (alone.stepTimes n).state = .halted →
    (whole.stepTimes n).index = alone.program.length
  mirrors : ∀ n, GoesOn n alone → (alone.stepTimes n).state = .halted →
    ∀ k, Mirrors alone.program.length (alone.stepTimes n).steps
      ((start second (alone.stepTimes n).port (alone.stepTimes n).tape).stepTimes k)
      (whole.stepTimes (n + k))

variable {first second : Program}

/-- As long as a machine in front of the first program goes on, the second one does not
matter. -/
theorem Within.stepTimes_append (hfirst : first.jumps.Resolves first.instructions)
    (h : Within first m) (second : Program) {n : Nat} (hgoes : GoesOn n m) :
    { m with program := first ++ second }.stepTimes n =
      { m.stepTimes n with program := first ++ second } := by
  rw [← moved_zero, ← moved_zero]
  exact stepTimes_moved hfirst (Program.contains_append_left first second) h
    (fun k hk hhalted => absurd hhalted (hgoes k hk)) 0

theorem Within.mirrors_append (hfirst : first.jumps.Resolves first.instructions)
    (h : Within first m) (hgoes : m.state ≠ .halted) (second : Program) :
    Mirrors 0 0 m { m with program := first ++ second } := by
  rw [← moved_zero]
  exact h.mirrors_moved hfirst (Program.contains_append_left first second)
    (fun hhalted => absurd hhalted hgoes) 0

omit [Port π] in
/-- Behind the first program stands a machine in front of the second one, moved. -/
theorem Within.eq_moved_start (h : Within first m) (hhalted : m.state = .halted)
    (whole second : Program) :
    { m with program := whole } =
      (start second m.port m.tape).moved whole first.length m.steps := by
  obtain ⟨hfault, hge⟩ := (state_halted_iff m).1 hhalted
  rw [h.program_eq] at hge
  have hindex : m.index = first.length := Int.le_antisymm h.index_le_length hge
  simp [moved, start, hfault, hindex]

/-- Behind the first program the second one is executed, moved. -/
theorem Within.mirrors_behind (hfirst : first.jumps.Resolves first.instructions)
    (hsecond : second.jumps.Resolves second.instructions) (h : Within first m)
    (hhalted : m.state = .halted) (k : Nat) :
    Mirrors first.length m.steps ((start second m.port m.tape).stepTimes k)
      ({ m with program := first ++ second }.stepTimes k) := by
  have hlength : second.length + first.length = (first ++ second).length := by
    rw [Program.length_append, Nat.add_comm]
  rw [h.eq_moved_start hhalted (first ++ second) second]
  exact (within_start second m.port m.tape).mirrors_stepTimes hsecond
    (Program.contains_append_right hfirst hsecond) hlength m.steps k

/-- In front of two programs whose brackets are paired, one is executed after the other. -/
theorem sequential_start (hfirst : first.jumps.Resolves first.instructions)
    (hsecond : second.jumps.Resolves second.instructions) (port : π) (tape : Tape) :
    Sequential second (start first port tape) (start (first ++ second) port tape) := by
  have hstart := within_start first port tape
  have hwithin : ∀ n, Within first ((start first port tape).stepTimes n) :=
    within_stepTimes hfirst hstart
  have hfront : ∀ n, GoesOn n (start first port tape) →
      (start (first ++ second) port tape).stepTimes n =
        { (start first port tape).stepTimes n with program := first ++ second } :=
    fun n hgoes => hstart.stepTimes_append hfirst second hgoes
  have hmirrors : ∀ n, GoesOn (n + 1) (start first port tape) →
      Mirrors 0 0 ((start first port tape).stepTimes n)
        ((start (first ++ second) port tape).stepTimes n) := by
    intro n hgoes
    rw [hfront n fun k hk => hgoes k (Nat.lt_succ_of_lt hk)]
    exact (hwithin n).mirrors_append hfirst (hgoes n (Nat.lt_succ_self n)) second
  refine ⟨hfront, fun n hgoes => (hmirrors n hgoes).state_eq,
    fun n hgoes => (hmirrors n hgoes).raised_eq_of_zero, fun n hgoes hhalted => ?_,
    fun n hgoes hhalted k => ?_⟩
  · rw [hfront n hgoes, (hwithin n).eq_moved_start hhalted (first ++ second) second]
    exact Int.zero_add _
  · rw [stepTimes_add, hfront n hgoes]
    exact (hwithin n).mirrors_behind hfirst hsecond hhalted k

end Sequences

end Machine

/-- Source texts that compile, put together, compile to a program that has the instructions of
the first one and behind them those of the second one, jumps as they do, and is executed as
the first one and then the second one. -/
theorem Program.sequential_of_compile {left right : String} {first second : Program}
    (h : compile left = .ok first) (h' : compile right = .ok second) :
    ∃ whole, compile (left ++ right) = .ok whole ∧
      whole.instructions = first.instructions ++ second.instructions ∧
      (∀ key target, whole.jumps.target? key = some target ↔
        first.jumps.target? key = some target ∨
          second.jumps.target? (key - first.length) = some (target - first.length)) ∧
      ∀ {π : Type} [Port π] (port : π) (tape : Tape),
        Machine.Sequential second (Machine.start first port tape)
          (Machine.start whole port tape) := by
  have hfirst := resolves_of_compile h
  have hsecond := resolves_of_compile h'
  exact ⟨first ++ second, compile_append h h', instructions_append first second,
    target?_append_iff hfirst hsecond, Machine.sequential_start hfirst hsecond⟩

/-- A loop, and behind it a move off the tape. -/
theorem Program.sequential_of_compile_underflow :
    ∃ whole, compile ("+[-]" ++ "<") = .ok whole ∧
      ((Machine.start whole (BufferPort.ofInput []) Tape.single).stepTimes (4 + 1)).index = 4 ∧
      ((Machine.start whole (BufferPort.ofInput []) Tape.single).stepTimes (4 + 1)).fault =
        some (.underflow (some 4)) := by
  have hleft : compile "+[-]" =
      .ok ⟨#[.increment, .loopOpen, .decrement, .loopClose], ⟨[(1, 3), (3, 1)]⟩⟩ := rfl
  have hright : compile "<" = .ok ⟨#[.moveLeft], ⟨[]⟩⟩ := rfl
  obtain ⟨whole, hcompile, _, _, hsequential⟩ := sequential_of_compile hleft hright
  have hmirrors := (hsequential (BufferPort.ofInput []) Tape.single).mirrors 4
    (by decide) rfl 1
  refine ⟨whole, hcompile, ?_⟩
  rw [hmirrors.eq_moved]
  exact ⟨rfl, rfl⟩

end TapeMachine
