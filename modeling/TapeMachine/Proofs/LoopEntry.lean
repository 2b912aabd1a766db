/-
  How loops are entered.

  A machine gets into a loop only through its opening bracket with a cell that is not zero,
  and leaves it only with a cell that is zero.  Main statement: whenever a machine stands
  behind a closing bracket its current cell is zero, and whenever it stands inside a loop
  it has entered the loop before; so a loop right behind another one is never entered.
-/
import TapeMachine.Proofs.Safety

set_option autoImplicit false

namespace TapeMachine

namespace Machine

variable {π : Type} [Port π] {program : Program} {m : Machine π}

/-! ## Where a step leads -/

/-- The next step of the machine executes the opening bracket at a place with a cell that
is not zero. -/
structure Enters (m : Machine π) (start : Nat) : Prop where
  running : m.state = .running
  index_eq : m.index = start
  fetch_eq : m.program.fetch? m.index = some .loopOpen
  current_ne_zero : m.tape.current ≠ 0

/-- Where one step leads a machine within a program. -/
inductive Leads (program : Program) (m after : Machine π) : Prop
  /-- Nothing is completed. -/
  | stays (hindex : after.index = m.index) (htape : after.tape = m.tape)
  /-- An instruction that is no loop bracket goes on behind itself. -/
  | passes (place : Nat) (hopen : program.instructions[place]? ≠ some .loopOpen)
      (hclose : program.instructions[place]? ≠ some .loopClose) (hindex : m.index = place)
      (hafter : after.index = place + 1)
  | enters (start : Nat) (hopen : program.instructions[start]? = some .loopOpen)
      (henters : m.Enters start) (hafter : after.index = start + 1)
  | skips (start stop : Nat) (hmatched : Loops.Matched program.instructions start stop)
      (hzero : after.tape.current = 0) (hindex : m.index = start) (hafter : after.index = stop + 1)
  | leaves (stop : Nat) (hclose : program.instructions[stop]? = some .loopClose)
      (hzero : after.tape.current = 0) (hindex : m.index = stop) (hafter : after.index = stop + 1)
  | returns (start stop : Nat) (hmatched : Loops.Matched program.instructions start stop)
      (hindex : m.index = stop) (hafter : after.index = start)

section Leads

variable {after : Machine π} {place : Nat}

/-- An opening bracket that goes on enters its loop or skips it. -/
theorem leads_of_loopOpen (hprogram : program.jumps.Resolves program.instructions)
    (hm : m.program = program) (hstate : m.state = .running) (hindex : m.index = place)
    (hopen : program.instructions[place]? = some .loopOpen)
    (htape : after.tape = (Instruction.loopOpen.execute program.jumps place m.tape m.port).tape)
    (hnext : (Instruction.loopOpen.execute program.jumps place m.tape m.port).next =
      .ok after.index) : Leads program m after := by
  by_cases hzero : m.tape.current = 0
  · obtain ⟨stop, hmatched, htarget, _⟩ := hprogram.opens place hopen
    simp only [Instruction.execute, if_pos hzero, htarget] at htape hnext
    rw [← htape] at hzero
    exact .skips place stop hmatched hzero hindex (Except.ok.inj hnext).symm
  · simp only [Instruction.execute, if_neg hzero] at hnext
    have hfetch : m.program.fetch? m.index = some .loopOpen := by
      rw [hm, hindex, program.fetch?_natCast, hopen]
    exact .enters place hopen ⟨hstate, hindex, hfetch, hzero⟩ (Except.ok.inj hnext).symm

/-- A closing bracket that goes on leaves its loop or returns to its start. -/
theorem leads_of_loopClose (hprogram : program.jumps.Resolves program.instructions)
    (hindex : m.index = place) (hclose : program.instructions[place]? = some .loopClose)
    (htape : after.tape = (Instruction.loopClose.execute program.jumps place m.tape m.port).tape)
    (hnext : (Instruction.loopClose.execute program.jumps place m.tape m.port).next =
      .ok after.index) : Leads program m after := by
  by_cases hzero : m.tape.current = 0
  · simp only [Instruction.execute, if_pos hzero] at htape hnext
    rw [← htape] at hzero
    exact .leaves place hclose hzero hindex (Except.ok.inj hnext).symm
  · obtain ⟨start, hmatched, htarget⟩ := hprogram.closes place hclose
    simp only [Instruction.execute, if_neg hzero, htarget] at hnext
    exact .returns start place hmatched hindex (Except.ok.inj hnext).symm

theorem leads_of_step (hprogram : program.jumps.Resolves program.instructions)
    (h : Within program m) : Leads program m m.step.1 := by
  obtain ⟨place, hplace⟩ := h.exists_place
  apply step_cases (motive := fun result => Leads program m result.1)
  case idle => exact fun _ => .stays rfl rfl
  case lost => exact fun _ _ => .stays rfl rfl
  case raises =>
    intro x error _ _ hnext _
    exact .stays rfl ((x.executes _ _ _ _).tape_of_error hnext)
  case goes =>
    intro x next hstate hfetch hnext
    have hx : program.instructions[place]? = some x := by
      rwa [h.program_eq, hplace, program.fetch?_natCast] at hfetch
    rw [h.program_eq, hplace] at hnext
    by_cases hopen : x = .loopOpen
    · subst hopen
      refine leads_of_loopOpen hprogram h.program_eq hstate hplace hx ?_ hnext
      rw [h.program_eq, hplace]
    by_cases hclose : x = .loopClose
    · subst hclose
      refine leads_of_loopClose hprogram hplace hx ?_ hnext
      rw [h.program_eq, hplace]
    · have hbehind : next = place + 1 := by
        simpa [hopen, hclose] using (x.executes _ _ _ _).next_of_ok hnext
      exact .passes place (by simp [hx, hopen]) (by simp [hx, hclose]) hplace hbehind

end Leads

/-! ## Inside a loop -/

section Traces

variable {opening closing place n : Nat}

theorem leads_of_stepTimes (hprogram : program.jumps.Resolves program.instructions)
    (h : Within program m) (n : Nat) :
    Leads program (m.stepTimes n) (m.stepTimes (n + 1)) := by
  rw [stepTimes_succ]
  exact leads_of_step hprogram (within_stepTimes hprogram h n)

/-- A machine inside a loop, or in front of the bracket that closes it, has entered it. -/
theorem exists_enters_of_inside (hprogram : program.jumps.Resolves program.instructions)
    (h : Within program m) (hindex : m.index = 0)
    (hmatched : Loops.Matched program.instructions opening closing)
    (hopening : opening < (m.stepTimes n).index) (hclosing : (m.stepTimes n).index ≤ closing) :
    ∃ k < n, (m.stepTimes k).Enters opening := by
  induction n with
  | zero =>
      rw [stepTimes, hindex] at hopening
      omega
  | succ n ih =>
      -- Where the machine was inside already, the loop has been entered before.
      have hbefore : opening < (m.stepTimes n).index → (m.stepTimes n).index ≤ closing →
          ∃ k < n + 1, (m.stepTimes k).Enters opening := by
        intro hopening hclosing
        obtain ⟨k, hk, henters⟩ := ih hopening hclosing
        exact ⟨k, Nat.lt_succ_of_lt hk, henters⟩
      cases leads_of_stepTimes hprogram h n with
      | stays hsame _ =>
          rw [hsame] at hopening hclosing
          exact hbefore hopening hclosing
      | passes place hopen _ hplace hafter =>
          have hne : opening ≠ place := by
            rintro rfl
            exact hopen hmatched.opens
          exact hbefore (by omega) (by omega)
      | enters place _ henters hafter =>
          by_cases heq : opening = place
          · subst heq
            exact ⟨n, Nat.lt_succ_self n, henters⟩
          · have hplace := henters.index_eq
            exact hbefore (by omega) (by omega)
      | leaves place hclose _ hplace hafter =>
          have hne : opening ≠ place := by
            rintro rfl
            have hclash := hclose.symm.trans hmatched.opens
            simp at hclash
          exact hbefore (by omega) (by omega)
      | skips start stop hskipped _ hplace hafter =>
          -- A loop that ends inside this one starts inside it.
          have hlt := hskipped.start_lt_stop
          have hnested := hmatched.apart_or_nested hskipped
          exact hbefore (by omega) (by omega)
      | returns start stop hrepeated hplace hafter =>
          -- A loop that starts inside this one ends inside it.
          have hlt := hrepeated.start_lt_stop
          have hnested := hmatched.apart_or_nested hrepeated
          exact hbefore (by omega) (by omega)

/-! ## Zero cells -/

/-- At a place that only a jump over a loop or the end of one can lead to, the current cell
is zero.  A jump back to the place would come from inside the loop that starts there, which
has been entered from the same place with another cell. -/
theorem current_eq_zero_at (hprogram : program.jumps.Resolves program.instructions)
    (h : Within program m) (hindex : m.index = 0)
    (hfirst : place = 0 → m.tape.current = 0)
    (hbehind : ∀ before, place = before + 1 → program.instructions[before]? = some .loopClose)
    (hplace : (m.stepTimes n).index = place) : (m.stepTimes n).tape.current = 0 := by
  induction n using Nat.strong_induction_on with
  | h n ih =>
      cases n with
      | zero =>
          rw [stepTimes, hindex] at hplace
          exact hfirst (by omega)
      | succ n =>
          cases leads_of_stepTimes hprogram h n with
          | stays hsame htape =>
              rw [htape]
              exact ih n (Nat.lt_succ_self n) (hsame.symm.trans hplace)
          | passes before _ hclose _ hafter =>
              exact absurd (hbehind before (by omega)) hclose
          | enters before hopen _ hafter =>
              have hclash := hopen.symm.trans (hbehind before (by omega))
              simp at hclash
          | skips _ _ _ hzero _ _ => exact hzero
          | leaves _ _ hzero _ _ => exact hzero
          | returns start stop hmatched hstop hafter =>
              have hlt := hmatched.start_lt_stop
              obtain ⟨k, hk, henters⟩ := exists_enters_of_inside hprogram h hindex hmatched
                (n := n) (by omega) (by omega)
              have hstart := henters.index_eq
              exact absurd (ih k (by omega) (by omega)) henters.current_ne_zero

end Traces

/-! ## Entry and exit of loops -/

/-- No step of the machine enters the loop at a place, and it never gets inside the loop. -/
def NeverEnters (program : Program) (m : Machine π) (opening : Nat) : Prop :=
  ∀ n, ¬ (m.stepTimes n).Enters opening ∧
    ∀ closing, Loops.Matched program.instructions opening closing →
      ¬ (opening < (m.stepTimes n).index ∧ (m.stepTimes n).index ≤ closing)

theorem neverEnters_of_current_eq_zero (hprogram : program.jumps.Resolves program.instructions)
    (h : Within program m) (hindex : m.index = 0) {opening : Nat}
    (hzero : ∀ n, (m.stepTimes n).index = opening → (m.stepTimes n).tape.current = 0) :
    NeverEnters program m opening := by
  have hnever : ∀ n, ¬ (m.stepTimes n).Enters opening := fun n henters =>
    henters.current_ne_zero (hzero n henters.index_eq)
  refine fun n => ⟨hnever n, fun closing hmatched hinside => ?_⟩
  obtain ⟨k, _, henters⟩ :=
    exists_enters_of_inside hprogram h hindex hmatched hinside.1 hinside.2
  exact hnever k henters

/-- A machine gets into loops through their opening brackets, and out of them with a zero
cell. -/
structure EntersProperly (program : Program) (m : Machine π) : Prop where
  current_eq_zero_behind : ∀ n (closing : Nat), program.instructions[closing]? = some .loopClose →
    (m.stepTimes n).index = closing + 1 → (m.stepTimes n).tape.current = 0
  exists_enters : ∀ n opening closing, Loops.Matched program.instructions opening closing →
    opening < (m.stepTimes n).index → (m.stepTimes n).index ≤ closing →
      ∃ k < n, (m.stepTimes k).Enters opening
  /-- A loop right behind another one is never entered. -/
  neverEnters_behind : ∀ closing : Nat, program.instructions[closing]? = some .loopClose →
    NeverEnters program m (closing + 1)
  /-- A loop in front of all else is never entered when the first cell is zero. -/
  neverEnters_first : m.tape.current = 0 → NeverEnters program m 0

theorem Within.entersProperly (hprogram : program.jumps.Resolves program.instructions)
    (h : Within program m) (hindex : m.index = 0) : EntersProperly program m where
  current_eq_zero_behind n closing hclose hplace := by
    have hbehind : closing + 1 = 0 → m.tape.current = 0 := by simp
    refine current_eq_zero_at hprogram h hindex hbehind ?_ hplace
    intro before hbefore
    obtain rfl : before = closing := by omega
    exact hclose
  exists_enters n opening closing hmatched hopening hclosing :=
    exists_enters_of_inside hprogram h hindex hmatched hopening hclosing
  neverEnters_behind closing hclose := by
    refine neverEnters_of_current_eq_zero hprogram h hindex fun n hplace => ?_
    refine current_eq_zero_at hprogram h hindex (by simp) ?_ hplace
    intro before hbefore
    obtain rfl : before = closing := by omega
    exact hclose
  neverEnters_first hzero := by
    refine neverEnters_of_current_eq_zero hprogram h hindex fun n hplace => ?_
    exact current_eq_zero_at hprogram h hindex (fun _ => hzero) (by simp) hplace

end Machine

theorem Tape.current_of_create {capacity : Int} {limit : Option Int} {tape : Tape}
    (h : create capacity limit = some tape) : tape.current = 0 := by
  cases limit with
  | none =>
      obtain rfl := Option.some.inj h
      rfl
  | some bound =>
      rw [create] at h
      split at h
      · obtain rfl := Option.some.inj h
        rfl
      · simp at h

/-- However its port behaves, a machine in front of a compiled program enters loops properly,
and on a new tape it never enters a loop that the program begins with. -/
theorem Machine.entersProperly_of_compile {source : String} {program : Program}
    (h : Program.compile source = .ok program) {π : Type} [Port π] (tape : Tape) (port : π) :
    EntersProperly program (start program port tape) ∧
      ∀ capacity limit, Tape.create capacity limit = some tape →
        NeverEnters program (start program port tape) 0 := by
  have hprogram := Program.resolves_of_compile h
  have hproperly : EntersProperly program (start program port tape) :=
    (within_start program port tape).entersProperly hprogram rfl
  refine ⟨hproperly, fun capacity limit hcreate => ?_⟩
  exact hproperly.neverEnters_first (Tape.current_of_create hcreate)

/-- A comment in front of a program, and a loop behind a loop that is entered. -/
theorem Machine.entersProperly_of_compile_comment : ∃ program,
    Program.compile "[.]+[-][,]" = .ok program ∧
      NeverEnters program (start program (BufferPort.ofInput [1]) Tape.single) 0 ∧
        NeverEnters program (start program (BufferPort.ofInput [1]) Tape.single) 7 := by
  have hcompile : Program.compile "[.]+[-][,]" = .ok
      ⟨#[.loopOpen, .output, .loopClose, .increment, .loopOpen, .decrement, .loopClose, .loopOpen,
        .input, .loopClose], ⟨[(0, 2), (2, 0), (4, 6), (6, 4), (7, 9), (9, 7)]⟩⟩ := rfl
  obtain ⟨hproperly, hnew⟩ :=
    entersProperly_of_compile hcompile Tape.single (BufferPort.ofInput [1])
  exact ⟨_, hcompile, hnew 1 none rfl, hproperly.neverEnters_behind 6 rfl⟩

end TapeMachine
