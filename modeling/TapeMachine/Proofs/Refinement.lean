/-
  Machines follow the structured semantics.

  A part of a program is realized between two places when a machine at the first one does
  what the part means and then stands at the second one.  Main statements: each way of
  putting parts together is realized by the jumps that a compiled program makes, and so a
  machine in front of a compiled program does what its loop tree means.
-/
import TapeMachine.Proofs.ExactRuns
import TapeMachine.Proofs.Safety
import TapeMachine.Proofs.Structured

set_option autoImplicit false

namespace TapeMachine

/-! ## Machines at a place -/

namespace Machine

variable {π : Type}

/-- The machine in front of the instruction at a place. -/
def inFront (program : Program) (place steps : Nat) (tape : Tape) (port : π) : Machine π :=
  ⟨program, port, tape, place, steps, none⟩

variable [Port π] {program : Program} {place steps exit : Nat} {tape : Tape} {port : π}

theorem step_inFront {x : Instruction} (hfetch : program.instructions[place]? = some x)
    (steps : Nat) (tape : Tape) (port : π) :
    (inFront program place steps tape port).state = .running ∧
      (inFront program place steps tape port).step =
        settle program place steps (x.execute program.jumps place tape port) := by
  have hlt : place < program.length := by
    rw [← program.length_instructions]
    exact (List.getElem?_eq_some_iff.1 hfetch).1
  have hstate : (inFront program place steps tape port).state = .running :=
    (state_running_iff _).2 ⟨rfl, Int.ofNat_lt.2 hlt⟩
  refine ⟨hstate, step_of_fetch hstate ?_⟩
  rw [← hfetch]
  exact program.fetch?_natCast place

/-- An instruction that goes on is a step taken. -/
theorem takes_of_execute {x : Instruction} {after : Tape} {port' : π} {next : Nat}
    (hfetch : program.instructions[place]? = some x)
    (h : x.execute program.jumps place tape port = ⟨after, port', .ok next⟩) :
    Takes 1 (inFront program place steps tape port)
      (inFront program next (steps + 1) after port') := by
  obtain ⟨hstate, hstep⟩ := step_inFront hfetch steps tape port
  refine .one hstate ?_
  rw [hstep, h]
  rfl

/-- An instruction that raises an error is no step taken. -/
theorem fails_of_execute {x : Instruction} {after : Tape} {port' : π} {error : Raised}
    (hfetch : program.instructions[place]? = some x)
    (h : x.execute program.jumps place tape port = ⟨after, port', .error error⟩) :
    Fails 0 (inFront program place steps tape port) error
      ⟨program, port', after, place, steps, error.fault?⟩ := by
  obtain ⟨_, hstep⟩ := step_inFront hfetch steps tape port
  refine ⟨_, .stay _, ?_⟩
  rw [hstep, h]
  cases error <;> rfl

/-- The machine does what an outcome says, and stands at the exit when all is done. -/
def Delivers (program : Program) (exit steps : Nat) (m : Machine π) : Outcome π → Prop
  | .ended tape port n => Takes n m (inFront program exit (steps + n) tape port)
  | .raised error place tape port n =>
      Fails n m error ⟨program, port, tape, place, steps + n, error.fault?⟩

theorem Takes.delivers {n : Nat} {m middle : Machine π} {outcome : Outcome π}
    (h : Takes n m middle) (h' : Delivers program exit (steps + n) middle outcome) :
    Delivers program exit steps m (outcome.after n) := by
  cases outcome with
  | ended tape port k =>
      rw [Delivers, Nat.add_assoc] at h'
      exact h.trans h'
  | raised error place tape port k =>
      rw [Delivers, Nat.add_assoc] at h'
      exact h.fails h'

end Machine

/-! ## Parts realized by a program -/

open Machine

/-- The machine at the entry of a part does what the part means and then stands at its exit;
where the part goes on forever, so does the machine. -/
structure Realizes {π : Type} [Port π] (program : Program) (entry : Tape → Nat) (exit : Nat)
    (meaning : Meaning π) : Prop where
  delivers : ∀ {tape : Tape} {port : π} {outcome : Outcome π}, meaning tape port outcome →
    ∀ steps, Delivers program exit steps (inFront program (entry tape) steps tape port) outcome
  goes_on : ∀ {tape : Tape} {port : π}, (¬ ∃ outcome, meaning tape port outcome) →
    ∀ n steps, ∃ after, Takes n (inFront program (entry tape) steps tape port) after

section Parts

variable {π : Type} [Port π] {program : Program} {entry : Tape → Nat} {place middle exit : Nat}

theorem realizes_done (program : Program) (place : Nat) :
    Realizes program (fun _ => place) place
      (.Always fun (tape : Tape) (port : π) => .ended tape port 0) where
  delivers := by
    rintro tape port _ rfl steps
    exact .stay _
  goes_on h := absurd ⟨_, rfl⟩ h

/-- The outcome of a basic instruction is what executing it leaves behind. -/
theorem Basic.execute_instruction (operation : Basic) (jumps : JumpTable) (place : Nat)
    (tape : Tape) (port : π) :
    (∃ tape' port', operation.outcome place tape port = .ended tape' port' 1 ∧
      operation.instruction.execute jumps place tape port = ⟨tape', port', .ok (place + 1)⟩) ∨
    (∃ error tape' port', operation.outcome place tape port = .raised error place tape' port' 0 ∧
      operation.instruction.execute jumps place tape port = ⟨tape', port', .error error⟩) := by
  simp only [instruction]
  cases operation with
  | moveRight =>
      rcases hmove : tape.moveRight with ⟨after, _ | fault⟩
      · exact Or.inl ⟨after, port, by simp [outcome, hmove], by simp [Instruction.execute, hmove]⟩
      · exact Or.inr ⟨.fault fault, after, port, by simp [outcome, hmove],
          by simp [Instruction.execute, hmove]⟩
  | moveLeft =>
      rcases hmove : tape.moveLeft with ⟨after, _ | fault⟩
      · exact Or.inl ⟨after, port, by simp [outcome, hmove], by simp [Instruction.execute, hmove]⟩
      · exact Or.inr ⟨.fault (.underflow (some place)), after, port, by simp [outcome, hmove],
          by simp [Instruction.execute, hmove]⟩
  | increment | decrement => exact Or.inl ⟨_, _, rfl, rfl⟩
  | output =>
      rcases hwrite : Port.write port tape.current.toNat with ⟨port', error | done⟩
      · exact Or.inr ⟨.ofPort error, tape, port', by simp [outcome, hwrite],
          by simp [Instruction.execute, hwrite]⟩
      · exact Or.inl ⟨tape, port', by simp [outcome, hwrite],
          by simp [Instruction.execute, hwrite]⟩
  | input =>
      rcases hread : Port.read port with ⟨port', error | value⟩
      · exact Or.inr ⟨.ofPort error, tape, port', by simp [outcome, hread],
          by simp [Instruction.execute, hread]⟩
      · cases hcell : Tape.cellOf (value.getD 0) with
        | error failure =>
            exact Or.inr ⟨.fault (.port failure), tape, port',
              by simp [outcome, hread, Tape.write, hcell],
              by simp [Instruction.execute, hread, hcell]⟩
        | ok cell =>
            exact Or.inl ⟨tape.put cell, port', by simp [outcome, hread, Tape.write, hcell],
              by simp [Instruction.execute, hread, hcell]⟩

theorem realizes_basic {operation : Basic}
    (hfetch : program.instructions[place]? = some operation.instruction) :
    Realizes program (fun _ => place) (place + 1)
      (.Always fun (tape : Tape) (port : π) => operation.outcome place tape port) where
  delivers := by
    rintro tape port _ rfl steps
    rcases operation.execute_instruction program.jumps place tape port with
      ⟨tape', port', houtcome, hexecute⟩ | ⟨error, tape', port', houtcome, hexecute⟩
    · simp only [houtcome]
      exact takes_of_execute hfetch hexecute
    · simp only [houtcome]
      exact fails_of_execute hfetch hexecute
  goes_on h := absurd ⟨_, rfl⟩ h

theorem Realizes.then {first second : Meaning π} (hfirst : Realizes program entry middle first)
    (hsecond : Realizes program (fun _ => middle) exit second) :
    Realizes program entry exit (.Then first second) where
  delivers := by
    intro tape port outcome h steps
    cases h with
    | ended h h' =>
        have htakes := hfirst.delivers h steps
        exact Takes.delivers htakes (hsecond.delivers h' _)
    | raised h => exact hfirst.delivers h steps
  goes_on := by
    intro tape port hnone n steps
    by_cases hends : ∃ outcome, first tape port outcome
    · obtain ⟨outcome, houtcome⟩ := hends
      cases outcome with
      | ended between port' k =>
          have hsecondNone : ¬ ∃ outcome, second between port' outcome :=
            fun ⟨_, h⟩ => hnone ⟨_, .ended houtcome h⟩
          have htakes := hfirst.delivers houtcome steps
          obtain ⟨after, hafter⟩ := hsecond.goes_on hsecondNone n (steps + k)
          exact (Takes.trans htakes hafter).exists_take_of_le (Nat.le_add_left n k)
      | raised error place tape' port' k => exact absurd ⟨_, .raised houtcome⟩ hnone
    · exact hfirst.goes_on hends n steps

end Parts

/-! ## Loops -/

/-- Two brackets of a program that jump to each other. -/
structure Program.LoopAt (program : Program) (start stop : Nat) : Prop where
  opens : program.instructions[start]? = some .loopOpen
  closes : program.instructions[stop]? = some .loopClose
  target_start : program.jumps.target? start = some (stop : Int)
  target_stop : program.jumps.target? stop = some (start : Int)

section Loops

variable {π : Type} [Port π] {program : Program} {start stop : Nat} {body : Meaning π}

/-- Where the machine stands when the body of a loop is done: behind the loop, or at its
start once more. -/
def testPlace (start stop : Nat) (tape : Tape) : Nat :=
  if tape.current = 0 then stop + 1 else start

theorem takes_skip (hloop : program.LoopAt start stop) {tape : Tape} (hzero : tape.current = 0)
    (steps : Nat) (port : π) :
    Takes 1 (inFront program start steps tape port)
      (inFront program (stop + 1) (steps + 1) tape port) := by
  refine takes_of_execute hloop.opens ?_
  simp [Instruction.execute, hzero, hloop.target_start]

theorem takes_enter (hloop : program.LoopAt start stop) {tape : Tape}
    (hnonzero : tape.current ≠ 0) (steps : Nat) (port : π) :
    Takes 1 (inFront program start steps tape port)
      (inFront program (start + 1) (steps + 1) tape port) := by
  refine takes_of_execute hloop.opens ?_
  simp [Instruction.execute, hnonzero]

theorem takes_test (hloop : program.LoopAt start stop) (steps : Nat) (tape : Tape) (port : π) :
    Takes 1 (inFront program stop steps tape port)
      (inFront program (testPlace start stop tape) (steps + 1) tape port) := by
  refine takes_of_execute hloop.closes ?_
  by_cases hzero : tape.current = 0
  · simp [Instruction.execute, testPlace, hzero]
  · simp [Instruction.execute, testPlace, hzero, hloop.target_stop]

/-- One turn of a loop: into the body, through it and to the test behind it. -/
theorem takes_turn (hloop : program.LoopAt start stop)
    (hbody : Realizes program (fun _ => start + 1) stop body) {tape middle : Tape}
    {port port' : π} {n : Nat} (hnonzero : tape.current ≠ 0)
    (h : body tape port (.ended middle port' n)) (steps : Nat) :
    Takes (n + 2) (inFront program start steps tape port)
      (inFront program (testPlace start stop middle) (steps + (n + 2)) middle port') := by
  have hinside : Takes n (inFront program (start + 1) (steps + 1) tape port)
      (inFront program stop (steps + 1 + n) middle port') := hbody.delivers h (steps + 1)
  have hturn := ((takes_enter hloop hnonzero steps port).trans hinside).trans
    (takes_test hloop (steps + 1 + n) middle port')
  have hcount : 1 + n + 1 = n + 2 := by omega
  have hsteps : steps + 1 + n + 1 = steps + (n + 2) := by omega
  rwa [hcount, hsteps] at hturn

theorem Realizes.while (hloop : program.LoopAt start stop)
    (hbody : Realizes program (fun _ => start + 1) stop body) :
    Realizes program (testPlace start stop) (stop + 1) (.While body) where
  delivers := by
    intro tape port outcome h
    induction h with
    | stop hzero =>
        intro steps
        rw [testPlace, if_pos hzero]
        exact .stay _
    | again hnonzero h _ ih =>
        intro steps
        have hturn := takes_turn hloop hbody hnonzero h steps
        rw [testPlace, if_neg hnonzero]
        exact hturn.delivers (ih _)
    | raised hnonzero h =>
        intro steps
        rw [testPlace, if_neg hnonzero]
        have hdelivers := (takes_enter hloop hnonzero steps _).delivers
          (hbody.delivers h (steps + 1))
        rwa [Outcome.after, Nat.add_comm 1] at hdelivers
  goes_on := by
    intro tape port hnone n
    -- Every turn of the loop takes a step at least, so `n` turns take `n` steps.
    induction n generalizing tape port with
    | zero => exact fun _ => ⟨_, .stay _⟩
    | succ n ih =>
        intro steps
        have hnonzero : tape.current ≠ 0 := fun hzero => hnone ⟨_, .stop hzero⟩
        rw [testPlace, if_neg hnonzero]
        by_cases hends : ∃ outcome, body tape port outcome
        · obtain ⟨outcome, houtcome⟩ := hends
          cases outcome with
          | ended middle port' k =>
              have hrestNone : ¬ ∃ outcome, Meaning.While body middle port' outcome :=
                fun ⟨_, h⟩ => hnone ⟨_, .again hnonzero houtcome h⟩
              obtain ⟨after, hafter⟩ := ih hrestNone (steps + (k + 2))
              have hturn := takes_turn hloop hbody hnonzero houtcome steps
              exact (hturn.trans hafter).exists_take_of_le (by omega)
          | raised error place tape' port' k =>
              exact absurd ⟨_, .raised hnonzero houtcome⟩ hnone
        · obtain ⟨after, hafter⟩ := hbody.goes_on hends n (steps + 1)
          have htakes := (takes_enter hloop hnonzero steps port).trans hafter
          exact htakes.exists_take_of_le (by omega)

theorem Realizes.loop (hloop : program.LoopAt start stop)
    (hbody : Realizes program (fun _ => start + 1) stop body) :
    Realizes program (fun _ => start) (stop + 1) (.Loop body) where
  delivers := by
    intro tape port outcome h steps
    rw [Meaning.Loop] at h
    split at h
    · rename_i hzero
      rw [h]
      exact takes_skip hloop hzero steps port
    · rename_i hnonzero
      have hdelivers := (Realizes.while hloop hbody).delivers h steps
      rwa [testPlace, if_neg hnonzero] at hdelivers
  goes_on := by
    intro tape port hnone n steps
    simp only [Meaning.Loop] at hnone
    split at hnone
    · exact absurd ⟨_, rfl⟩ hnone
    · rename_i hnonzero
      have hgoes := (Realizes.while hloop hbody).goes_on hnone n steps
      rwa [testPlace, if_neg hnonzero] at hgoes

end Loops

/-! ## Blocks -/

theorem Block.loopAt_of_mem_loops {program : Program}
    (hprogram : program.jumps.Resolves program.instructions) {b : Block} {offset start stop : Nat}
    (hb : Located program.instructions offset b.instructions)
    (h : (start, stop) ∈ b.loops offset) :
    program.LoopAt start stop := by
  have hmatched := matched_of_mem_loops hb h
  obtain ⟨stop', hmatched', htarget, htarget'⟩ := hprogram.opens start hmatched.opens
  obtain rfl := hmatched.stop_unique hmatched'
  exact ⟨hmatched.opens, hmatched.closes, htarget, htarget'⟩

/-- A block that stands in a program is realized between its first place and the one behind
its last. -/
theorem Block.realizes {π : Type} [Port π] {program : Program}
    (hprogram : program.jumps.Resolves program.instructions) (b : Block) (offset : Nat)
    (hb : Located program.instructions offset b.instructions) :
    Realizes program (fun _ => offset) (offset + b.length) (b.Runs (π := π) offset) := by
  induction b generalizing offset with
  | done => exact realizes_done program offset
  | basic operation rest ih =>
      obtain ⟨hfetch, hrest⟩ := located_rest_of_basic hb
      have hexit : offset + (basic operation rest).length = offset + 1 + rest.length := by
        rw [length]
        omega
      rw [hexit]
      exact (realizes_basic hfetch).then (ih _ hrest)
  | loop body rest ihBody ihRest =>
      obtain ⟨_, hbody, _, hrest⟩ := located_of_loop hb
      have hloop : program.LoopAt offset (offset + 1 + body.length) :=
        loopAt_of_mem_loops hprogram hb (by simp [loops])
      have hexit : offset + (loop body rest).length =
          offset + 1 + body.length + 1 + rest.length := by
        rw [length]
        omega
      rw [hexit]
      exact (Realizes.loop hloop (ihBody _ hbody)).then (ihRest _ hrest)

end TapeMachine
