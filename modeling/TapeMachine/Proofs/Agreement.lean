/-
  Compiled programs and their loop trees.

  Main statement: a compiled program has one loop tree, and on every tape and every port a
  machine in front of the program does what the tree means: it ends, or raises an error, or
  goes on forever where the structured semantics does, after as many steps.
-/
import TapeMachine.Proofs.Refinement

set_option autoImplicit false

namespace TapeMachine

/-! ## Reports of runs -/

section Report

variable {π : Type}

/-- What a run with an outcome leaves behind, and its verdict. -/
def Outcome.report (program : Program) : Outcome π → Machine π × Verdict
  | ended tape port steps =>
      (⟨program, port, tape, program.length, steps, none⟩,
        .halted ⟨.halted, steps, tape.pointer, tape.cells.toList⟩)
  | raised error place tape port steps =>
      (⟨program, port, tape, place, steps, error.fault?⟩, .raised error)

theorem Outcome.report_injective {program : Program} {outcome outcome' : Outcome π}
    (h : outcome.report program = outcome'.report program) : outcome = outcome' := by
  cases outcome with
  | ended tape port steps =>
      cases outcome' with
      | ended tape' port' steps' =>
          simp only [report, Prod.mk.injEq, Machine.mk.injEq, true_and, and_true] at h
          obtain ⟨⟨rfl, rfl, rfl⟩, _⟩ := h
          rfl
      | raised => simp [report] at h
  | raised error place tape port steps =>
      cases outcome' with
      | ended => simp [report] at h
      | raised error' place' tape' port' steps' =>
          simp only [report, Prod.mk.injEq, Machine.mk.injEq, true_and, Int.ofNat_inj,
            Verdict.raised.injEq] at h
          obtain ⟨⟨rfl, rfl, rfl, rfl, _⟩, rfl⟩ := h
          rfl

theorem Outcome.verdict_report_ne (program : Program) (outcome : Outcome π) :
    (outcome.report program).2 ≠ .unfinished := by
  cases outcome <;> simp [report]

variable [Port π]

/-- A run of the machine that is long enough ends with the outcome. -/
def Machine.EndsWith (m : Machine π) (outcome : Outcome π) : Prop :=
  ∃ fuel, m.run fuel = outcome.report m.program

end Report

/-! ## The tree of a program -/

theorem Program.exists_tree_of_compile {source : String} {program : Program}
    (h : compile source = .ok program) :
    ∃ tree : Block, tree.instructions = program.instructions := by
  obtain ⟨loops, hloops, _⟩ :=
    (JumpTable.ofInstructions_eq_ok_iff _ _).1 (Program.jumps_of_compile h)
  obtain ⟨tree, htree, _⟩ := (Block.loops_ofInstructions_iff _ loops).1 hloops
  exact ⟨tree, htree⟩

/-! ## Agreement -/

namespace Machine

variable {π : Type} [Port π]

/-- A machine in front of the program does what the tree means. -/
structure Agrees (program : Program) (tree : Block) (tape : Tape) (port : π) : Prop where
  ends_iff : ∀ outcome : Outcome π, tree.Runs 0 tape port outcome ↔
    (start program port tape).EndsWith outcome
  /-- No run ends, whatever its length, exactly when the tree has no outcome. -/
  unfinished_iff : (∀ fuel, ((start program port tape).run fuel).2 = .unfinished) ↔
    ¬ ∃ outcome, tree.Runs 0 tape port outcome
  /-- Stepping goes on exactly when the tree has no outcome.  After a foreign error of its
  port a machine would try the same instruction again. -/
  running_iff : (∀ (port : π) error, ¬ Port.Raises port (.foreign error)) →
    ((∀ n, ((start program port tape).stepTimes n).state = .running) ↔
      ¬ ∃ outcome, tree.Runs 0 tape port outcome)

section Proofs

variable {program : Program} {meaning : Meaning π} {tape : Tape} {port : π} {outcome : Outcome π}

theorem endsWith_of_meaning (h : Realizes program (fun _ => 0) program.length meaning)
    (houtcome : meaning tape port outcome) : (start program port tape).EndsWith outcome := by
  have hdelivers := h.delivers houtcome 0
  cases outcome with
  | ended tape' port' n =>
      rw [Delivers, Nat.zero_add] at hdelivers
      have hhalted : (inFront program program.length n tape' port').state = .halted :=
        (state_halted_iff _).2 ⟨rfl, Int.le_refl _⟩
      refine ⟨n + 1, ?_⟩
      have hrun := runFor_of_takes_halted hdelivers hhalted
      rw [result, hhalted] at hrun
      exact hrun
  | raised error place tape' port' n =>
      rw [Delivers, Nat.zero_add] at hdelivers
      exact ⟨n + 1, runFor_of_fails hdelivers⟩

/-- Where a part has no outcome no run ends. -/
theorem unfinished_of_no_outcome (h : Realizes program (fun _ => 0) program.length meaning)
    (hnone : ¬ ∃ outcome, meaning tape port outcome) (fuel : Nat) :
    ((start program port tape).run fuel).2 = .unfinished := by
  obtain ⟨after, hafter⟩ := h.goes_on hnone (fuel + 1) 0
  exact runFor_unfinished_of_takes hafter

theorem endsWith_unique {m : Machine π} {outcome' : Outcome π} (h : m.EndsWith outcome)
    (h' : m.EndsWith outcome') (hfault : m.fault = none) : outcome = outcome' := by
  obtain ⟨fuel, hfuel⟩ := h
  obtain ⟨fuel', hfuel'⟩ := h'
  rw [run_of_fault_eq_none hfault] at hfuel hfuel'
  exact Outcome.report_injective (runFor_unique hfuel hfuel' (outcome.verdict_report_ne _)
    (outcome'.verdict_report_ne _))

theorem meaning_of_endsWith (h : Realizes program (fun _ => 0) program.length meaning)
    (hends : (start program port tape).EndsWith outcome) : meaning tape port outcome := by
  by_cases hsome : ∃ outcome, meaning tape port outcome
  · obtain ⟨outcome', houtcome'⟩ := hsome
    obtain rfl := endsWith_unique hends (endsWith_of_meaning h houtcome') rfl
    exact houtcome'
  · obtain ⟨fuel, hfuel⟩ := hends
    have hunfinished := unfinished_of_no_outcome h hsome fuel
    rw [hfuel] at hunfinished
    exact absurd hunfinished (outcome.verdict_report_ne _)

/-- An outcome stops the machine, unless it is a foreign error. -/
theorem exists_not_running_of_meaning (hprogram : program.jumps.Resolves program.instructions)
    (hforeign : ∀ (port : π) error, ¬ Port.Raises port (.foreign error))
    (h : Realizes program (fun _ => 0) program.length meaning)
    (houtcome : meaning tape port outcome) :
    ∃ n, ((start program port tape).stepTimes n).state ≠ .running := by
  have hdelivers := h.delivers houtcome 0
  cases outcome with
  | ended tape' port' n =>
      have hafter : (start program port tape).stepTimes n = _ := stepTimes_of_takes hdelivers
      refine ⟨n, fun hrunning => ?_⟩
      rw [hafter] at hrunning
      have hlt := ((state_running_iff _).1 hrunning).2
      exact absurd hlt (Int.lt_irrefl _)
  | raised error place tape' port' n =>
      obtain ⟨last, hlast, hraises⟩ := hdelivers
      have hwithin : Within program last :=
        hlast.invariant (fun _ hstep => within_step hprogram hstep)
          (within_start program port tape)
      have hforeseen := foreseen_of_step hprogram hwithin hraises
      have hafter : (start program port tape).stepTimes n = last := stepTimes_of_takes hlast
      refine ⟨n + 1, fun hrunning => ?_⟩
      rw [stepTimes_succ, hafter, hraises] at hrunning
      exact hforeseen.fault?_ne_none (hforeign _) ((state_running_iff _).1 hrunning).1

theorem agrees_of_realizes {tree : Block}
    (hprogram : program.jumps.Resolves program.instructions)
    (h : Realizes program (fun _ => 0) program.length (tree.Runs (π := π) 0)) :
    Agrees program tree tape port where
  ends_iff _ := ⟨endsWith_of_meaning h, meaning_of_endsWith h⟩
  unfinished_iff := by
    refine ⟨?_, unfinished_of_no_outcome h⟩
    rintro hunfinished ⟨outcome, houtcome⟩
    obtain ⟨fuel, hfuel⟩ := endsWith_of_meaning h houtcome
    have hverdict := hunfinished fuel
    rw [hfuel] at hverdict
    exact outcome.verdict_report_ne _ hverdict
  running_iff := by
    refine fun hforeign => ⟨?_, fun hnone n => ?_⟩
    · rintro hrunning ⟨outcome, houtcome⟩
      obtain ⟨n, hn⟩ := exists_not_running_of_meaning hprogram hforeign h houtcome
      exact hn (hrunning n)
    · obtain ⟨after, hafter⟩ := h.goes_on hnone (n + 1) 0
      exact running_stepTimes_of_takes hafter

end Proofs

end Machine

/-! ## Compiled programs -/

/-- A compiled program has one loop tree, and machines in front of the program do what the
tree means. -/
theorem Program.agrees_of_compile {source : String} {program : Program}
    (h : compile source = .ok program) :
    ∃ tree : Block, tree.instructions = program.instructions ∧
      (∀ other : Block, other.instructions = program.instructions → other = tree) ∧
        ∀ {π : Type} [Port π] (tape : Tape) (port : π),
          Machine.Agrees program tree tape port := by
  have hprogram := resolves_of_compile h
  obtain ⟨tree, htree⟩ := exists_tree_of_compile h
  have hlocated : Located program.instructions 0 tree.instructions := by
    rw [htree]
    exact Located.whole _
  have hlength : tree.length = program.length := by
    rw [← tree.length_instructions, htree, program.length_instructions]
  refine ⟨tree, htree, fun other hother => ?_, fun {π} _ tape port => ?_⟩
  · exact Block.instructions_injective (hother.trans htree.symm)
  · have hrealizes := tree.realizes (π := π) hprogram 0 hlocated
    rw [Nat.zero_add, hlength] at hrealizes
    exact Machine.agrees_of_realizes hprogram hrealizes

/-- A cell counted down, each of its values written. -/
theorem Program.agrees_of_compile_countdown : ∃ program, compile "+++[.-]" = .ok program ∧
    ∃ tree : Block, tree.instructions = program.instructions ∧
      Machine.Agrees program tree Tape.single (BufferPort.ofInput []) ∧
        ∀ (port : BufferPort) error, ¬ Port.Raises port (.foreign error) := by
  have hcompile : compile "+++[.-]" = .ok
      ⟨#[.increment, .increment, .increment, .loopOpen, .output, .decrement, .loopClose],
        ⟨[(3, 6), (6, 3)]⟩⟩ := rfl
  obtain ⟨tree, htree, _, hagrees⟩ := agrees_of_compile hcompile
  exact ⟨_, hcompile, tree, htree, hagrees Tape.single (BufferPort.ofInput []),
    BufferPort.not_raises_foreign⟩

end TapeMachine
