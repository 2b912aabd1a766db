/-
  Loops that leave the port alone.

  The body of such a loop is a row of moves and of changes by one.  Main statements: a row
  does to the tape what its operations do, up to the first that is refused; a loop around a
  row repeats it for as long as the current cell is not zero, and each turn costs two steps
  more than the row has instructions; where the cell never becomes zero the machine goes on
  forever; and however the machine is driven, its port stays as it is.
-/
import Mathlib.Logic.Function.Iterate
import TapeMachine.Proofs.Agreement
import TapeMachine.Proofs.Driving
import TapeMachine.Proofs.Failing
import TapeMachine.Proofs.TapeOperations

set_option autoImplicit false

namespace TapeMachine

/-! ## Rows of operations -/

/-- Performs operations one after another, up to the first that is refused. -/
def performRow {σ : Type} (perform : Operation → σ → σ × Option Refused) :
    List Operation → σ → σ × Option Refused
  | [], s => (s, none)
  | operation :: rest, s =>
      match perform operation s with
      | (next, none) => performRow perform rest next
      | (next, some refused) => (next, some refused)

section Rows

variable {σ τ : Type} {perform : Operation → σ → σ × Option Refused}
  {perform' : Operation → τ → τ × Option Refused}

theorem performRow_cons {operation : Operation} {s next : σ}
    (h : perform operation s = (next, none)) (rest : List Operation) :
    performRow perform (operation :: rest) s = performRow perform rest next := by
  rw [performRow, h]

theorem performRow_cons_of_refused {operation : Operation} {s next : σ} {refused : Refused}
    (h : perform operation s = (next, some refused)) (rest : List Operation) :
    performRow perform (operation :: rest) s = (next, some refused) := by
  rw [performRow, h]

theorem performRow_append {front : List Operation} {s middle : σ}
    (h : performRow perform front s = (middle, none)) (behind : List Operation) :
    performRow perform (front ++ behind) s = performRow perform behind middle := by
  induction front generalizing s with
  | nil =>
      obtain ⟨rfl, _⟩ := Prod.mk.inj h
      rfl
  | cons operation rest ih =>
      rcases hnext : perform operation s with ⟨next, _ | refused⟩
      · rw [performRow_cons hnext] at h
        rw [List.cons_append, performRow_cons hnext]
        exact ih h
      · rw [performRow_cons_of_refused hnext] at h
        cases h

/-- A row that is refused is refused as well with more behind it. -/
theorem performRow_append_of_refused {front : List Operation} {s last : σ} {refused : Refused}
    (h : performRow perform front s = (last, some refused)) (behind : List Operation) :
    performRow perform (front ++ behind) s = (last, some refused) := by
  induction front generalizing s with
  | nil => cases h
  | cons operation rest ih =>
      rcases hnext : perform operation s with ⟨next, _ | refused'⟩
      · rw [performRow_cons hnext] at h
        rw [List.cons_append, performRow_cons hnext]
        exact ih h
      · rw [performRow_cons_of_refused hnext] at h
        rw [List.cons_append, performRow_cons_of_refused hnext]
        exact h

/-- States that correspond under every operation do so under rows of operations. -/
theorem performRow_related {R : σ → τ → Prop} {s : σ} {t : τ} (h : R s t)
    (hstep : ∀ operation s t, R s t → R (perform operation s).1 (perform' operation t).1 ∧
      (perform operation s).2 = (perform' operation t).2) (row : List Operation) :
    R (performRow perform row s).1 (performRow perform' row t).1 ∧
      (performRow perform row s).2 = (performRow perform' row t).2 := by
  induction row generalizing s t with
  | nil => exact ⟨h, rfl⟩
  | cons operation rest ih =>
      obtain ⟨hnext, hraised⟩ := hstep operation s t h
      rcases hs : perform operation s with ⟨next, refused⟩
      rcases ht : perform' operation t with ⟨next', refused'⟩
      rw [hs, ht] at hnext hraised
      obtain rfl : refused = refused' := hraised
      cases refused with
      | none =>
          rw [performRow_cons hs, performRow_cons ht]
          exact ih hnext
      | some refused =>
          rw [performRow_cons_of_refused hs, performRow_cons_of_refused ht]
          exact ⟨hnext, rfl⟩

end Rows

/-! ## Quiet instructions -/

/-- A basic instruction that leaves the port alone. -/
inductive Quiet where
  | moveRight
  | moveLeft
  | increment
  | decrement
  deriving DecidableEq, Repr, Inhabited

namespace Quiet

/-- The basic instruction of a quiet one. -/
def basic : Quiet → Basic
  | moveRight => .moveRight
  | moveLeft => .moveLeft
  | increment => .increment
  | decrement => .decrement

/-- What a quiet instruction does to a tape. -/
def operation : Quiet → Operation
  | moveRight => .moveRight
  | moveLeft => .moveLeft
  | increment => .increment
  | decrement => .decrement

variable {π : Type} [Port π] {quiet : Quiet} {tape after : Tape}

theorem outcome_basic (h : tape.perform quiet.operation = (after, none)) (place : Nat) (port : π) :
    quiet.basic.outcome place tape port = .ended after port 1 := by
  cases quiet with
  | moveRight =>
      rcases hmove : tape.moveRight with ⟨next, _ | fault⟩
      · simp_all [operation, Tape.perform, basic, Basic.outcome]
      · simp [operation, Tape.perform, hmove] at h
  | moveLeft =>
      rcases hmove : tape.moveLeft with ⟨next, _ | fault⟩
      · simp_all [operation, Tape.perform, basic, Basic.outcome]
      · simp [operation, Tape.perform, hmove] at h
  | increment | decrement =>
      obtain ⟨rfl, _⟩ := Prod.mk.inj h
      rfl

theorem outcome_basic_of_overflow {bound : Int}
    (h : tape.perform quiet.operation = (after, some (.fault (.overflow bound)))) (place : Nat)
    (port : π) :
    quiet.basic.outcome place tape port =
      .raised (.fault (.overflow bound)) place after port 0 := by
  cases quiet with
  | moveRight =>
      rcases hmove : tape.moveRight with ⟨next, _ | fault⟩
      · simp [operation, Tape.perform, hmove] at h
      · simp_all [operation, Tape.perform, basic, Basic.outcome]
  | moveLeft =>
      rw [operation, Tape.perform, Tape.moveLeft] at h
      split at h <;> simp at h
  | increment | decrement => simp [operation, Tape.perform] at h

end Quiet

/-- The tape behind a row of quiet instructions, and what is refused of them. -/
def Tape.follow (t : Tape) (row : List Quiet) : Tape × Option Refused :=
  performRow Tape.perform (row.map Quiet.operation) t

/-! ## Loops around rows -/

namespace Block

/-- A row of quiet instructions as a block. -/
def ofRow (row : List Quiet) : Block :=
  row.foldr (fun quiet rest => .basic quiet.basic rest) .done

/-- A loop around a row, and nothing behind it. -/
def around (row : List Quiet) : Block := .loop (ofRow row) .done

theorem instructions_ofRow (row : List Quiet) :
    (ofRow row).instructions = row.map fun quiet => quiet.basic.instruction := by
  induction row with
  | nil => rfl
  | cons quiet rest ih => exact congrArg (quiet.basic.instruction :: ·) ih

theorem instructions_around (row : List Quiet) :
    (around row).instructions =
      .loopOpen :: (row.map fun quiet => quiet.basic.instruction) ++ [.loopClose] := by
  rw [around, instructions, instructions_ofRow]
  rfl

end Block

section Runs

variable {π : Type} [Port π] {tape after : Tape} {port : π} {outcome : Outcome π}

omit [Port π] in
/-- A part that ends in one way is followed by what comes behind it. -/
theorem Meaning.then_iff_of_ended {first second : Meaning π} {middle : Tape} {port' : π} {n : Nat}
    (h : ∀ outcome, first tape port outcome ↔ outcome = .ended middle port' n) :
    Meaning.Then first second tape port outcome ↔
      ∃ rest, second middle port' rest ∧ outcome = rest.after n := by
  constructor
  · intro hthen
    cases hthen with
    | ended hfirst hsecond =>
        obtain ⟨rfl, rfl, rfl⟩ := Outcome.ended.inj ((h _).1 hfirst)
        exact ⟨_, hsecond, rfl⟩
    | raised hfirst => cases (h _).1 hfirst
  · rintro ⟨rest, hrest, rfl⟩
    exact .ended ((h _).2 rfl) hrest

/-- Nothing behind a part changes nothing. -/
theorem Meaning.then_done_iff {first : Meaning π} {place : Nat} :
    Meaning.Then first (Block.done.Runs place) tape port outcome ↔ first tape port outcome := by
  constructor
  · intro hthen
    cases hthen with
    | ended hfirst hdone =>
        obtain rfl : _ = Outcome.ended _ _ 0 := hdone
        exact hfirst
    | raised hfirst => exact hfirst
  · intro hfirst
    cases outcome with
    | ended middle port' n =>
        have hdone : (Block.done.Runs place : Meaning π) middle port' (.ended middle port' 0) := rfl
        exact .ended hfirst hdone
    | raised => exact .raised hfirst

/-- A row ends in one way when none of it is refused, and each of its instructions is a
step. -/
theorem Block.runs_ofRow_iff {row : List Quiet} (h : tape.follow row = (after, none))
    (offset : Nat) :
    (ofRow row).Runs offset tape port outcome ↔ outcome = .ended after port row.length := by
  induction row generalizing offset tape outcome with
  | nil =>
      obtain ⟨rfl, _⟩ := Prod.mk.inj h
      rfl
  | cons quiet rest ih =>
      rcases hnext : tape.perform quiet.operation with ⟨next, _ | refused⟩
      · have hrest : next.follow rest = (after, none) := by
          rw [← h]
          exact (performRow_cons hnext _).symm
        have hfirst : ∀ outcome,
            Meaning.Always (fun tape port => quiet.basic.outcome offset tape port)
              tape port outcome ↔ outcome = .ended next port 1 := by
          intro outcome
          rw [Meaning.Always, quiet.outcome_basic hnext offset port]
        have hthen : (ofRow (quiet :: rest)).Runs offset tape port outcome ↔
            ∃ behind, (ofRow rest).Runs (offset + 1) next port behind ∧
              outcome = behind.after 1 := Meaning.then_iff_of_ended hfirst
        rw [hthen]
        simp only [ih hrest, exists_eq_left, Outcome.after, List.length_cons, Nat.add_comm 1]
      · rw [Tape.follow, List.map_cons, performRow_cons_of_refused hnext] at h
        cases h

/-- A row in which a move meets the limit of the tape raises that. -/
theorem Block.exists_runs_ofRow_of_overflow {row : List Quiet} {bound : Int}
    (h : tape.follow row = (after, some (.fault (.overflow bound)))) (offset : Nat) :
    ∃ place n, (ofRow row).Runs offset tape port
      (.raised (.fault (.overflow bound)) place after port n) := by
  induction row generalizing offset tape with
  | nil => cases h
  | cons quiet rest ih =>
      rcases hnext : tape.perform quiet.operation with ⟨next, _ | refused⟩
      · have hrest : next.follow rest = (after, some (.fault (.overflow bound))) := by
          rw [← h]
          exact (performRow_cons hnext _).symm
        obtain ⟨place, n, hruns⟩ := ih hrest (offset + 1)
        have hfirst := quiet.outcome_basic hnext offset port
        exact ⟨place, 1 + n, .ended hfirst.symm hruns⟩
      · rw [Tape.follow, List.map_cons, performRow_cons_of_refused hnext] at h
        obtain ⟨rfl, hrefused⟩ := Prod.mk.inj h
        obtain rfl := Option.some.inj hrefused
        exact ⟨offset, 0, .raised (quiet.outcome_basic_of_overflow hnext offset port).symm⟩

/-! ## Turns -/

/-- The tape after one turn of a loop around a row. -/
def Tape.turn (row : List Quiet) (t : Tape) : Tape := (t.follow row).1

namespace Meaning

section Turns

variable {row : List Quiet} {place : Nat}

/-- The turns of a loop up to the first that finds a zero cell. -/
theorem while_of_turns (n : Nat)
    (hpasses : ∀ k, k < n → (((Tape.turn row)^[k] tape).follow row).2 = none)
    (hnonzero : ∀ k, k < n → ((Tape.turn row)^[k] tape).current ≠ 0)
    (hzero : ((Tape.turn row)^[n] tape).current = 0) :
    While ((Block.ofRow row).Runs place) tape port
      (.ended ((Tape.turn row)^[n] tape) port (n * (row.length + 2))) := by
  induction n generalizing tape with
  | zero =>
      rw [Nat.zero_mul]
      exact .stop hzero
  | succ n ih =>
      have hbody : (Block.ofRow row).Runs place tape port
          (.ended (Tape.turn row tape) port row.length) :=
        (Block.runs_ofRow_iff (Prod.ext rfl (hpasses 0 n.succ_pos)) place).2 rfl
      have hrest := @ih (Tape.turn row tape)
        (fun k hk => hpasses (k + 1) (Nat.succ_lt_succ hk))
        (fun k hk => hnonzero (k + 1) (Nat.succ_lt_succ hk)) hzero
      have hall := While.again (hnonzero 0 n.succ_pos) hbody hrest
      rw [Outcome.after, Nat.add_comm, ← Nat.succ_mul] at hall
      exact hall

/-- A loop whose turns never find a zero cell does not end. -/
theorem not_while_of_turns
    (hpasses : ∀ k, (((Tape.turn row)^[k] tape).follow row).2 = none)
    (hnonzero : ∀ k, ((Tape.turn row)^[k] tape).current ≠ 0) :
    ¬ While ((Block.ofRow row).Runs place) tape port outcome := by
  intro hwhile
  induction hwhile with
  | stop hzero => exact hnonzero 0 hzero
  | @again tape _ _ _ _ _ _ hbody _ ih =>
      have hturn := (Block.runs_ofRow_iff (Prod.ext rfl (hpasses 0)) place).1 hbody
      obtain ⟨rfl, rfl, rfl⟩ := Outcome.ended.inj hturn
      exact ih (fun k => hpasses (k + 1)) fun k => hnonzero (k + 1)
  | raised _ hbody => cases (Block.runs_ofRow_iff (Prod.ext rfl (hpasses 0)) place).1 hbody

end Turns

end Meaning

end Runs

/-! ## Programs of one loop -/

theorem Program.mem_of_fetch? {program : Program} {index : Int} {x : Instruction}
    (h : program.fetch? index = some x) : x ∈ program.instructions := by
  unfold fetch? at h
  split at h
  · exact Array.mem_toList_iff.2 (Array.mem_of_getElem? h)
  · split at h
    · exact Array.mem_toList_iff.2 (Array.mem_of_getElem? h)
    · cases h

namespace Machine

variable {π : Type} [Port π] {m after : Machine π}

/-- A machine that is driven until it rests is then what it is whenever it rests. -/
theorem stepTimes_eq_of_not_running {n k : Nat} (hn : (m.stepTimes n).state ≠ .running)
    (hk : (m.stepTimes k).state ≠ .running) : m.stepTimes k = m.stepTimes n := by
  have hfirst : m.stepTimes (n + k) = m.stepTimes n := by
    rw [stepTimes_add, stepTimes_of_not_running hn]
  rw [Nat.add_comm, stepTimes_add, stepTimes_of_not_running hk] at hfirst
  exact hfirst

/-- However a machine is driven, the only fault that it comes to is that of its outcome. -/
theorem EndsWith.eq_of_fault {outcome : Outcome π} (h : m.EndsWith outcome)
    (hrests : (outcome.report m.program).1.state ≠ .running) {n : Nat} (hafter : Driven m n after)
    {own : Fault} (hfault : after.fault = some own) : after = (outcome.report m.program).1 := by
  obtain ⟨fuel, hfuel⟩ := h
  have hend : m.stepTimes (m.stepCalls fuel) = (outcome.report m.program).1 := by
    rw [← run_eq_stepTimes, hfuel]
  have hfailed : after.state ≠ .running := by
    rw [(state_failed_iff after).2 ⟨own, hfault⟩]
    simp
  obtain rfl := hafter.eq_stepTimes
  rw [← hend] at hrests ⊢
  exact stepTimes_eq_of_not_running hrests hfailed

/-- A program without input and output instructions leaves the port as it is. -/
theorem port_of_driven (hquiet : ∀ x ∈ m.program.instructions, x ≠ .input ∧ x ≠ .output) {n : Nat}
    (hafter : Driven m n after) : after.port = m.port := by
  obtain rfl := hafter.eq_stepTimes
  have hboth : (m.stepTimes n).program = m.program ∧ (m.stepTimes n).port = m.port := by
    refine stepTimes_invariant (P := fun after => after.program = m.program ∧ after.port = m.port)
      ?_ ⟨rfl, rfl⟩ n
    rintro middle ⟨hprogram, hport⟩
    refine ⟨(program_step middle).trans hprogram, ?_⟩
    have hexecute : ∀ x, middle.program.fetch? middle.index = some x →
        (x.execute middle.program.jumps middle.index middle.tape middle.port).port = m.port := by
      intro x hfetch
      obtain ⟨hinput, houtput⟩ := hquiet x (hprogram ▸ Program.mem_of_fetch? hfetch)
      rw [Instruction.port_execute]
      cases x with
      | input => exact absurd rfl hinput
      | output => exact absurd rfl houtput
      | moveRight | moveLeft | increment | decrement | loopOpen | loopClose => exact hport
    apply step_cases (motive := fun result => result.1.port = m.port)
    case idle => exact fun _ => hport
    case lost => exact fun _ _ => hport
    case goes => exact fun x _ _ hfetch _ => hexecute x hfetch
    case raises => exact fun x _ _ hfetch _ _ => hexecute x hfetch
  exact hboth.2

end Machine

namespace Program

/-- The program is a loop around a row of quiet instructions. -/
structure IsLoop (program : Program) (row : List Quiet) : Prop where
  instructions_eq : program.instructions = (Block.around row).instructions
  realizes : ∀ {π : Type} [Port π],
    Realizes program (fun _ => 0) program.length ((Block.around row).Runs (π := π) 0)

theorem exists_isLoop_of_lex {source : String} {row : List Quiet}
    (h : Instruction.lex source = (Block.around row).instructions) :
    ∃ program, compile source = .ok program ∧ program.IsLoop row := by
  have hloops := (Block.loops_ofInstructions_iff _ _).2 ⟨Block.around row, h.symm, rfl⟩
  have hcompile : compile source = .ok ⟨(Instruction.lex source).toArray,
      ⟨((Block.around row).loops 0).flatMap Loops.jumps⟩⟩ := by
    unfold compile ofInstructions JumpTable.ofInstructions
    rw [hloops]
    rfl
  have hinstructions := (instructions_of_compile hcompile).trans h
  refine ⟨_, hcompile, hinstructions, fun {π} _ => ?_⟩
  have hrealizes := (Block.around row).realizes (π := π) (resolves_of_compile hcompile) 0
    (hinstructions ▸ Located.whole _)
  rwa [Nat.zero_add, ← Block.length_instructions, ← hinstructions, length_instructions]
    at hrealizes

namespace IsLoop

variable {program : Program} {row : List Quiet} {π : Type} [Port π] {tape : Tape}

theorem endsWith_of_zero (h : program.IsLoop row) (hzero : tape.current = 0) (port : π) :
    (Machine.start program port tape).EndsWith (.ended tape port 1) := by
  refine Machine.endsWith_of_meaning h.realizes (Meaning.then_done_iff.2 ?_)
  exact (if_pos hzero).mpr rfl

/-- The loop ends behind the first turn that leaves a zero cell. -/
theorem endsWith_of_turns (h : program.IsLoop row) {n : Nat} (hn : n ≠ 0)
    (hpasses : ∀ k, k < n → (((Tape.turn row)^[k] tape).follow row).2 = none)
    (hnonzero : ∀ k, k < n → ((Tape.turn row)^[k] tape).current ≠ 0)
    (hzero : ((Tape.turn row)^[n] tape).current = 0) (port : π) :
    (Machine.start program port tape).EndsWith
      (.ended ((Tape.turn row)^[n] tape) port (n * (row.length + 2))) := by
  refine Machine.endsWith_of_meaning h.realizes (Meaning.then_done_iff.2 ?_)
  have hstart : tape.current ≠ 0 := hnonzero 0 (Nat.pos_of_ne_zero hn)
  exact (if_neg hstart).mpr (Meaning.while_of_turns n hpasses hnonzero hzero)

/-- The machine raises what the first turn does when that meets the limit of the tape. -/
theorem endsWith_of_overflow (h : program.IsLoop row) (hnonzero : tape.current ≠ 0) {after : Tape}
    {bound : Int} (hfollow : tape.follow row = (after, some (.fault (.overflow bound))))
    (port : π) :
    ∃ place n, (Machine.start program port tape).EndsWith
      (.raised (.fault (.overflow bound)) place after port n) := by
  obtain ⟨place, n, hbody⟩ : ∃ place n, (Block.ofRow row).Runs 1 tape port
      (.raised (.fault (.overflow bound)) place after port n) :=
    Block.exists_runs_ofRow_of_overflow hfollow 1
  refine ⟨place, n + 1, Machine.endsWith_of_meaning h.realizes (Meaning.then_done_iff.2 ?_)⟩
  exact (if_neg hnonzero).mpr (.raised hnonzero hbody)

/-- The loop has no outcome when no turn leaves a zero cell. -/
theorem no_outcome_of_turns (hpasses : ∀ k, (((Tape.turn row)^[k] tape).follow row).2 = none)
    (hnonzero : ∀ k, ((Tape.turn row)^[k] tape).current ≠ 0) (port : π) :
    ¬ ∃ outcome, (Block.around row).Runs 0 tape port outcome := by
  rintro ⟨outcome, houtcome⟩
  have hstart : tape.current ≠ 0 := hnonzero 0
  have hwhile := (if_neg hstart).mp (Meaning.then_done_iff.1 houtcome)
  exact Meaning.not_while_of_turns hpasses hnonzero hwhile

/-- Without an outcome the machine goes on forever. -/
theorem running_of_no_outcome (h : program.IsLoop row) {port : π}
    (hnone : ¬ ∃ outcome, (Block.around row).Runs 0 tape port outcome) (n : Nat) :
    ((Machine.start program port tape).stepTimes n).state = .running := by
  obtain ⟨after, hafter⟩ := h.realizes.goes_on hnone (n + 1) 0
  exact Machine.running_stepTimes_of_takes hafter

theorem port_of_driven (h : program.IsLoop row) {port : π} {n : Nat} {after : Machine π}
    (hafter : Machine.Driven (.start program port tape) n after) : after.port = port := by
  refine Machine.port_of_driven (m := .start program port tape) ?_ hafter
  intro x hx
  have hmem : x ∈ (Block.around row).instructions := h.instructions_eq ▸ hx
  rw [Block.instructions_around] at hmem
  simp only [List.cons_append, List.mem_cons, List.mem_append, List.mem_map, List.not_mem_nil,
    or_false] at hmem
  rcases hmem with rfl | ⟨quiet, _, rfl⟩ | rfl
  · simp
  · cases quiet <;> simp [Quiet.basic, Basic.instruction]
  · simp

end IsLoop

end Program

end TapeMachine
