/-
  An interpreter of texts that is used again.

  Main statement: whatever an interpreter was called with before, a call is answered as a new
  interpreter would answer it.  The call leaves behind the characters that its own output
  instructions wrote and the number of bytes that its own input instructions took, also in
  front of a failure; and the last result is that of the most recent call that halted.  A call
  whose input is no text of bytes changes nothing.
-/
import TapeMachine.Proofs.EndOfInput
import TapeMachine.Proofs.FrontEnds
import TapeMachine.Proofs.Unbalanced

set_option autoImplicit false

namespace TapeMachine

/-! ## Output instructions -/

namespace Machine

/-- The next call of step executes an output instruction. -/
def Outputs {π : Type} (m : Machine π) : Prop :=
  m.state = .running ∧ m.program.fetch? m.index = some .output

instance {π : Type} (m : Machine π) : Decidable m.Outputs :=
  inferInstanceAs (Decidable (_ ∧ _))

/-- The cells under the pointer at the output instructions among a number of calls of step. -/
def shownCells {π : Type} [Port π] (m : Machine π) (n : Nat) : List UInt8 :=
  ((List.range n).filter fun k => (m.stepTimes k).Outputs).map fun k => (m.stepTimes k).tape.current

theorem shownCells_succ {π : Type} [Port π] (m : Machine π) (n : Nat) :
    m.shownCells (n + 1) = m.shownCells n ++
      if (m.stepTimes n).Outputs then [(m.stepTimes n).tape.current] else [] := by
  unfold shownCells
  rw [List.range_succ, List.filter_append, List.map_append]
  by_cases h : (m.stepTimes n).Outputs
  · simp [h]
  · simp [h]

theorem output_execute (x : Instruction) (jumps : JumpTable) (index : Int) (tape : Tape)
    (port : BufferPort) :
    (x.execute jumps index tape port).port.output.toList =
      port.output.toList ++ if x = .output then [tape.current] else [] := by
  rw [Instruction.port_execute]
  cases x with
  | output => simp [Port.write, BufferPort.write_byte]
  | input =>
      cases hremaining : port.remaining with
      | nil => simp [Port.read, BufferPort.read_nil hremaining]
      | cons first rest => simp [Port.read, BufferPort.read_cons hremaining]
  | moveRight | moveLeft | increment | decrement | loopOpen | loopClose => simp

/-- Every output instruction appends the cell under the pointer. -/
theorem output_step (m : Machine BufferPort) :
    m.step.1.port.output.toList =
      m.port.output.toList ++ if m.Outputs then [m.tape.current] else [] := by
  apply step_cases (motive := fun result : Machine BufferPort × Option Raised =>
    result.1.port.output.toList =
      m.port.output.toList ++ if m.Outputs then [m.tape.current] else [])
  case idle => exact fun hstate => by simp [Outputs, hstate]
  case lost => exact fun _ hfetch => by simp [Outputs, hfetch]
  case goes => exact fun x _ hstate hfetch _ => by simp [Outputs, output_execute, hstate, hfetch]
  case raises =>
    exact fun x _ hstate hfetch _ _ => by simp [Outputs, output_execute, hstate, hfetch]

theorem output_stepTimes (m : Machine BufferPort) (n : Nat) :
    (m.stepTimes n).port.output.toList = m.port.output.toList ++ m.shownCells n := by
  induction n with
  | zero => exact (List.append_nil _).symm
  | succ n ih => rw [stepTimes_succ, output_step, ih, shownCells_succ, List.append_assoc]

end Machine

/-! ## Texts that are no bytes -/

namespace Encoding.SingleByte

theorem encodeLatin1From_eq_error {text : List Char} (h : ∃ c ∈ text, 256 ≤ c.toNat)
    (done : List UInt8) (position : Nat) :
    ∃ error, encodeLatin1From done position text = .error error := by
  induction text generalizing done position with
  | nil =>
      obtain ⟨c, hc, _⟩ := h
      exact absurd hc List.not_mem_nil
  | cons first rest ih =>
      unfold encodeLatin1From
      by_cases hfirst : first.toNat < 256
      · rw [if_pos hfirst]
        obtain ⟨c, hc, hlarge⟩ := h
        rcases List.mem_cons.1 hc with rfl | hrest
        · exact absurd hfirst (Nat.not_lt.2 hlarge)
        · exact ih ⟨c, hrest, hlarge⟩ _ _
      · rw [if_neg hfirst]
        exact ⟨_, rfl⟩

end Encoding.SingleByte

open Encoding.SingleByte (Corresponds encodeLatin1)

namespace TextInterpreter

/-! ## Calls -/

/-- A call of an interpreter. -/
structure Call where
  /-- The number of steps allowed. -/
  fuel : Nat
  source : String
  input : String

/-- The interpreter after a call, and what the call gives. -/
def answer (interpreter : TextInterpreter) (call : Call) :
    TextInterpreter × Except Failure String :=
  interpreter.run call.fuel call.source call.input

/-- The interpreter after one call after another. -/
def after (interpreter : TextInterpreter) (calls : List Call) : TextInterpreter :=
  calls.foldl (fun interpreter call => (interpreter.answer call).1) interpreter

/-- The run of a call whose input has these bytes. -/
def Call.runOver (settings : Settings) (call : Call) (bytes : List UInt8) :
    Interpreter.Run BufferPort :=
  Interpreter.runBytes call.fuel call.source bytes settings

/-- The result of a call that halts. -/
def Call.result? (settings : Settings) (call : Call) : Option RunResult :=
  match encodeLatin1 call.input.toList with
  | .error _ => none
  | .ok bytes =>
      match (call.runOver settings bytes).ending with
      | .halted result => some result
      | _ => none

section Answers

variable (interpreter : TextInterpreter) {call : Call}

theorem answer_of_encodes {bytes : List UInt8}
    (h : encodeLatin1 call.input.toList = .ok bytes) :
    (interpreter.answer call).1 =
      interpreter.record (call.runOver interpreter.settings bytes) := by
  unfold answer run
  rw [h]
  unfold Call.runOver
  dsimp only
  cases (Interpreter.runBytes call.fuel call.source bytes interpreter.settings).ending with
  | halted | raised | limitTooSmall | unfinished => rfl

theorem answer_of_not_encodes {error : Encoding.EncodeError}
    (h : encodeLatin1 call.input.toList = .error error) :
    interpreter.answer call = (interpreter, .error (.encoding error)) := by
  unfold answer run
  rw [h]

theorem settings_answer (call : Call) :
    (interpreter.answer call).1.settings = interpreter.settings := by
  cases hencode : encodeLatin1 call.input.toList with
  | error error => rw [answer_of_not_encodes interpreter hencode]
  | ok bytes =>
      rw [answer_of_encodes interpreter hencode]
      rfl

theorem settings_after (calls : List Call) :
    (interpreter.after calls).settings = interpreter.settings := by
  unfold after
  induction calls generalizing interpreter with
  | nil => rfl
  | cons call rest ih =>
      rw [List.foldl_cons, ih, settings_answer]

/-- A call is answered from the settings alone. -/
theorem answer_eq_of_settings_eq {interpreter interpreter' : TextInterpreter}
    (h : interpreter.settings = interpreter'.settings) (call : Call) :
    (interpreter.answer call).2 = (interpreter'.answer call).2 := by
  unfold answer run
  rw [h]
  cases encodeLatin1 call.input.toList with
  | error error => rfl
  | ok bytes =>
      dsimp only
      cases (Interpreter.runBytes call.fuel call.source bytes interpreter'.settings).ending with
      | halted | raised | limitTooSmall | unfinished => rfl

theorem lastResult_answer (call : Call) :
    (interpreter.answer call).1.lastResult =
      (call.result? interpreter.settings).or interpreter.lastResult := by
  unfold Call.result?
  cases hencode : encodeLatin1 call.input.toList with
  | error error => rw [answer_of_not_encodes interpreter hencode, Option.none_or]
  | ok bytes =>
      rw [answer_of_encodes interpreter hencode]
      unfold record
      dsimp only
      cases (call.runOver interpreter.settings bytes).ending with
      | halted | raised | limitTooSmall | unfinished => rfl

/-- The last result is that of the most recent call that halted. -/
theorem lastResult_after (calls : List Call) :
    (interpreter.after calls).lastResult =
      (calls.filterMap (Call.result? interpreter.settings)).getLast?.or
        interpreter.lastResult := by
  induction calls generalizing interpreter with
  | nil => rfl
  | cons call rest ih =>
      have hrest := ih (interpreter.answer call).1
      rw [settings_answer, lastResult_answer] at hrest
      change ((interpreter.answer call).1.after rest).lastResult = _
      rw [hrest]
      cases hresult : call.result? interpreter.settings with
      | none => rw [List.filterMap_cons_none hresult, Option.none_or]
      | some result =>
          rw [List.filterMap_cons_some hresult, List.getLast?_cons]
          cases (rest.filterMap (Call.result? interpreter.settings)).getLast? with
          | none | some => rfl

end Answers

/-! ## What a call leaves behind -/

/-- The bytes that a call writes, and the number of bytes of its input that it takes.  A source
text that is not run does neither; else each output instruction writes a byte, and each input
instruction takes one as long as there are any. -/
inductive Call.Spends (call : Call) (settings : Settings) (bytes : List UInt8) :
    List UInt8 → Nat → Prop
  | uncompiled {fault : Fault} (hcompile : Program.compile call.source = .error fault) :
      Spends call settings bytes [] 0
  | noTape (htape : settings.newTape = none) : Spends call settings bytes [] 0
  | ran {program : Program} {tape : Tape} (hcompile : Program.compile call.source = .ok program)
      (htape : settings.newTape = some tape) :
      Spends call settings bytes
        ((Machine.inMemory program tape bytes).shownCells call.fuel)
        (min ((Machine.inMemory program tape bytes).callsWhere Machine.Inputs call.fuel)
          bytes.length)

theorem Call.spends (call : Call) (settings : Settings) (bytes : List UInt8) :
    call.Spends settings bytes (call.runOver settings bytes).port.output.toList
      (call.runOver settings bytes).port.reads := by
  unfold runOver
  cases hcompile : Program.compile call.source with
  | error fault =>
      have hport : (Interpreter.runBytes call.fuel call.source bytes settings).port =
          .ofInput bytes := by
        unfold Interpreter.runBytes
        rw [Interpreter.run_of_compile_error hcompile]
      rw [hport]
      exact .uncompiled hcompile
  | ok program =>
      cases htape : settings.newTape with
      | none =>
          have hport : (Interpreter.runBytes call.fuel call.source bytes settings).port =
              .ofInput bytes := by
            unfold Interpreter.runBytes Interpreter.run Interpreter.start
            rw [hcompile, htape]
          rw [hport]
          exact .noTape htape
      | some tape =>
          have houtput := Machine.output_stepTimes (Machine.inMemory program tape bytes) call.fuel
          rw [Interpreter.reads_runBytes hcompile htape,
            Interpreter.runBytes_of_compile hcompile htape]
          dsimp only
          rw [houtput]
          exact .ran hcompile htape

theorem Call.Spends.reads_le {call : Call} {settings : Settings} {bytes written : List UInt8}
    {reads : Nat} (h : call.Spends settings bytes written reads) : reads ≤ bytes.length := by
  cases h with
  | uncompiled | noTape => exact Nat.zero_le _
  | ran => exact Nat.min_le_right _ _

theorem outputWrites_record (interpreter : TextInterpreter) (run : Interpreter.Run BufferPort) :
    (interpreter.record run).outputWrites = (interpreter.record run).output.length := by
  simp [record, BufferPort.writes, Encoding.SingleByte.decodeLatin1]

/-- What calls of an interpreter give and leave behind, one after another. -/
structure ActsAfresh (maxCells : Option Int) : Prop where
  /-- What was called before does not matter for an answer. -/
  answer_eq : ∀ (before : List Call) (call : Call),
    (((create maxCells).after before).answer call).2 = ((create maxCells).answer call).2
  /-- A call whose input is a text of bytes gives what the run over these bytes comes to. -/
  returns : ∀ (before : List Call) (call : Call) (bytes : List UInt8),
    Corresponds call.input.toList bytes →
      Returns (call.runOver { maxCells } bytes) (((create maxCells).after before).answer call)
  /-- It leaves behind what it wrote, and how much it wrote and took. -/
  spends : ∀ (before : List Call) (call : Call) (bytes : List UInt8),
    Corresponds call.input.toList bytes →
      let after := (((create maxCells).after before).answer call).1
      ∃ written, call.Spends { maxCells } bytes written after.inputReads ∧
        Corresponds after.output written ∧ after.outputWrites = after.output.length ∧
          after.inputReads ≤ call.input.length
  /-- Any other call changes nothing. -/
  unchanged : ∀ (before : List Call) (call : Call), (∃ c ∈ call.input.toList, 256 ≤ c.toNat) →
    (((create maxCells).after before).answer call).1 = (create maxCells).after before ∧
      ∃ error, (((create maxCells).after before).answer call).2 = .error (.encoding error)
  /-- The last result is that of the most recent call that halted. -/
  lastResult_eq : ∀ calls : List Call, ((create maxCells).after calls).lastResult =
    (calls.filterMap (Call.result? { maxCells })).getLast?

/-- Whatever it was called with before, an interpreter acts as a new one would. -/
theorem actsAfresh_create (maxCells : Option Int) : ActsAfresh maxCells := by
  have hsettings : ∀ calls, ((create maxCells).after calls).settings = { maxCells } :=
    settings_after (create maxCells)
  constructor
  · exact fun before call => answer_eq_of_settings_eq (hsettings before) call
  · intro before call bytes hbytes
    have hreturns :=
      run_of_corresponds call.fuel ((create maxCells).after before) call.source hbytes
    rw [hsettings] at hreturns
    exact hreturns
  · intro before call bytes hbytes after
    have hencode := Encoding.SingleByte.encodeLatin1_of_corresponds hbytes
    have hafter : after = _ := answer_of_encodes _ hencode
    rw [hsettings] at hafter
    have hspends := call.spends { maxCells } bytes
    have hlength := congrArg List.length hbytes
    rw [List.length_map, List.length_map, String.length_toList] at hlength
    rw [hafter, hlength]
    exact ⟨_, hspends, Encoding.SingleByte.corresponds_decodeLatin1 _, outputWrites_record _ _,
      hspends.reads_le⟩
  · rintro before call hlarge
    obtain ⟨error, herror⟩ := Encoding.SingleByte.encodeLatin1From_eq_error hlarge [] 0
    rw [answer_of_not_encodes _ herror]
    exact ⟨rfl, error, rfl⟩
  · intro calls
    rw [lastResult_after]
    exact Option.or_none

/-- A call that halts, one that fails behind what it writes, and one that is not run at all. -/
example :
    let last := (create (some 1)).after [⟨9, ",.", "A"⟩, ⟨9, "+.>", "BC"⟩, ⟨9, ".", "\u20AC"⟩]
    last.output = ['\x01'] ∧ last.inputReads = 0 ∧ last.outputWrites = 1 ∧
      last.lastResult = some ⟨.halted, 2, 0, [65]⟩ := by
  decide

end TextInterpreter

end TapeMachine
