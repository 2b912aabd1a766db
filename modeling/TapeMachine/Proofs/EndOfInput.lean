/-
  The end of the input.

  Behind its last byte an input in memory goes on as an endless stream of zero bytes would,
  and what a machine does in a number of steps depends only on as many bytes of that stream
  as it has executed input instructions.  Main statement: machines over two inputs that agree
  so far are alike after so many steps, but for the number of bytes that they have read; runs
  over the two inputs end alike and write the same.
-/
import TapeMachine.Interpreter
import TapeMachine.Proofs.Driving
import TapeMachine.Proofs.Lockstep

set_option autoImplicit false

namespace TapeMachine

/-! ## Endless streams -/

/-- A port over an endless stream: the byte at each of its places, the number of bytes read
and the output written. -/
structure EndlessPort where
  byteAt : Nat → UInt8
  reads : Nat
  output : Array UInt8

namespace EndlessPort

/-- The port at the start of a stream. -/
def ofStream (byteAt : Nat → UInt8) : EndlessPort := ⟨byteAt, 0, #[]⟩

/-- The next byte of the stream. -/
def read (port : EndlessPort) : EndlessPort × Except PortError (Option Int) :=
  ({ port with reads := port.reads + 1 }, .ok (some (port.byteAt port.reads).toNat))

/-- Appends a byte to the output, as a port in memory does. -/
def write (port : EndlessPort) (value : Int) : EndlessPort × Except PortError Unit :=
  let result := BufferPort.write ⟨[], port.reads, port.output⟩ value
  ({ port with output := result.1.output }, result.2)

instance : Port EndlessPort := ⟨read, write⟩

theorem write_byte (port : EndlessPort) (byte : UInt8) :
    port.write byte.toNat = ({ port with output := port.output.push byte }, .ok ()) := by
  simp only [write, BufferPort.write_byte]

theorem nextCell_eq (port : EndlessPort) :
    Port.nextCell port = .ok (port.byteAt port.reads) := by
  simp only [Port.nextCell, Port.read, read, Option.getD_some, Tape.cellOf_toNat]

end EndlessPort

/-! ## Inputs as streams -/

/-- The byte at a place of an input that goes on with zero bytes. -/
def padded (input : List UInt8) (place : Nat) : UInt8 := input.getD place 0

theorem padded_append_replicate (input : List UInt8) (k : Nat) :
    padded (input ++ List.replicate k 0) = padded input := by
  funext place
  by_cases hplace : place < input.length
  · simp [padded, List.getElem?_append_left hplace]
  · have hle := Nat.le_of_not_lt hplace
    simp only [padded, List.getD_eq_getElem?_getD, List.getElem?_append_right hle,
      List.getElem?_replicate, List.getElem?_eq_none hle]
    split <;> rfl

/-- The inputs, each of them going on with zero bytes, agree on so many places. -/
def AgreeBelow (count : Nat) (input input' : List UInt8) : Prop :=
  ∀ place < count, padded input place = padded input' place

/-- Inputs of one length that agree on the bytes that a port in memory reads agree on all the
places that are asked for. -/
theorem agreeBelow_of_take {count : Nat} {input input' : List UInt8}
    (hlength : input.length = input'.length)
    (h : input.take (min count input.length) = input'.take (min count input.length)) :
    AgreeBelow count input input' := by
  intro place hplace
  by_cases hinside : place < input.length
  · have hlt : place < min count input.length := Nat.lt_min.2 ⟨hplace, hinside⟩
    have hat := congrArg (fun bytes => bytes[place]?) h
    simp only [List.getElem?_take, if_pos hlt] at hat
    rw [padded, padded, List.getD_eq_getElem?_getD, List.getD_eq_getElem?_getD, hat]
  · have hle := Nat.le_of_not_lt hinside
    simp only [padded, List.getD_eq_getElem?_getD, List.getElem?_eq_none hle,
      List.getElem?_eq_none (hlength ▸ hle)]

/-- The port in memory has come as far in its input as the endless port has come in its
stream, which is the input going on with zero bytes.  Only the bytes of the input are
counted. -/
structure ShowsInput (input : List UInt8) (stream : EndlessPort) (port : BufferPort) : Prop where
  byteAt_eq : stream.byteAt = padded input
  remaining_eq : port.remaining = input.drop stream.reads
  reads_eq : port.reads = min stream.reads input.length
  output_eq : port.output = stream.output

namespace ShowsInput

variable {input : List UInt8} {stream : EndlessPort} {port : BufferPort}

theorem ofInput (input : List UInt8) :
    ShowsInput input (.ofStream (padded input)) (.ofInput input) :=
  ⟨rfl, rfl, (Nat.zero_min _).symm, rfl⟩

/-- A read gives the same byte, also at the end of the input. -/
theorem read (h : ShowsInput input stream port) :
    Port.nextCell port = Port.nextCell stream ∧
      ShowsInput input (Port.read stream).1 (Port.read port).1 := by
  rw [EndlessPort.nextCell_eq, h.byteAt_eq]
  cases hremaining : port.remaining with
  | nil =>
      have hend : input.length ≤ stream.reads :=
        List.drop_eq_nil_iff.1 (h.remaining_eq.symm.trans hremaining)
      have hread : Port.read port = (port, .ok none) := BufferPort.read_nil hremaining
      constructor
      · simp only [Port.nextCell, hread, padded, List.getD_eq_getElem?_getD,
          List.getElem?_eq_none hend]
        rfl
      · rw [hread]
        refine ⟨h.byteAt_eq, ?_, ?_, h.output_eq⟩
        · rw [hremaining]
          exact (List.drop_eq_nil_iff.2 (Nat.le_succ_of_le hend)).symm
        · rw [h.reads_eq, Nat.min_eq_right hend]
          exact (Nat.min_eq_right (Nat.le_succ_of_le hend)).symm
  | cons byte rest =>
      have hdrop : input.drop stream.reads = byte :: rest := h.remaining_eq.symm.trans hremaining
      have hlt : stream.reads < input.length := by
        by_contra hend
        rw [List.drop_eq_nil_iff.2 (Nat.le_of_not_lt hend)] at hdrop
        simp at hdrop
      rw [List.drop_eq_getElem_cons hlt, List.cons.injEq] at hdrop
      obtain ⟨hbyte, hrest⟩ := hdrop
      have hread : Port.read port =
          ({ port with remaining := rest, reads := port.reads + 1 }, .ok (some byte.toNat)) :=
        BufferPort.read_cons hremaining
      constructor
      · simp only [Port.nextCell, hread, Option.getD_some, Tape.cellOf_toNat, padded,
          List.getD_eq_getElem?_getD, List.getElem?_eq_getElem hlt, hbyte]
      · rw [hread]
        refine ⟨h.byteAt_eq, hrest.symm, ?_, h.output_eq⟩
        change port.reads + 1 = min (stream.reads + 1) input.length
        rw [h.reads_eq]
        omega

theorem write (h : ShowsInput input stream port) (byte : UInt8) :
    (Port.write port byte.toNat).2 = (Port.write stream byte.toNat).2 ∧
      ShowsInput input (Port.write stream byte.toNat).1 (Port.write port byte.toNat).1 := by
  simp only [Port.write, BufferPort.write_byte, EndlessPort.write_byte]
  refine ⟨trivial, h.byteAt_eq, h.remaining_eq, h.reads_eq, ?_⟩
  exact congrArg (Array.push · byte) h.output_eq

end ShowsInput

namespace Machine

/-! ## Input instructions -/

/-- The next call of step executes an input instruction. -/
def Inputs {π : Type} (m : Machine π) : Prop :=
  m.state = .running ∧ m.program.fetch? m.index = some .input

instance {π : Type} (m : Machine π) : Decidable m.Inputs :=
  inferInstanceAs (Decidable (_ ∧ _))

theorem Lockstep.inputs_iff {π π' : Type} {R : Likeness π π'} {m : Machine π} {m' : Machine π'}
    (h : Lockstep R m m') : m'.Inputs ↔ m.Inputs := by
  rw [Inputs, Inputs, h.state_eq, h.program_eq, h.index_eq]

theorem reads_execute (x : Instruction) (jumps : JumpTable) (index : Int) (tape : Tape)
    (port : EndlessPort) :
    (x.execute jumps index tape port).port.reads =
      port.reads + if x = .input then 1 else 0 := by
  rw [Instruction.port_execute]
  cases x with
  | output => simp [Port.write, EndlessPort.write_byte]
  | input => rfl
  | moveRight | moveLeft | increment | decrement | loopOpen | loopClose => rfl

/-- Every input instruction reads a byte of an endless stream. -/
theorem reads_step (m : Machine EndlessPort) :
    m.step.1.port.reads = m.port.reads + if m.Inputs then 1 else 0 := by
  apply step_cases (motive := fun result : Machine EndlessPort × Option Raised =>
    result.1.port.reads = m.port.reads + if m.Inputs then 1 else 0)
  case idle => exact fun hstate => by simp [Inputs, hstate]
  case lost => exact fun _ hfetch => by simp [Inputs, hfetch]
  case goes => exact fun x _ hstate hfetch _ => by simp [Inputs, reads_execute, hstate, hfetch]
  case raises => exact fun x _ hstate hfetch _ _ => by simp [Inputs, reads_execute, hstate, hfetch]

theorem reads_stepTimes (m : Machine EndlessPort) (n : Nat) :
    (m.stepTimes n).port.reads = m.port.reads + m.callsWhere Inputs n := by
  induction n with
  | zero => rfl
  | succ n ih => rw [stepTimes_succ, reads_step, ih, callsWhere_succ, Nat.add_assoc]

/-! ## The input and its stream -/

/-- The machine over an endless stream. -/
def endless (program : Program) (tape : Tape) (byteAt : Nat → UInt8) : Machine EndlessPort :=
  start program (.ofStream byteAt) tape

/-- The machine over an input in memory. -/
def inMemory (program : Program) (tape : Tape) (input : List UInt8) : Machine BufferPort :=
  start program (.ofInput input) tape

variable (program : Program) (tape : Tape)

/-- The end of the input looks like zero bytes without an end. -/
theorem lockstep_inMemory (input : List UInt8) (n : Nat) :
    Lockstep (.ofPorts (ShowsInput input))
      ((endless program tape (padded input)).stepTimes n)
      ((inMemory program tape input).stepTimes n) := by
  induction n with
  | zero => exact lockstep_start program ⟨rfl, .ofInput input⟩
  | succ n ih =>
      rw [stepTimes_succ, stepTimes_succ]
      obtain ⟨_, hport⟩ := ih.related
      exact (ih.step_of_ports (fun _ _ => hport.read) fun _ _ byte => hport.write byte).1

theorem callsWhere_inMemory (input : List UInt8) (n : Nat) :
    (inMemory program tape input).callsWhere Inputs n =
      (endless program tape (padded input)).callsWhere Inputs n := by
  induction n with
  | zero => rfl
  | succ n ih =>
      rw [callsWhere_succ, callsWhere_succ, ih]
      simp only [(lockstep_inMemory program tape input n).inputs_iff]

/-! ## Two streams -/

/-- The endless ports have come equally far in their streams and have written the same. -/
def EquallyFar (byteAt byteAt' : Nat → UInt8) (port port' : EndlessPort) : Prop :=
  port.byteAt = byteAt ∧ port'.byteAt = byteAt' ∧ port'.reads = port.reads ∧
    port'.output = port.output

theorem lockstep_endless {byteAt byteAt' : Nat → UInt8} {n : Nat}
    (h : ∀ place < (endless program tape byteAt).callsWhere Inputs n,
      byteAt place = byteAt' place) :
    Lockstep (.ofPorts (EquallyFar byteAt byteAt'))
      ((endless program tape byteAt).stepTimes n)
      ((endless program tape byteAt').stepTimes n) := by
  induction n with
  | zero => exact lockstep_start program ⟨rfl, rfl, rfl, rfl, rfl⟩
  | succ n ih =>
      have hbefore := callsWhere_mono Inputs (endless program tape byteAt) (Nat.le_succ n)
      have hlockstep := ih fun place hplace => h place (Nat.lt_of_lt_of_le hplace hbefore)
      have hreads := reads_stepTimes (endless program tape byteAt) n
      rw [stepTimes_succ, stepTimes_succ]
      obtain ⟨_, hfirst, hsecond, hequal, houtput⟩ := hlockstep.related
      refine (hlockstep.step_of_ports (fun hstate hfetch => ⟨?_, ?_⟩) fun _ _ byte => ?_).1
      · -- the byte that is read now is one of those on which the streams agree
        have hcount : (endless program tape byteAt).callsWhere Inputs (n + 1) =
            (endless program tape byteAt).callsWhere Inputs n + 1 := by
          rw [callsWhere_succ, if_pos ⟨hstate, hfetch⟩]
        rw [EndlessPort.nextCell_eq, EndlessPort.nextCell_eq, hfirst, hsecond, hequal]
        refine congrArg _ (h _ ?_).symm
        rw [hreads, hcount]
        exact Nat.lt_succ_of_le (Nat.le_of_eq (Nat.zero_add _))
      · exact ⟨hfirst, hsecond, congrArg (· + 1) hequal, houtput⟩
      · simp only [Port.write, EndlessPort.write_byte]
        exact ⟨trivial, hfirst, hsecond, hequal, congrArg (Array.push · byte) houtput⟩

/-! ## Two inputs -/

/-- The machines are the same but for the input that is left and the number of bytes read. -/
def SameButInput : Likeness BufferPort BufferPort :=
  .ofPorts fun port port' => port'.output = port.output

theorem reads_inMemory (input : List UInt8) (n : Nat) :
    ((inMemory program tape input).stepTimes n).port.reads =
      min ((inMemory program tape input).callsWhere Inputs n) input.length := by
  obtain ⟨_, hport⟩ := (lockstep_inMemory program tape input n).related
  rw [hport.reads_eq, reads_stepTimes, callsWhere_inMemory]
  simp [endless, start, EndlessPort.ofStream]

/-- Machines over inputs that agree on the bytes asked for do the same, and ask equally often. -/
theorem lockstep_inputs {input input' : List UInt8} {n : Nat}
    (h : AgreeBelow ((inMemory program tape input).callsWhere Inputs n) input input') :
    Lockstep SameButInput ((inMemory program tape input).stepTimes n)
        ((inMemory program tape input').stepTimes n) ∧
      (inMemory program tape input').callsWhere Inputs n =
        (inMemory program tape input).callsWhere Inputs n := by
  rw [callsWhere_inMemory] at h
  have hfirst := lockstep_inMemory program tape input n
  have hsecond := lockstep_inMemory program tape input' n
  have hstreams := lockstep_endless program tape h
  obtain ⟨htape, hport⟩ := hfirst.related
  obtain ⟨htape', hport'⟩ := hsecond.related
  obtain ⟨htapes, _, _, hequal, houtput⟩ := hstreams.related
  constructor
  · refine ⟨?_, ?_, ?_, ?_, ?_, ?_⟩
    · rw [hsecond.program_eq, hstreams.program_eq, hfirst.program_eq]
    · rw [hsecond.index_eq, hstreams.index_eq, hfirst.index_eq]
    · rw [hsecond.steps_eq, hstreams.steps_eq, hfirst.steps_eq]
    · rw [hsecond.fault_eq, hstreams.fault_eq, hfirst.fault_eq]
    · rw [htape', htapes, htape]
    · exact hport'.output_eq.trans (houtput.trans hport.output_eq.symm)
  · rw [reads_stepTimes, reads_stepTimes] at hequal
    rw [callsWhere_inMemory, callsWhere_inMemory]
    exact Nat.add_left_cancel hequal

/-! ## Runs -/

theorem Lockstep.verdict_eq {P : BufferPort → BufferPort → Prop} {m m' : Machine BufferPort}
    (h : Lockstep (.ofPorts P) m m') : m'.verdict = m.verdict := by
  obtain ⟨htape, _⟩ := h.related
  have hresult := h.result_eq (congrArg Tape.cells htape) (congrArg Tape.pointer htape)
  rw [verdict, verdict, h.fault_eq, h.state_eq, hresult]

variable {program}

/-- What a run over an input comes to after a number of calls of step. -/
def verdictAfter (fuel : Nat) (m : Machine BufferPort) : Verdict :=
  if fuel = 0 then .unfinished else m.verdict

/-- A run over an input is as many calls of step. -/
theorem runFor_inMemory (hprogram : program.jumps.Resolves program.instructions)
    (input : List UInt8) (fuel : Nat) :
    (inMemory program tape input).runFor fuel =
      ((inMemory program tape input).stepTimes fuel,
        ((inMemory program tape input).stepTimes fuel).verdictAfter fuel) := by
  cases fuel with
  | zero => rfl
  | succ fuel =>
      have hwithin := within_start program (BufferPort.ofInput input) tape
      rw [verdictAfter, if_neg (Nat.succ_ne_zero fuel), ← run_of_fault_eq_none rfl]
      exact hwithin.run_eq hprogram BufferPort.not_raises_foreign fuel

end Machine

namespace Interpreter

open Machine (inMemory Inputs)

/-- The runs end alike, with the same records, and have written the same. -/
structure EndsAlike (run run' : Run BufferPort) : Prop where
  ending_eq : run'.ending = run.ending
  records_eq : run'.records = run.records
  output_eq : run'.port.output = run.port.output

section Compiled

variable {source : String} {program : Program} {settings : Settings} {tape : Tape}
  (hcompile : Program.compile source = .ok program) (htape : settings.newTape = some tape)
  {input input' : List UInt8} {fuel : Nat}

include hcompile htape

theorem runBytes_of_compile (input : List UInt8) (fuel : Nat) :
    let m := inMemory program tape input
    let verdict := (m.stepTimes fuel).verdictAfter fuel
    runBytes fuel source input settings = ⟨(m.stepTimes fuel).port,
      [.compiled program] ++ m.runRecords (m.stepTimes fuel) verdict, .ofVerdict verdict⟩ := by
  have hprogram := Program.resolves_of_compile hcompile
  have hrun := Machine.runFor_inMemory tape hprogram input fuel
  simp only [inMemory] at hrun ⊢
  rw [runBytes, run_of_compile hcompile htape]
  simp only [hrun]

theorem reads_runBytes (input : List UInt8) (fuel : Nat) :
    (runBytes fuel source input settings).port.reads =
      min ((inMemory program tape input).callsWhere Inputs fuel) input.length := by
  rw [runBytes_of_compile hcompile htape]
  exact Machine.reads_inMemory program tape input fuel

/-- Runs over inputs that agree on the bytes asked for end alike. -/
theorem endsAlike_of_agree
    (h : AgreeBelow ((inMemory program tape input).callsWhere Inputs fuel) input input') :
    EndsAlike (runBytes fuel source input settings) (runBytes fuel source input' settings) := by
  obtain ⟨hlockstep, _⟩ := Machine.lockstep_inputs program tape h
  have hstart : Machine.Lockstep Machine.SameButInput (inMemory program tape input)
      (inMemory program tape input') := Machine.lockstep_start program ⟨rfl, rfl⟩
  rw [runBytes_of_compile hcompile htape, runBytes_of_compile hcompile htape]
  obtain ⟨htape, houtput⟩ := hlockstep.related
  have hrecords := hstart.runRecords_eq hlockstep (congrArg Tape.size htape)
  simp only [Machine.verdictAfter, hlockstep.verdict_eq, hrecords]
  exact ⟨rfl, rfl, houtput⟩

end Compiled

/-! ## Compiled programs -/

/-- The end of an input is an endless stream of zero bytes, and input that is not asked for
does not matter. -/
structure EndsInZeros (source : String) (program : Program) (settings : Settings)
    (tape : Tape) : Prop where
  /-- A machine does the same over an input and over the endless stream. -/
  endless : ∀ input n, Machine.Lockstep (.ofPorts (ShowsInput input))
    ((Machine.endless program tape (padded input)).stepTimes n)
    ((inMemory program tape input).stepTimes n)
  /-- Machines over two inputs are alike as long as the inputs agree on what is asked for. -/
  alike : ∀ input input' n, let asked := (inMemory program tape input).callsWhere Inputs n
    let m := (inMemory program tape input).stepTimes n
    let m' := (inMemory program tape input').stepTimes n
    AgreeBelow asked input input' →
      Machine.Lockstep Machine.SameButInput m m' ∧ m'.state = m.state ∧
        m.port.reads = min asked input.length ∧ m'.port.reads = min asked input'.length
  runs_alike : ∀ input input' fuel,
    AgreeBelow ((inMemory program tape input).callsWhere Inputs fuel) input input' →
      EndsAlike (runBytes fuel source input settings) (runBytes fuel source input' settings)
  append_zeros : ∀ input k fuel, EndsAlike (runBytes fuel source input settings)
    (runBytes fuel source (input ++ List.replicate k 0) settings)
  /-- Bytes that the run does not read may be others. -/
  unread : ∀ input input' fuel, let reads := (runBytes fuel source input settings).port.reads
    input.length = input'.length → input.take reads = input'.take reads →
      EndsAlike (runBytes fuel source input settings) (runBytes fuel source input' settings)

/-- Inputs of compiled programs end in zero bytes, whatever the settings, if they allow a
cell. -/
theorem endsInZeros_of_compile {source : String} {program : Program}
    (h : Program.compile source = .ok program) (settings : Settings)
    (hcells : ∀ bound, settings.maxCells = some bound → 1 ≤ bound) :
    ∃ tape, settings.newTape = some tape ∧ EndsInZeros source program settings tape := by
  obtain ⟨tape, htape⟩ := Settings.exists_newTape hcells
  refine ⟨tape, htape, ⟨?_, ?_, ?_, ?_, ?_⟩⟩
  · intro input n
    exact Machine.lockstep_inMemory program tape input n
  · intro input input' n asked m m' hagree
    obtain ⟨hlockstep, hasked⟩ := Machine.lockstep_inputs program tape hagree
    refine ⟨hlockstep, hlockstep.state_eq, Machine.reads_inMemory program tape input n, ?_⟩
    rw [Machine.reads_inMemory, hasked]
  · intro input input' fuel hagree
    exact endsAlike_of_agree h htape hagree
  · intro input k fuel
    apply endsAlike_of_agree h htape
    intro place _
    rw [padded_append_replicate]
  · intro input input' fuel reads hlength htake
    apply endsAlike_of_agree h htape
    apply agreeBelow_of_take hlength
    rwa [← reads_runBytes h htape]

/-- One of the inputs has ended where the other one still has bytes. -/
theorem endsInZeros_of_compile_echo : ∃ program, Program.compile ",.,." = .ok program ∧
    (∀ bound, ({} : Settings).maxCells = some bound → 1 ≤ bound) ∧
    EndsInZeros ",.,." program {} Tape.single ∧
    EndsAlike (runBytes 4 ",.,." [65] {}) (runBytes 4 ",.,." [65, 0, 7] {}) ∧
    (runBytes 4 ",.,." [65] {}).port.output = #[65, 0] := by
  have hcompile : Program.compile ",.,." = .ok
      ⟨#[.input, .output, .input, .output], ⟨[]⟩⟩ := rfl
  have hcells : ∀ bound, ({} : Settings).maxCells = some bound → 1 ≤ bound := by simp
  obtain ⟨tape, htape, hzeros⟩ := endsInZeros_of_compile hcompile {} hcells
  obtain rfl : Tape.single = tape := Option.some.inj htape
  have halike := hzeros.runs_alike [65] [65, 0, 7] 4 (by unfold AgreeBelow; decide)
  exact ⟨_, hcompile, hcells, hzeros, halike, rfl⟩

end Interpreter

end TapeMachine
