/-
  Ways to run a source text.

  A source text can be run over a port in memory, over streams, over bytes, over a single
  byte and over a text.  Main statement: over the same input all of them come to the same
  result or error and write the same bytes; a text has one character for each byte.  The
  reason is that a run asks a port only for what it gives and takes, so that ports which keep
  to each other in this cannot be told apart.
-/
import TapeMachine.Interpreter
import TapeMachine.Port.Stream
import TapeMachine.Proofs.ExactRuns
import TapeMachine.Proofs.Lockstep

set_option autoImplicit false

namespace TapeMachine

/-! ## Ports that cannot be told apart -/

/-- Related ports give the same cells and take the same bytes, and are related again
afterwards. -/
structure Port.Alike {π π' : Type} [Port π] [Port π'] (P : π → π' → Prop) : Prop where
  read : ∀ port port', P port port' →
    Port.nextCell port' = Port.nextCell port ∧ P (Port.read port).1 (Port.read port').1
  write : ∀ port port', P port port' → ∀ byte : UInt8,
    (Port.write port' byte.toNat).2 = (Port.write port byte.toNat).2 ∧
      P (Port.write port byte.toNat).1 (Port.write port' byte.toNat).1

section Alike

variable {π π' : Type} [Port π] [Port π'] {P : π → π' → Prop}

namespace Machine

variable {m : Machine π} {m' : Machine π'}

theorem Lockstep.step_of_alike (halike : Port.Alike P) (h : Lockstep (.ofPorts P) m m') :
    Lockstep (.ofPorts P) m.step.1 m'.step.1 ∧ m'.step.2 = m.step.2 := by
  obtain ⟨_, hport⟩ := h.related
  apply h.step_of_ports
  · intro _ _
    exact halike.read _ _ hport
  · intro _ _
    exact halike.write _ _ hport

omit [Port π] [Port π'] in
theorem Lockstep.result_eq_of_ports (h : Lockstep (.ofPorts P) m m') : m'.result = m.result := by
  obtain ⟨htape, _⟩ := h.related
  exact h.result_eq (congrArg Tape.cells htape) (congrArg Tape.pointer htape)

/-- Runs over ports that cannot be told apart stay in lockstep and come to the same verdict. -/
theorem Lockstep.runFor_of_alike (halike : Port.Alike P) (h : Lockstep (.ofPorts P) m m')
    (fuel : Nat) :
    Lockstep (.ofPorts P) (m.runFor fuel).1 (m'.runFor fuel).1 ∧
      (m'.runFor fuel).2 = (m.runFor fuel).2 := by
  induction fuel generalizing m m' with
  | zero => exact ⟨h, rfl⟩
  | succ fuel ih =>
      obtain ⟨hafter, hraised⟩ := h.step_of_alike halike
      rw [runFor_succ, runFor_succ, hraised, hafter.state_eq, hafter.result_eq_of_ports]
      cases m.step.2 with
      | some error => exact ⟨hafter, rfl⟩
      | none =>
          by_cases hrunning : m.step.1.state = .running
          · simp only [if_pos hrunning]
            exact ih hafter
          · simp only [if_neg hrunning]
            exact ⟨hafter, trivial⟩

end Machine

namespace Interpreter

/-- The runs end alike, leave the same records, and leave related ports. -/
structure Run.Alike (P : π → π' → Prop) (run : Run π) (run' : Run π') : Prop where
  ending_eq : run'.ending = run.ending
  records_eq : run'.records = run.records
  ports : P run.port run'.port

/-- Runs of a source text over ports that cannot be told apart are alike. -/
theorem run_alike (halike : Port.Alike P) {port : π} {port' : π'} (h : P port port')
    (fuel : Nat) (source : String) (settings : Settings) :
    (run fuel source port settings).Alike P (run fuel source port' settings) := by
  unfold run start
  cases Program.compile source with
  | error fault => exact ⟨rfl, rfl, h⟩
  | ok program =>
      cases settings.newTape with
      | none => exact ⟨rfl, rfl, h⟩
      | some tape =>
          have hstart : Machine.Lockstep (.ofPorts P) (.start program port tape)
              (.start program port' tape) := Machine.lockstep_start program ⟨rfl, h⟩
          obtain ⟨hafter, hverdict⟩ := hstart.runFor_of_alike halike fuel
          obtain ⟨htape, hports⟩ := hafter.related
          have hrecords := hstart.runRecords_eq hafter (congrArg Tape.size htape)
          simp only [Machine.run_of_fault_eq_none (m := Machine.start program port tape) rfl,
            Machine.run_of_fault_eq_none (m := Machine.start program port' tape) rfl]
          rw [hverdict, hrecords]
          exact ⟨rfl, rfl, hports⟩

end Interpreter

end Alike

/-! ## Streams -/

/-- The streams hold what is left of the input and what was written.  Without any input left
there may be no input stream. -/
structure BufferPort.ShownBy (port : BufferPort) (streams : StreamPort) : Prop where
  input : streams.input = some (.opened port.remaining) ∨
    streams.input = none ∧ port.remaining = []
  output_eq : streams.output = some (.opened port.output)

namespace BufferPort.ShownBy

variable {port : BufferPort} {streams : StreamPort}

theorem ofInput (input : Option (List UInt8)) :
    ShownBy (.ofInput (input.getD [])) (.ofInput input) := by
  cases input with
  | none => exact ⟨Or.inr ⟨rfl, rfl⟩, rfl⟩
  | some bytes => exact ⟨Or.inl rfl, rfl⟩

theorem read (h : ShownBy port streams) :
    Port.nextCell streams = Port.nextCell port ∧
      ShownBy (Port.read port).1 (Port.read streams).1 := by
  cases hremaining : port.remaining with
  | nil =>
      have hread : Port.read port = (port, .ok none) := BufferPort.read_nil hremaining
      have hstreams : Port.read streams = (streams, .ok none) := by
        rcases h.input with hopened | ⟨hmissing, _⟩
        · rw [hremaining] at hopened
          simp only [Port.read, StreamPort.read, hopened]
        · simp only [Port.read, StreamPort.read, hmissing]
      rw [Port.nextCell, Port.nextCell, hread, hstreams]
      exact ⟨rfl, h⟩
  | cons byte rest =>
      have hopened : streams.input = some (.opened (byte :: rest)) := by
        rcases h.input with hopened | ⟨_, hempty⟩
        · rw [hopened, hremaining]
        · simp [hempty] at hremaining
      have hread : Port.read port =
          ({ port with remaining := rest, reads := port.reads + 1 }, .ok (some byte.toNat)) :=
        BufferPort.read_cons hremaining
      have hstreams : Port.read streams =
          ({ streams with input := some (.opened rest) }, .ok (some byte.toNat)) := by
        simp only [Port.read, StreamPort.read, hopened]
      rw [Port.nextCell, Port.nextCell, hread, hstreams]
      exact ⟨rfl, Or.inl rfl, h.output_eq⟩

theorem write (h : ShownBy port streams) (byte : UInt8) :
    (Port.write streams byte.toNat).2 = (Port.write port byte.toNat).2 ∧
      ShownBy (Port.write port byte.toNat).1 (Port.write streams byte.toNat).1 := by
  have hwrite : Port.write port byte.toNat =
      ({ port with output := port.output.push byte }, .ok ()) := BufferPort.write_byte port byte
  have hbyte : (byte.toNat : Int) ≤ 255 := by
    have := byte.toNat_lt
    omega
  have hstreams : Port.write streams byte.toNat =
      ({ streams with output := some (.opened (port.output.push byte)) }, .ok ()) := by
    simp [Port.write, StreamPort.write, h.output_eq, hbyte]
  rw [hwrite, hstreams]
  exact ⟨rfl, h.input, rfl⟩

/-- What is written to the streams is what is written to memory. -/
theorem written_eq (h : ShownBy port streams) : streams.written? = some port.output := by
  rw [StreamPort.written?, h.output_eq]

theorem alike : Port.Alike ShownBy :=
  ⟨fun _ _ h => h.read, fun _ _ h => h.write⟩

end BufferPort.ShownBy

/-- A run over streams is the run over their input in memory. -/
theorem Interpreter.run_streams (fuel : Nat) (source : String) (input : Option (List UInt8))
    (settings : Settings) :
    (runBytes fuel source (input.getD []) settings).Alike BufferPort.ShownBy
      (run fuel source (StreamPort.ofInput input) settings) :=
  run_alike BufferPort.ShownBy.alike (.ofInput input) fuel source settings

/-! ## Texts of bytes -/

namespace Encoding.SingleByte

/-- The text has one character for each byte, and its codes are the bytes. -/
def Corresponds (text : List Char) (bytes : List UInt8) : Prop :=
  text.map Char.toNat = bytes.map UInt8.toNat

theorem toNat_ofNat_byte (byte : UInt8) : (Char.ofNat byte.toNat).toNat = byte.toNat := by
  have hvalid : byte.toNat.isValidChar := Or.inl (Nat.lt_trans byte.toNat_lt (by decide))
  rw [Char.ofNat, dif_pos hvalid]
  rfl

theorem corresponds_decodeLatin1 (bytes : List UInt8) : Corresponds (decodeLatin1 bytes) bytes := by
  simp only [Corresponds, decodeLatin1, List.map_map]
  exact List.map_congr_left fun byte _ => toNat_ofNat_byte byte

theorem encodeLatin1From_of_corresponds {text : List Char} {bytes : List UInt8}
    (h : Corresponds text bytes) (done : List UInt8) (position : Nat) :
    encodeLatin1From done position text = .ok (done.reverse ++ bytes) := by
  induction text generalizing bytes done position with
  | nil =>
      cases bytes with
      | nil => simp [encodeLatin1From]
      | cons byte rest => simp [Corresponds] at h
  | cons c text ih =>
      cases bytes with
      | nil => simp [Corresponds] at h
      | cons byte rest =>
          simp only [Corresponds, List.map_cons, List.cons.injEq] at h
          obtain ⟨hc, hrest⟩ := h
          rw [encodeLatin1From, hc, if_pos byte.toNat_lt, ih hrest, UInt8.ofNat_toNat]
          simp

/-- A text of bytes is encoded as these bytes. -/
theorem encodeLatin1_of_corresponds {text : List Char} {bytes : List UInt8}
    (h : Corresponds text bytes) : encodeLatin1 text = .ok bytes :=
  encodeLatin1From_of_corresponds h [] 0

end Encoding.SingleByte

open Encoding.SingleByte (Corresponds)

namespace TextInterpreter

/-- What a run of text gives and leaves behind is what the run over its bytes comes to: the
output as a text, also in front of a failure, and the result or the error. -/
structure Returns (run : Interpreter.Run BufferPort)
    (answer : TextInterpreter × Except Failure String) : Prop where
  ok_of_halted : ∀ result, run.ending = .halted result →
    ∃ text, answer.2 = .ok text ∧ text.toList = answer.1.output ∧
      answer.1.lastResult = some result
  error_of_not_halted : (∀ result, run.ending ≠ .halted result) →
    answer.2 = .error (.ending run.ending)
  output : Corresponds answer.1.output run.port.output.toList

theorem run_of_corresponds (fuel : Nat) (interpreter : TextInterpreter) (source : String)
    {text : String} {bytes : List UInt8} (h : Corresponds text.toList bytes) :
    Returns (Interpreter.runBytes fuel source bytes interpreter.settings)
      (interpreter.run fuel source text) := by
  have hencode := Encoding.SingleByte.encodeLatin1_of_corresponds h
  have houtput := Encoding.SingleByte.corresponds_decodeLatin1
    (Interpreter.runBytes fuel source bytes interpreter.settings).port.output.toList
  unfold run
  rw [hencode]
  cases hending : (Interpreter.runBytes fuel source bytes interpreter.settings).ending with
  | halted result =>
      refine ⟨?_, ?_, ?_⟩
      · intro result' hresult
        rw [hending] at hresult
        simp only [hending]
        refine ⟨_, rfl, String.toList_ofList, ?_⟩
        simp only [record, hending, Interpreter.Ending.halted.inj hresult]
      · intro hnone
        exact absurd hending (hnone result)
      · simp only [hending]
        exact houtput
  | raised | limitTooSmall | unfinished =>
      refine ⟨?_, ?_, ?_⟩
      · intro result' hresult
        simp [hending] at hresult
      · intro _
        simp only [hending]
      · simp only [hending]
        exact houtput

end TextInterpreter

/-! ## Single numbers -/

namespace Interpreter

/-- A remainder modulo 256 is a byte. -/
theorem toNat_ofNat_emod (x : Int) :
    ((UInt8.ofNat (x.emod 256).toNat).toNat : Int) = x.fmod 256 := by
  have hnonneg : 0 ≤ x.emod 256 := Int.emod_nonneg x (by decide)
  have hlt : x.emod 256 < 256 := Int.emod_lt_of_pos x (by decide)
  have hbyte : (x.emod 256).toNat < 256 := by omega
  have hfloor : x.fmod 256 = x.emod 256 := Int.fmod_eq_emod_of_nonneg x (by decide)
  rw [UInt8.toNat_ofNat_of_lt' hbyte, hfloor, Int.toNat_of_nonneg hnonneg]

/-- What a run on a single byte is asked for: the first byte of the output, also when the
run ends with a fault.  Whatever else happens is passed on. -/
structure Answer.FirstOf (run : Run BufferPort) (answer : Answer) : Prop where
  value_iff : ∀ first, answer = .value first ↔
    ((∃ result, run.ending = .halted result) ∨ ∃ fault, run.ending = .raised (.fault fault)) ∧
      first = run.port.output[0]?
  raised_iff : ∀ raised, answer = .raised raised ↔
    run.ending = .raised raised ∧ ∀ fault, raised ≠ .fault fault
  limitTooSmall_iff : answer = .limitTooSmall ↔ run.ending = .limitTooSmall
  unfinished_iff : answer = .unfinished ↔ run.ending = .unfinished

theorem runOnce_answers (fuel : Nat) (source : String) (x : Int) (settings : Settings) :
    Answer.FirstOf (runBytes fuel source [UInt8.ofNat (x.emod 256).toNat] settings)
      (runOnce fuel source x settings) := by
  unfold runOnce
  generalize runBytes fuel source [UInt8.ofNat (x.emod 256).toNat] settings = run
  obtain ⟨port, records, ending⟩ := run
  cases ending with
  | raised raised => cases raised <;> constructor <;> simp [eq_comm]
  | halted | limitTooSmall | unfinished => constructor <;> simp [eq_comm]

end Interpreter

/-! ## All ways to run a source text -/

namespace Interpreter

/-- What a run over input bytes comes to, whichever way it is asked for. -/
structure FrontEndsAgree (fuel : Nat) (source : String) (input : List UInt8)
    (settings : Settings) (run : Run BufferPort) : Prop where
  runBytes_eq : runBytes fuel source input settings = run
  /-- Streams that hold the input end alike and hold the same output. -/
  streams : let run' := Interpreter.run fuel source (StreamPort.ofInput (some input)) settings
    run'.ending = run.ending ∧ run'.records = run.records ∧
      run'.port.written? = some run.port.output
  /-- So does the text of the input, whatever was run before. -/
  text : ∀ (interpreter : TextInterpreter) (text : String), interpreter.settings = settings →
    Corresponds text.toList input →
      TextInterpreter.Returns run (interpreter.run fuel source text)
  /-- A new interpreter of texts sets the limit of cells and nothing else. -/
  created : ∀ (maxCells : Option Int) (text : String), settings = { maxCells } →
    Corresponds text.toList input →
      TextInterpreter.Returns run ((TextInterpreter.create maxCells).run fuel source text)

/-- All ways to run a source text over the same input come to the same result or error and
to the same output.  A number is run as the byte it is modulo 256, and the answer is the
first byte written, also in front of a fault. -/
theorem frontEnds_agree (fuel : Nat) (source : String) (settings : Settings) :
    (∀ input, FrontEndsAgree fuel source input settings
      (run fuel source (BufferPort.ofInput input) settings)) ∧
    ∀ x : Int, ∃ byte : UInt8, (byte.toNat : Int) = x.fmod 256 ∧
      Answer.FirstOf (run fuel source (BufferPort.ofInput [byte]) settings)
        (runOnce fuel source x settings) := by
  constructor
  · intro input
    have hstreams := run_streams fuel source (some input) settings
    have htext : ∀ (interpreter : TextInterpreter) (text : String),
        interpreter.settings = settings → Corresponds text.toList input →
          TextInterpreter.Returns (run fuel source (BufferPort.ofInput input) settings)
            (interpreter.run fuel source text) := by
      intro interpreter text hsettings h
      have hreturns := TextInterpreter.run_of_corresponds fuel interpreter source h
      rwa [hsettings] at hreturns
    constructor
    · rfl
    · exact ⟨hstreams.ending_eq, hstreams.records_eq, hstreams.ports.written_eq⟩
    · exact htext
    · intro maxCells text hsettings h
      exact htext _ text hsettings.symm h
  · intro x
    exact ⟨_, toNat_ofNat_emod x, runOnce_answers fuel source x settings⟩

end Interpreter

end TapeMachine
