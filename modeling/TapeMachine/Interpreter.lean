/-
  Interpreting source text.

  A run compiles a source text, makes a tape and lets a machine run.  The text
  interpreter offers the same to callers that work with text: characters and bytes
  correspond one to one through Latin-1.
-/
import TapeMachine.Encoding.SingleByte
import TapeMachine.Journal
import TapeMachine.Port.Buffer
import TapeMachine.Settings

set_option autoImplicit false

namespace TapeMachine

/-! ## Starting -/

/-- Why a machine cannot be started. -/
inductive StartError where
  /-- The source text has a fault. -/
  | fault (fault : Fault)
  /-- The settings allow no cell. -/
  | limitTooSmall
  deriving DecidableEq, Repr, Inhabited

namespace Interpreter

variable {π : Type} [Port π]

/-- Compiles a source text and puts a machine in front of it, with the records of
that. -/
def start (source : String) (port : π) (settings : Settings) :
    List Record × Except StartError (Machine π) :=
  let compiled := Program.compile source
  let records := Program.compileRecords compiled
  match compiled with
  | .error fault => (records, .error (.fault fault))
  | .ok program =>
      match settings.newTape with
      | none => (records, .error .limitTooSmall)
      | some tape => (records, .ok (Machine.start program port tape))

/-! ## Running -/

/-- How a run of a source text ends. -/
inductive Ending where
  /-- The program ended. -/
  | halted (result : RunResult)
  /-- Something was raised. -/
  | raised (raised : Raised)
  /-- The settings allow no cell. -/
  | limitTooSmall
  /-- The run is not over after the steps allowed. -/
  | unfinished
  deriving DecidableEq, Repr, Inhabited

/-- A run of a source text: the port afterwards, the records and the ending. -/
structure Run (π : Type) where
  port : π
  records : List Record
  ending : Ending

/-- The ending of a run whose machine came to a verdict. -/
def Ending.ofVerdict : Verdict → Ending
  | .halted result => .halted result
  | .raised error => .raised error
  | .unfinished => .unfinished

/-- Runs a source text against a port for at most `fuel` steps. -/
def run (fuel : Nat) (source : String) (port : π) (settings : Settings) : Run π :=
  match start source port settings with
  | (records, .error (.fault fault)) => ⟨port, records, .raised (.fault fault)⟩
  | (records, .error .limitTooSmall) => ⟨port, records, .limitTooSmall⟩
  | (records, .ok machine) =>
      let (after, verdict) := machine.run fuel
      ⟨after.port, records ++ machine.runRecords after verdict, .ofVerdict verdict⟩

theorem run_of_compile {source : String} {program : Program} {settings : Settings} {tape : Tape}
    (hcompile : Program.compile source = .ok program) (htape : settings.newTape = some tape)
    (fuel : Nat) (port : π) :
    run fuel source port settings =
      let machine := Machine.start program port tape
      let result := machine.runFor fuel
      ⟨result.1.port, [.compiled program] ++ machine.runRecords result.1 result.2,
        .ofVerdict result.2⟩ := by
  rw [run, start, hcompile, htape]
  rfl

/-- Runs a source text over input bytes; the output is in the port of the run. -/
def runBytes (fuel : Nat) (source : String) (input : List UInt8) (settings : Settings) :
    Run BufferPort :=
  run fuel source (BufferPort.ofInput input) settings

/-- How a run on a single byte ends. -/
inductive Answer where
  /-- The first byte of the output; none when nothing was written. -/
  | value (byte : Option UInt8)
  /-- The settings allow no cell. -/
  | limitTooSmall
  /-- Something other than a fault was raised. -/
  | raised (raised : Raised)
  /-- The run is not over after the steps allowed. -/
  | unfinished
  deriving DecidableEq, Repr, Inhabited

/-- Runs a source text on a single input byte, the given number modulo 256, and gives
the first byte of the output.  A run that ends with a fault still gives what it wrote
before. -/
def runOnce (fuel : Nat) (source : String) (x : Int) (settings : Settings) : Answer :=
  let run := runBytes fuel source [UInt8.ofNat (x.emod 256).toNat] settings
  match run.ending with
  | .halted _ => .value run.port.output[0]?
  | .raised (.fault _) => .value run.port.output[0]?
  | .raised error => .raised error
  | .limitTooSmall => .limitTooSmall
  | .unfinished => .unfinished

end Interpreter

/-! ## Text in, text out -/

/-- An interpreter for text, with what its last run left behind. -/
structure TextInterpreter where
  settings : Settings
  output : List Char
  inputReads : Nat
  outputWrites : Nat
  lastResult : Option RunResult
  deriving Repr, Inhabited

namespace TextInterpreter

/-- What a run of text may give instead of a text. -/
inductive Failure where
  /-- The input has characters that are no bytes. -/
  | encoding (error : Encoding.EncodeError)
  /-- The run ended without a result. -/
  | ending (ending : Interpreter.Ending)
  deriving Repr, Inhabited

/-- An interpreter whose tape has at most the given number of cells. -/
def create (maxCells : Option Int) : TextInterpreter :=
  ⟨{ maxCells }, [], 0, 0, none⟩

/-- The interpreter after a run over a port. -/
def record (interpreter : TextInterpreter) (run : Interpreter.Run BufferPort) : TextInterpreter :=
  { interpreter with
    output := Encoding.SingleByte.decodeLatin1 run.port.output.toList
    inputReads := run.port.reads
    outputWrites := run.port.writes
    lastResult :=
      match run.ending with
      | .halted result => some result
      | _ => interpreter.lastResult }

/-- Runs a source text over an input text and gives the output as text.  The output
before a failure is kept; an input that is not made of bytes changes nothing. -/
def run (fuel : Nat) (interpreter : TextInterpreter) (source input : String) :
    TextInterpreter × Except Failure String :=
  match Encoding.SingleByte.encodeLatin1 input.toList with
  | .error error => (interpreter, .error (.encoding error))
  | .ok bytes =>
      let run := Interpreter.runBytes fuel source bytes interpreter.settings
      let after := interpreter.record run
      match run.ending with
      | .halted _ => (after, .ok (String.ofList after.output))
      | ending => (after, .error (.ending ending))

end TextInterpreter

end TapeMachine
