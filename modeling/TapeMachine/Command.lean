/-
  The command.

  The command loads settings and a program as its arguments say, runs the program from
  the input to the output, and reports failures on standard error.  Failures that it
  does not report itself end it as they are.
-/
import TapeMachine.CommandLine.Arguments
import TapeMachine.Console
import TapeMachine.Interpreter
import TapeMachine.Port.Stream
import TapeMachine.Settings.Load
import TapeMachine.SourceText

set_option autoImplicit false

namespace TapeMachine

/-- A run of the command ends after a number of steps. -/
def Record.commandHalted (steps : Nat) : Record :=
  ⟨.info, "bytetape.cli", s!"halted after {steps} steps"⟩

namespace Command

open CommandLine

/-! ## Endings -/

/-- How the command ends. -/
inductive Ending where
  /-- The help text is written. -/
  | help
  /-- The arguments are refused. -/
  | usage (error : UsageError)
  /-- The settings are not loaded. -/
  | settings (error : Settings.LoadError)
  /-- The program is not loaded. -/
  | source (path : Text.Codes) (error : SourceText.LoadError)
  /-- The file that the program should read is not opened. -/
  | input (path : Text.Codes) (error : OpenError)
  /-- The file that the program should read has no name. -/
  | unnamedInput
  /-- The program ended. -/
  | halted (result : RunResult)
  /-- Something was raised while the program was compiled or run. -/
  | raised (raised : Raised)
  /-- The settings allow no cell. -/
  | limitTooSmall
  /-- The run is not over after the steps allowed. -/
  | unfinished
  deriving Repr

namespace Ending

/-- The line that reports a failure; none when the command ends well, has told its usage
or does not report the failure. -/
def failureLine? : Ending → Option String
  | settings (.assign (.refused refusal)) => some s!"error: {refusal.message}\n"
  | settings (.unopened (.system error)) => some s!"error: {error.message}\n"
  | source path (.unopened (.system error)) =>
      some s!"error: cannot read program {path.written}: {error.message}\n"
  | source path (.undecodable (.bytes error) _ _) =>
      some s!"error: cannot read program {path.written}: {error.message}\n"
  | input path (.system error) =>
      some s!"error: cannot open input {path.written}: {error.message}\n"
  | raised (.fault fault) => some s!"error: {fault.message}\n"
  | _ => none

/-- The wording of a file without a name. -/
def unnamedMessage : String := "expected str, bytes or os.PathLike object, not list"

/-- The exit code; none when a failure ends the command as it is. -/
def exitCode? (ending : Ending) : Option Nat :=
  match ending with
  | help => some 0
  | usage _ => some 2
  | halted _ => some 0
  | other => other.failureLine?.map fun _ => 1

end Ending

/-- What a run of the command leaves behind. -/
structure Report where
  /-- What is on standard output. -/
  output : Array UInt8
  /-- What is on standard error. -/
  diagnostics : String
  ending : Ending

namespace Report

/-- The report of a command that ends before its program runs. -/
def early (diagnostics : String) (ending : Ending) : Report :=
  ⟨#[], diagnostics ++ ending.failureLine?.getD "", ending⟩

end Report

/-! ## Preparing -/

/-- A command whose program is about to run. -/
structure Ready where
  console : Console
  /-- What is on standard error so far. -/
  diagnostics : String
  machine : Machine StreamPort

/-- The value of an option as a setting: nothing at all is an empty list. -/
def optionValue {α : Type} (toValue : α → Value) : Option (Given α) → Value
  | none => .null
  | some .nothing => .list []
  | some (.value value) => toValue value

/-- The settings that arguments ask for. -/
def overrides (arguments : Arguments) : List (Value × Value) :=
  [(.text Settings.Field.maxCells.name, optionValue .integer arguments.maxCells),
   (.text Settings.Field.logLevel.name,
     optionValue (fun level => .text level.name) arguments.logLevel)]

/-- The bytes that the program reads; none when the standard input has served as the
program. -/
def programInput (host : Host) (arguments : Arguments) : Except Ending (Option (List UInt8)) :=
  match arguments.input with
  | some .nothing => .error .unnamedInput
  | some (.value path) =>
      match host.readFile path with
      | .ok bytes => .ok (some bytes)
      | .error e => .error (.input path e)
  | none =>
      if arguments.program = SourceText.inputPath then .ok none else .ok (some host.input)

/-- The program and its input under the settings. -/
def loadProgram (host : Host) (arguments : Arguments) (settings : Settings) :
    Except Ending (String × Option (List UInt8)) :=
  match SourceText.load host arguments.program settings.encoding with
  | .error e => .error (.source arguments.program e)
  | .ok source => (programInput host arguments).map fun bytes => (source, bytes)

/-- Compiles a program under the settings and puts a machine in front of it. -/
def ready (console : Console) (diagnostics source : String) (bytes : Option (List UInt8))
    (settings : Settings) : Except Report Ready :=
  match Interpreter.start source (StreamPort.ofInput bytes) settings with
  | (records, .ok machine) => .ok ⟨console, diagnostics ++ console.emitAll records, machine⟩
  | (records, .error (.fault fault)) =>
      .error (.early (diagnostics ++ console.emitAll records) (.raised (.fault fault)))
  | (records, .error .limitTooSmall) =>
      .error (.early (diagnostics ++ console.emitAll records) .limitTooSmall)

/-- All that comes before the run. -/
def prepare (console : Console) (arguments : List Text.Codes) (host : Host) :
    Except Report Ready :=
  match Arguments.ofList arguments with
  | .error .help => .error ⟨helpText.toUTF8.data, "", .help⟩
  | .error (.refused e) => .error ⟨#[], usageFailure e, .usage e⟩
  | .ok arguments =>
      let (records, loaded) := Settings.load host arguments.config none (overrides arguments)
      let diagnostics := console.emitAll records
      match loaded with
      | .error e => .error (.early diagnostics (.settings e))
      | .ok settings =>
          let (console, _) := console.configure (.number settings.logLevel.number)
          match loadProgram host arguments settings with
          | .error ending => .error (.early diagnostics ending)
          | .ok (source, bytes) => ready console diagnostics source bytes settings

/-! ## Running -/

namespace Ready

/-- The ending of a run with the given verdict. -/
def ending (verdict : Verdict) : Ending :=
  match verdict with
  | .halted result => .halted result
  | .raised raised => .raised raised
  | .unfinished => .unfinished

/-- The report of a run that has come to a verdict. -/
def finish (ready : Ready) (after : Machine StreamPort) (verdict : Verdict) : Report :=
  let ended := ending verdict
  let records := ready.machine.runRecords after verdict ++
    match verdict with
    | .halted result => [.commandHalted result.steps]
    | _ => []
  ⟨after.port.written?.getD #[],
    ready.diagnostics ++ ready.console.emitAll records ++ ended.failureLine?.getD "",
    ended⟩

end Ready

/-- Runs the command for at most `fuel` steps of its program. -/
def run (fuel : Nat) (console : Console) (arguments : List Text.Codes) (host : Host) : Report :=
  match prepare console arguments host with
  | .error report => report
  | .ok ready =>
      let (after, verdict) := ready.machine.run fuel
      ready.finish after verdict

end Command

end TapeMachine
