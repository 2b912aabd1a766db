/-
  What the command leaves behind.

  Main statement: once arguments are accepted, and settings, program and input are loaded,
  the command writes what the interpreter writes.  It ends with 0 exactly when the program
  halts and with 1 exactly when there is a fault, which is then the last line on standard
  error.
-/
import TapeMachine.Command
import TapeMachine.Proofs.Driving
import TapeMachine.Proofs.FrontEnds
import TapeMachine.Proofs.Unbalanced
import TapeMachine.Proofs.ValidSettings

set_option autoImplicit false

namespace TapeMachine

/-! ## Endings of runs -/

/-- Under valid settings a run over a port without errors of its own halts, meets a fault or
goes on. -/
theorem Interpreter.ending_of_valid {π : Type} [Port π]
    (hforeign : ∀ (port : π) error, ¬ Port.Raises port (.foreign error))
    {settings : Settings} (h : settings.Valid) (fuel : Nat) (source : String) (port : π) :
    (∃ result, (run fuel source port settings).ending = .halted result) ∨
      (∃ fault, (run fuel source port settings).ending = .raised (.fault fault)) ∨
        (run fuel source port settings).ending = .unfinished := by
  cases hcompile : Program.compile source with
  | error fault =>
      rw [run_of_compile_error hcompile]
      exact Or.inr (Or.inl ⟨fault, rfl⟩)
  | ok program =>
      obtain ⟨tape, htape⟩ := h.exists_newTape
      have hending : (run fuel source port settings).ending =
          .ofVerdict ((Machine.start program port tape).runFor fuel).2 := by
        rw [run_of_compile hcompile htape fuel port]
      rw [hending]
      cases hverdict : ((Machine.start program port tape).runFor fuel).2 with
      | halted result => exact Or.inl ⟨result, rfl⟩
      | unfinished => exact Or.inr (Or.inr rfl)
      | raised error =>
          have hrun : (Machine.start program port tape).run fuel = (_, .raised error) :=
            (Machine.run_of_fault_eq_none rfl fuel).trans (Prod.ext rfl hverdict)
          have hafter := (Machine.within_start program port tape).verdict_of_ended
            (Program.resolves_of_compile hcompile) hforeign hrun (by simp)
          obtain ⟨fault, rfl, _⟩ := Machine.exists_fault_of_verdict hafter
          exact Or.inr (Or.inl ⟨fault, rfl⟩)

/-! ## Lines -/

/-- The text is made of whole lines. -/
def WholeLines (text : String) : Prop :=
  text = "" ∨ ∃ front, text = front ++ "\n"

namespace WholeLines

theorem empty : WholeLines "" :=
  Or.inl rfl

theorem line (front : String) : WholeLines (front ++ "\n") :=
  Or.inr ⟨front, rfl⟩

theorem append {first second : String} (hfirst : WholeLines first) (hsecond : WholeLines second) :
    WholeLines (first ++ second) := by
  rcases hsecond with rfl | ⟨front, rfl⟩
  · rwa [String.append_empty]
  · rw [← String.append_assoc]
    exact line _

theorem emit (console : Console) (logger : String) (level : Int) (message : String) :
    WholeLines (console.emit logger level message) := by
  unfold Console.emit
  dsimp only
  split
  · split
    · exact line _
    · split
      · exact line _
      · exact empty
  · exact empty

theorem emitAll (console : Console) (records : List Record) :
    WholeLines (console.emitAll records) := by
  unfold Console.emitAll
  induction records with
  | nil => exact empty
  | cons record rest ih =>
      rw [List.map_cons, String.join_cons]
      exact (emit console _ _ _).append ih

end WholeLines

/-! ## Reports -/

namespace Command

open CommandLine (Arguments)

/-- A report of an ending: whole lines of the log, and behind them the line for the failure
when there is one. -/
structure Report.Tells (report : Report) (output : Array UInt8) (ending : Ending) : Prop where
  output_eq : report.output = output
  ending_eq : report.ending = ending
  diagnostics_eq : ∃ log, WholeLines log ∧
    report.diagnostics = log ++ ending.failureLine?.getD ""

theorem Report.tells_early {log : String} (h : WholeLines log) (ending : Ending) :
    (early log ending).Tells #[] ending :=
  ⟨rfl, rfl, log, h, rfl⟩

/-- The ending of the command when its program runs to an ending. -/
def Ending.ofRun : Interpreter.Ending → Ending
  | .halted result => .halted result
  | .raised error => .raised error
  | .limitTooSmall => .limitTooSmall
  | .unfinished => .unfinished

theorem Ending.ofRun_ofVerdict (verdict : Verdict) :
    ofRun (.ofVerdict verdict) = Ready.ending verdict := by
  cases verdict with
  | halted | raised | unfinished => rfl

/-- Of what a run comes to, a result and a fault have exit codes. -/
theorem Ending.exitCode?_ofRun (ending : Interpreter.Ending) :
    (ofRun ending).exitCode? =
      match ending with
      | .halted _ => some 0
      | .raised (.fault _) => some 1
      | _ => none := by
  cases ending with
  | halted | limitTooSmall | unfinished => rfl
  | raised error =>
      cases error with
      | fault | noTarget | noInstruction | foreign => rfl

/-- The command ends with 0 exactly when its program halts. -/
theorem Ending.exitCode?_ofRun_eq_zero_iff (ending : Interpreter.Ending) :
    (ofRun ending).exitCode? = some 0 ↔ ∃ result, ending = .halted result := by
  rw [exitCode?_ofRun]
  split <;> simp_all

/-- The command ends with 1 exactly when there is a fault. -/
theorem Ending.exitCode?_ofRun_eq_one_iff (ending : Interpreter.Ending) :
    (ofRun ending).exitCode? = some 1 ↔ ∃ fault, ending = .raised (.fault fault) := by
  rw [exitCode?_ofRun]
  split <;> simp_all

theorem Ready.tells_finish (ready : Ready) (h : WholeLines ready.diagnostics)
    (after : Machine StreamPort) (verdict : Verdict) :
    (ready.finish after verdict).Tells (after.port.written?.getD #[])
      (.ofRun (.ofVerdict verdict)) := by
  unfold finish
  rw [Ending.ofRun_ofVerdict]
  exact ⟨rfl, rfl, _, h.append (.emitAll ready.console _), rfl⟩

/-- The last part of the command: a program that is loaded is made ready and run. -/
def launch (fuel : Nat) (console : Console) (log source : String) (bytes : Option (List UInt8))
    (settings : Settings) : Report :=
  match ready console log source bytes settings with
  | .error report => report
  | .ok ready => ready.finish (ready.machine.run fuel).1 (ready.machine.run fuel).2

/-- The report tells what the run of the program over its input comes to. -/
theorem tells_launch (fuel : Nat) (console : Console) {log : String} (h : WholeLines log)
    (source : String) (bytes : Option (List UInt8)) (settings : Settings) :
    let run := Interpreter.runBytes fuel source (bytes.getD []) settings
    (launch fuel console log source bytes settings).Tells run.port.output (.ofRun run.ending) := by
  intro run
  have halike := Interpreter.run_streams fuel source bytes settings
  have hwritten := halike.ports.written_eq
  suffices htells : (launch fuel console log source bytes settings).Tells
      ((Interpreter.run fuel source (StreamPort.ofInput bytes) settings).port.written?.getD #[])
      (.ofRun (Interpreter.run fuel source (StreamPort.ofInput bytes) settings).ending) by
    rwa [hwritten, halike.ending_eq] at htells
  unfold launch ready Interpreter.run
  cases Interpreter.start source (StreamPort.ofInput bytes) settings with
  | mk records started =>
      have hlog := h.append (.emitAll console records)
      cases started with
      | ok machine => exact Ready.tells_finish ⟨console, _, machine⟩ hlog _ _
      | error error =>
          cases error with
          | fault fault => exact Report.tells_early hlog _
          | limitTooSmall => exact Report.tells_early hlog _

/-! ## The parts of the command -/

section Loading

variable {host : Host} {argv : List Text.Codes} {arguments : Arguments} {settings : Settings}

/-- The command line is accepted, and the settings are loaded that it asks for. -/
structure Accepts (host : Host) (argv : List Text.Codes) (arguments : Arguments)
    (settings : Settings) : Prop where
  arguments_eq : Arguments.ofList argv = .ok arguments
  settings_eq : (Settings.load host arguments.config none (overrides arguments)).2 = .ok settings

theorem Accepts.valid (h : Accepts host argv arguments settings) : settings.Valid :=
  Settings.valid_of_load h.settings_eq

/-- What loading the settings writes to standard error. -/
def settingsLog (console : Console) (host : Host) (arguments : Arguments) : String :=
  console.emitAll (Settings.load host arguments.config none (overrides arguments)).1

theorem wholeLines_settingsLog (console : Console) (host : Host) (arguments : Arguments) :
    WholeLines (settingsLog console host arguments) :=
  .emitAll console _

/-- With its settings loaded, the command loads the program and its input and launches it. -/
theorem Accepts.run_eq (h : Accepts host argv arguments settings) (fuel : Nat)
    (console : Console) :
    run fuel console argv host =
      match loadProgram host arguments settings with
      | .error ending => .early (settingsLog console host arguments) ending
      | .ok (source, bytes) =>
          launch fuel (console.configure (.number settings.logLevel.number)).1
            (settingsLog console host arguments) source bytes settings := by
  unfold run prepare
  rw [h.arguments_eq]
  dsimp only
  rw [h.settings_eq]
  dsimp only
  cases loadProgram host arguments settings with
  | error | ok => rfl

/-- The bytes that the program reads: those of the file that the command line names, else
those of the standard input, unless that has served as the program. -/
inductive Reads (host : Host) (arguments : Arguments) : List UInt8 → Prop
  | file {path : Text.Codes} {bytes : List UInt8} (hinput : arguments.input = some (.value path))
      (hfile : host.readFile path = .ok bytes) : Reads host arguments bytes
  | standard (hinput : arguments.input = none)
      (hprogram : arguments.program ≠ SourceText.inputPath) : Reads host arguments host.input
  | nothing (hinput : arguments.input = none)
      (hprogram : arguments.program = SourceText.inputPath) : Reads host arguments []

theorem Reads.exists_programInput {bytes : List UInt8} (h : Reads host arguments bytes) :
    ∃ input, programInput host arguments = .ok input ∧ input.getD [] = bytes := by
  unfold programInput
  cases h with
  | file hinput hfile =>
      rw [hinput]
      simp [hfile]
  | standard hinput hprogram =>
      rw [hinput]
      simp [hprogram]
  | nothing hinput hprogram =>
      rw [hinput]
      simp [hprogram]

/-- What the command reports when its program and the input of it are loaded. -/
theorem Accepts.tells_of_loaded (h : Accepts host argv arguments settings) {source : String}
    (hsource : SourceText.load host arguments.program settings.encoding = .ok source)
    {bytes : List UInt8} (hreads : Reads host arguments bytes) (fuel : Nat) (console : Console) :
    let run := Interpreter.runBytes fuel source bytes settings
    (Command.run fuel console argv host).Tells run.port.output (.ofRun run.ending) := by
  obtain ⟨input, hinput, rfl⟩ := hreads.exists_programInput
  have hload : loadProgram host arguments settings = .ok (source, input) := by
    unfold loadProgram
    rw [hsource, hinput]
    rfl
  rw [h.run_eq, hload]
  exact tells_launch fuel _ (wholeLines_settingsLog console host arguments) source input settings

/-! ## Running the command -/

/-- The command does what the run does. -/
structure RunsAs (report : Report) (run : Interpreter.Run BufferPort) : Prop where
  output_eq : report.output = run.port.output
  /-- The run has ended well or with a fault. -/
  ended : (∃ result, run.ending = .halted result) ∨ ∃ fault, run.ending = .raised (.fault fault)
  exit_zero_iff : report.ending.exitCode? = some 0 ↔ ∃ result, run.ending = .halted result
  exit_one_iff : report.ending.exitCode? = some 1 ↔ ∃ fault, run.ending = .raised (.fault fault)
  /-- A fault is the last line on standard error. -/
  reported : ∀ fault, run.ending = .raised (.fault fault) →
    ∃ log, WholeLines log ∧ report.diagnostics = log ++ s!"error: {fault.message}\n"

/-- A command whose program and input are loaded does what the interpreter does, as soon as
the run ends. -/
theorem runsAs_of_loaded (h : Accepts host argv arguments settings) {source : String}
    (hsource : SourceText.load host arguments.program settings.encoding = .ok source)
    {bytes : List UInt8} (hreads : Reads host arguments bytes) (fuel : Nat) (console : Console)
    (hended : (Interpreter.runBytes fuel source bytes settings).ending ≠ .unfinished) :
    RunsAs (run fuel console argv host) (Interpreter.runBytes fuel source bytes settings) := by
  obtain ⟨houtput, hending, log, hlog, hdiagnostics⟩ :=
    h.tells_of_loaded hsource hreads fuel console
  have hcases := Interpreter.ending_of_valid BufferPort.not_raises_foreign h.valid fuel source
    (BufferPort.ofInput bytes)
  constructor
  · exact houtput
  · rcases hcases with hhalted | hfault | hunfinished
    · exact Or.inl hhalted
    · exact Or.inr hfault
    · exact absurd hunfinished hended
  · rw [hending]
    exact Ending.exitCode?_ofRun_eq_zero_iff _
  · rw [hending]
    exact Ending.exitCode?_ofRun_eq_one_iff _
  · intro fault hfault
    rw [hfault] at hdiagnostics
    exact ⟨log, hlog, hdiagnostics⟩

end Loading

/-- The byte of the input is written, and then the pointer leaves the tape.  The name of the
input is no text. -/
theorem runsAs_of_loaded_underflow :
    let path : Text.Codes := .ofString "echo.bf"
    let input : Text.Codes := [.half 0xDCFF rfl]
    let host : Host := { readFile := fun asked =>
      if asked = path then .ok [0x2C, 0x2E, 0x3C] else .ok [0x41] }
    let argv := [path, .ofString "--input", input]
    let run' := Interpreter.runBytes 9 ",.<" [0x41] {}
    ∃ arguments, Accepts host argv arguments {} ∧
      SourceText.load host arguments.program (.ofString "utf-8") = .ok ",.<" ∧
      Reads host arguments [0x41] ∧ run'.ending = .raised (.fault (.underflow (some 2))) ∧
      RunsAs (run 9 {} argv host) run' ∧ (run 9 {} argv host).output = #[0x41] ∧
      (run 9 {} argv host).ending.exitCode? = some 1 := by
  intro path input host argv run'
  have haccepts : Accepts host argv { program := path, input := some (.value input) } {} :=
    ⟨rfl, rfl⟩
  have hname : Encoding.ofName "utf-8" = .encoding .utf8 := by decide +kernel
  have hencoding : SourceText.encodingOf "utf-8" .file = .ok .utf8 := by
    rw [SourceText.encodingOf, hname]
  have hsource : SourceText.load host path (.ofString "utf-8") = .ok ",.<" := by
    rw [SourceText.load_ofString]
    have hfile : SourceText.ofFile .ascii [0x2C, 0x2E, 0x3C] "utf-8" = .ok [',', '.', '<'] := by
      unfold SourceText.ofFile
      rw [if_neg (by decide), hencoding]
      rfl
    change String.ofList <$> SourceText.ofFile .ascii [0x2C, 0x2E, 0x3C] "utf-8" = .ok ",.<"
    rw [hfile]
    rfl
  have hreads : Reads host { program := path, input := some (.value input) } [0x41] :=
    .file rfl rfl
  have hending : run'.ending = .raised (.fault (.underflow (some 2))) := rfl
  have hruns := runsAs_of_loaded haccepts hsource hreads 9 {} (by
    rw [hending]
    simp)
  exact ⟨_, haccepts, hsource, hreads, hending, hruns, hruns.output_eq,
    hruns.exit_one_iff.2 ⟨_, hending⟩⟩

end Command

end TapeMachine
