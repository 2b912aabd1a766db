/-
  Programs that cannot be read.

  Main statement: the command reports a program whose file the system does not open or whose
  bytes its encoding refuses, and ends with 1.  Every other failure to load a program ends the
  command as it is: a name of no text encoding, a half of a pair or a null character in a
  name, a missing byte order mark, a bad domain name.  Besides it, only a file for the input
  whose name is missing or cannot be looked up does so.
-/
import TapeMachine.Proofs.CommandRuns
import TapeMachine.Proofs.SourceFailures

set_option autoImplicit false

namespace TapeMachine

/-! ## What the command reports -/

/-- The failures that the command expects: the system does not open the file, or the bytes are
not the text of the encoding. -/
inductive SourceText.LoadError.Reported : LoadError → Prop
  | unopened (error : SystemError) : Reported (.unopened (.system error))
  | undecodable (error : Encoding.DecodeError) (name : String) (origin : Encoding.Origin) :
      Reported (.undecodable (.bytes error) name origin)

namespace Command

open CommandLine (Arguments)

namespace Ending

variable {error : SourceText.LoadError}

theorem failureLine?_of_reported (path : Text.Codes) (h : error.Reported) :
    (source path error).failureLine? =
      some s!"error: cannot read program {path.written}: {error.message}\n" := by
  cases h with
  | unopened | undecodable => rfl

theorem failureLine?_of_not_reported (path : Text.Codes) (h : ¬ error.Reported) :
    (source path error).failureLine? = none := by
  cases error with
  | brokenName | nullCharacter | unknownEncoding | notTextEncoding | missingMark => rfl
  | unopened error =>
      cases error with
      | system error => exact absurd (.unopened error) h
      | nullCharacter | brokenPath => rfl
  | undecodable failure name origin =>
      cases failure with
      | bytes error => exact absurd (.undecodable error name origin) h
      | punycode | label | undefined => rfl

theorem exitCode?_source (path : Text.Codes) (error : SourceText.LoadError) :
    (source path error).exitCode? = (source path error).failureLine?.map fun _ => 1 :=
  rfl

end Ending

/-- The file that the command line names for the input has no name that can be looked up. -/
def UnnamedInput (host : Host) (arguments : Arguments) : Prop :=
  arguments.input = some .nothing ∨
    ∃ path error, arguments.input = some (.value path) ∧ host.readFile path = .error error ∧
      ∀ failure, error ≠ .system failure

section Outcomes

variable {host : Host} {argv : List Text.Codes} {arguments : Arguments} {settings : Settings}

theorem Accepts.run_of_unread (h : Accepts host argv arguments settings)
    {error : SourceText.LoadError}
    (hsource : SourceText.load host arguments.program settings.encoding = .error error)
    (fuel : Nat) (console : Console) :
    run fuel console argv host =
      .early (settingsLog console host arguments) (.source arguments.program error) := by
  have hload : loadProgram host arguments settings = .error (.source arguments.program error) := by
    unfold loadProgram
    rw [hsource]
  rw [h.run_eq, hload]

theorem Accepts.run_of_unopened (h : Accepts host argv arguments settings) {source : String}
    (hsource : SourceText.load host arguments.program settings.encoding = .ok source)
    {ending : Ending} (hinput : programInput host arguments = .error ending)
    (fuel : Nat) (console : Console) :
    run fuel console argv host = .early (settingsLog console host arguments) ending := by
  have hload : loadProgram host arguments settings = .error ending := by
    unfold loadProgram
    rw [hsource, hinput]
    rfl
  rw [h.run_eq, hload]

theorem programInput_of_nothing (hinput : arguments.input = some .nothing) :
    programInput host arguments = .error .unnamedInput := by
  unfold programInput
  rw [hinput]

theorem programInput_of_unopened {path : Text.Codes} {error : OpenError}
    (hinput : arguments.input = some (.value path)) (hfile : host.readFile path = .error error) :
    programInput host arguments = .error (.input path error) := by
  unfold programInput
  rw [hinput]
  simp only [hfile]

/-- What the command can come to once its settings are loaded. -/
inductive Outcome (fuel : Nat) (console : Console) (host : Host) (arguments : Arguments)
    (settings : Settings) (report : Report) : Prop
  | unread {error : SourceText.LoadError}
      (hsource : SourceText.load host arguments.program settings.encoding = .error error)
      (hreport : report =
        .early (settingsLog console host arguments) (.source arguments.program error))
  | unnamed {source : String}
      (hsource : SourceText.load host arguments.program settings.encoding = .ok source)
      (hinput : arguments.input = some .nothing)
      (hreport : report = .early (settingsLog console host arguments) .unnamedInput)
  | unopened {source : String} {path : Text.Codes} {error : OpenError}
      (hsource : SourceText.load host arguments.program settings.encoding = .ok source)
      (hinput : arguments.input = some (.value path))
      (hfile : host.readFile path = .error error)
      (hreport : report = .early (settingsLog console host arguments) (.input path error))
  | ran {source : String} {bytes : List UInt8}
      (hsource : SourceText.load host arguments.program settings.encoding = .ok source)
      (hreads : Reads host arguments bytes)
      (hreport : report.Tells (Interpreter.runBytes fuel source bytes settings).port.output
        (.ofRun (Interpreter.runBytes fuel source bytes settings).ending))

theorem Accepts.outcome (h : Accepts host argv arguments settings) (fuel : Nat)
    (console : Console) :
    Outcome fuel console host arguments settings (run fuel console argv host) := by
  cases hsource : SourceText.load host arguments.program settings.encoding with
  | error error => exact .unread hsource (h.run_of_unread hsource fuel console)
  | ok source =>
      cases hinput : arguments.input with
      | none =>
          by_cases hprogram : arguments.program = SourceText.inputPath
          · have hreads : Reads host arguments [] := .nothing hinput hprogram
            exact .ran hsource hreads (h.tells_of_loaded hsource hreads fuel console)
          · have hreads : Reads host arguments host.input := .standard hinput hprogram
            exact .ran hsource hreads (h.tells_of_loaded hsource hreads fuel console)
      | some given =>
          cases given with
          | nothing =>
              exact .unnamed hsource hinput
                (h.run_of_unopened hsource (programInput_of_nothing hinput) fuel console)
          | value path =>
              cases hfile : host.readFile path with
              | error error =>
                  exact .unopened hsource hinput hfile
                    (h.run_of_unopened hsource (programInput_of_unopened hinput hfile) fuel console)
              | ok bytes =>
                  have hreads := Reads.file hinput hfile
                  exact .ran hsource hreads (h.tells_of_loaded hsource hreads fuel console)

theorem exitCode?_ofRun_cases (h : settings.Valid) (fuel : Nat) (source : String)
    (bytes : List UInt8) :
    let ending := (Interpreter.runBytes fuel source bytes settings).ending
    ending = .unfinished ∧ (Ending.ofRun ending).exitCode? = none ∨
      (Ending.ofRun ending).exitCode? = some 0 ∨ (Ending.ofRun ending).exitCode? = some 1 := by
  intro ending
  rcases Interpreter.ending_of_valid BufferPort.not_raises_foreign h fuel source
    (BufferPort.ofInput bytes) with hhalted | hfault | hunfinished
  · exact Or.inr (Or.inl ((Ending.exitCode?_ofRun_eq_zero_iff ending).2 hhalted))
  · exact Or.inr (Or.inr ((Ending.exitCode?_ofRun_eq_one_iff ending).2 hfault))
  · refine Or.inl ⟨hunfinished, ?_⟩
    rw [show ending = .unfinished from hunfinished]
    rfl

theorem Outcome.exitCode?_cases {fuel : Nat} {console : Console} {report : Report}
    (houtcome : Outcome fuel console host arguments settings report) (h : settings.Valid)
    {code : Nat} (hcode : report.ending.exitCode? = some code) : code = 0 ∨ code = 1 := by
  cases houtcome with
  | unread hsource hreport | unopened hsource hinput hfile hreport =>
      obtain ⟨_, _, rfl⟩ := Option.map_eq_some_iff.1 (hreport ▸ hcode)
      exact Or.inr rfl
  | unnamed hsource hinput hreport =>
      rw [hreport] at hcode
      cases hcode
  | @ran source bytes hsource hreads hreport =>
      rw [hreport.ending_eq] at hcode
      rcases exitCode?_ofRun_cases h fuel source bytes with ⟨_, hnone⟩ | hzero | hone
      · rw [hnone] at hcode
        cases hcode
      · exact Or.inl (Option.some.inj (hcode.symm.trans hzero))
      · exact Or.inr (Option.some.inj (hcode.symm.trans hone))

/-! ## Where the command ends as it is -/

/-- The command reports what it expects of a program that is not loaded, and passes on
everything else. -/
structure EscapesExactly (fuel : Nat) (console : Console) (host : Host) (arguments : Arguments)
    (settings : Settings) (report : Report) : Prop where
  wholeLines : WholeLines (settingsLog console host arguments)
  /-- A file that is not opened and bytes that are not decoded are reported. -/
  reported : ∀ error, SourceText.Fails host arguments.program settings.encoding error →
    error.Reported →
      report.output = #[] ∧ report.ending.exitCode? = some 1 ∧
        report.diagnostics = settingsLog console host arguments ++
          s!"error: cannot read program {arguments.program.written}: {error.message}\n"
  /-- Any other failure ends the command, and nothing is said of it. -/
  unreported : ∀ error, SourceText.Fails host arguments.program settings.encoding error →
    ¬ error.Reported →
      report.output = #[] ∧ report.ending = .source arguments.program error ∧
        report.ending.exitCode? = none ∧
          report.diagnostics = settingsLog console host arguments
  /-- Apart from these, only the name of the input does so, or a run that goes on. -/
  exitCode?_eq_none_iff : report.ending.exitCode? = none ↔
    (∃ error, SourceText.Fails host arguments.program settings.encoding error ∧
      ¬ error.Reported) ∨
    (∃ source, SourceText.load host arguments.program settings.encoding = .ok source ∧
      UnnamedInput host arguments) ∨
    ∃ source bytes, SourceText.load host arguments.program settings.encoding = .ok source ∧
      Reads host arguments bytes ∧
        (Interpreter.runBytes fuel source bytes settings).ending = .unfinished
  exitCode_cases : ∀ code, report.ending.exitCode? = some code → code = 0 ∨ code = 1

/-- Once the settings are loaded, the command ends with 0 or 1 unless the run goes on, the
file for the input has no proper name, or the program fails to load for a reason other than
its file and its bytes. -/
theorem escapesExactly_of_accepts (h : Accepts host argv arguments settings) (fuel : Nat)
    (console : Console) :
    EscapesExactly fuel console host arguments settings (run fuel console argv host) := by
  constructor
  · exact wholeLines_settingsLog console host arguments
  · intro error hfails hreported
    have hline := Ending.failureLine?_of_reported arguments.program hreported
    rw [h.run_of_unread (SourceText.load_eq_error_iff.2 hfails) fuel console, Report.early]
    refine ⟨rfl, ?_, ?_⟩
    · rw [Ending.exitCode?_source, hline]
      rfl
    · rw [hline]
      rfl
  · intro error hfails hreported
    have hline := Ending.failureLine?_of_not_reported arguments.program hreported
    rw [h.run_of_unread (SourceText.load_eq_error_iff.2 hfails) fuel console, Report.early]
    refine ⟨rfl, rfl, ?_, ?_⟩
    · rw [Ending.exitCode?_source, hline]
      rfl
    · rw [hline]
      exact String.append_empty
  · constructor
    · intro hnone
      cases h.outcome fuel console with
      | @unread error hsource hreport =>
          refine Or.inl ⟨error, SourceText.load_eq_error_iff.1 hsource, ?_⟩
          intro hreported
          rw [hreport] at hnone
          have hline := Ending.failureLine?_of_reported arguments.program hreported
          simp [Report.early, Ending.exitCode?_source, hline] at hnone
      | unnamed hsource hinput hreport =>
          exact Or.inr (Or.inl ⟨_, hsource, Or.inl hinput⟩)
      | @unopened source path error hsource hinput hfile hreport =>
          cases error with
          | nullCharacter | brokenPath =>
              refine Or.inr (Or.inl ⟨_, hsource, Or.inr ⟨_, _, hinput, hfile, ?_⟩⟩)
              exact fun _ => OpenError.noConfusion
          | system error =>
              rw [hreport] at hnone
              cases hnone
      | @ran source bytes hsource hreads hreport =>
          rw [hreport.ending_eq] at hnone
          refine Or.inr (Or.inr ⟨source, bytes, hsource, hreads, ?_⟩)
          rcases exitCode?_ofRun_cases h.valid fuel source bytes with
            ⟨hunfinished, _⟩ | hzero | hone
          · exact hunfinished
          · rw [hzero] at hnone
            cases hnone
          · rw [hone] at hnone
            cases hnone
    · rintro (⟨error, hfails, hreported⟩ | ⟨source, hsource, hinput |
        ⟨path, error, hinput, hfile, hsystem⟩⟩ |
        ⟨source, bytes, hsource, hreads, hunfinished⟩)
      · rw [h.run_of_unread (SourceText.load_eq_error_iff.2 hfails) fuel console, Report.early,
          Ending.exitCode?_source, Ending.failureLine?_of_not_reported _ hreported]
        rfl
      · rw [h.run_of_unopened hsource (programInput_of_nothing hinput) fuel console]
        rfl
      · rw [h.run_of_unopened hsource (programInput_of_unopened hinput hfile) fuel console]
        cases error with
        | system failure => exact absurd rfl (hsystem failure)
        | nullCharacter | brokenPath => rfl
      · rw [(h.tells_of_loaded hsource hreads fuel console).ending_eq, hunfinished]
        rfl
  · intro code hcode
    exact (h.outcome fuel console).exitCode?_cases h.valid hcode

theorem fails_of_bogus {host : Host} (hinput : host.input ≠ []) :
    SourceText.Fails host SourceText.inputPath (.ofString "bogus") (.unknownEncoding "bogus") := by
  have hnaming : SourceText.namingAt "bogus" .input = .unknown := by decide +kernel
  exact .misreads (by decide) (.input rfl hinput) (.unknown hnaming)

/-- A program in no known encoding. -/
theorem escapesExactly_of_accepts_unknown :
    let host : Host :=
      { readFile := fun path => .error (.system (.fileNotFound path))
        environment := [("BYTETAPE_ENCODING", Encoding.Utf8.encode "bogus".toList)]
        input := [0x2B] }
    let path : Text.Codes := .ofString "-"
    let settings : Settings := { encoding := .ofString "bogus" }
    let report := run 9 {} [path] host
    Accepts host [path] { program := path } settings ∧
      EscapesExactly 9 {} host { program := path } settings report ∧
        report.ending = .source path (.unknownEncoding "bogus") := by
  intro host path settings report
  have haccepts : Accepts host [path] { program := path } settings := ⟨rfl, rfl⟩
  have hescapes := escapesExactly_of_accepts haccepts 9 {}
  have hreported : ¬ SourceText.LoadError.Reported (.unknownEncoding "bogus") := by
    intro h
    cases h
  obtain ⟨_, hending, _⟩ := hescapes.unreported _ (fails_of_bogus (by decide)) hreported
  exact ⟨haccepts, hescapes, hending⟩

/-- Its text cannot be produced, and yet the command says nothing and has no exit code. -/
theorem exitCode?_of_unknown_eq_none :
    let host : Host :=
      { readFile := fun path => .error (.system (.fileNotFound path))
        environment := [("BYTETAPE_ENCODING", Encoding.Utf8.encode "bogus".toList)]
        input := [0x2B] }
    let path : Text.Codes := .ofString "-"
    let settings : Settings := { encoding := .ofString "bogus" }
    let report := run 9 {} [path] host
    Accepts host [path] { program := path } settings ∧
      SourceText.load host path settings.encoding = .error (.unknownEncoding "bogus") ∧
        report.ending.exitCode? = none ∧ report.diagnostics = "" := by
  intro host path settings report
  have haccepts : Accepts host [path] { program := path } settings := ⟨rfl, rfl⟩
  have hsource : SourceText.load host path settings.encoding = .error (.unknownEncoding "bogus") :=
    SourceText.load_eq_error_iff.2 (fails_of_bogus (by decide))
  have hreport : report = .early "" (.source path (.unknownEncoding "bogus")) :=
    haccepts.run_of_unread hsource 9 {}
  rw [hreport]
  exact ⟨haccepts, hsource, rfl, rfl⟩

end Outcomes

end Command

end TapeMachine
