/-
  Loading settings.

  Settings come in layers: the defaults, a settings file, the environment and explicit
  overrides; a later layer counts more.  Every layer is checked as a whole, the parts
  that a later layer hides included.
-/
import TapeMachine.EnvFile
import TapeMachine.Encoding.Utf8
import TapeMachine.Host
import TapeMachine.Journal
import TapeMachine.Settings.Assign
import TapeMachine.Yaml.Document

set_option autoImplicit false

namespace TapeMachine

/-- A line of an environment file is no assignment. -/
def Record.badLine (line : Nat) : Record :=
  ⟨.warning, "dotenv.main", EnvFile.badLineMessage line⟩

namespace Settings

/-! ## Failures -/

/-- Why settings are not loaded. -/
inductive LoadError where
  /-- A value is not assigned, or the settings file has the wrong shape. -/
  | assign (error : AssignError)
  /-- The settings would be refused, but the value in question cannot be shown. -/
  | unshowable (error : Value.ShowError)
  /-- The settings file cannot be opened. -/
  | unopened (error : OpenError)
  /-- A file is no UTF-8 text. -/
  | undecodable (error : Encoding.DecodeError)
  /-- The environment file sets a variable that cannot be set. -/
  | environment (error : EnvFile.LoadError)
  /-- A value of the settings file does not suit its tag. -/
  | document (error : Yaml.Error)
  deriving Repr

namespace LoadError

/-- A refusal as a failure to load. -/
def refused (refusal : Refusal) : LoadError := .assign (.refused refusal)

/-- The wording of a failure to load settings. -/
def message : LoadError → String
  | .assign error => error.message
  | .unshowable error => error.message
  | .unopened error => error.message
  | .undecodable error => error.message
  | .environment error => error.message
  | .document error => error.message

end LoadError

/-- The levels below the value of a refusal that can be shown. -/
def Refusal.shownLevels (levels : ShownLevels) : Refusal → Nat
  | .unknown _ => levels.key
  | .notLevel _ => levels.level
  | _ => levels.integer

/-- The failure to load that a value which is not assigned comes to.  A refusal is worded
at once, and so the value in question has to be shown. -/
def LoadError.ofAssign (levels : ShownLevels) (error : AssignError) : LoadError :=
  match error with
  | .refused refusal =>
      match refusal.value?.bind (Value.showError? (refusal.shownLevels levels)) with
      | some error => .unshowable error
      | none => .refused refusal
  | .infinite => .assign .infinite

/-- A step of loading with the failure of a layer. -/
def ofAssigned {α : Type} (levels : ShownLevels) (result : Except AssignError α) :
    Except LoadError α :=
  result.mapError (.ofAssign levels)

section Results

variable {α : Type} {levels : ShownLevels} {result : Except AssignError α}

theorem ofAssigned_eq_ok_iff {value : α} :
    ofAssigned levels result = .ok value ↔ result = .ok value := by
  cases result with
  | ok found =>
      constructor
      · intro h
        rw [← Except.ok.inj h]
      · intro h
        rw [← Except.ok.inj h]
        rfl
  | error cause =>
      constructor
      · intro h
        cases h
      · intro h
        cases h

theorem ofAssigned_eq_error_iff {error : LoadError} :
    ofAssigned levels result = .error error ↔
      ∃ cause, result = .error cause ∧ error = .ofAssign levels cause := by
  cases result with
  | ok found =>
      constructor
      · intro h
        cases h
      · rintro ⟨cause, h, _⟩
        cases h
  | error cause =>
      constructor
      · intro h
        exact ⟨cause, rfl, (Except.error.inj h).symm⟩
      · rintro ⟨_, h, rfl⟩
        rw [← Except.error.inj h]
        rfl

end Results

/-! ## The settings file -/

/-- The key of the section that may hold the settings. -/
def sectionKey : String := "bytetape"

/-- The entries of a document: those of its section when it has one, else its own.
An empty document and an empty section have none. -/
def documentEntries (path : Text.Codes) (document : Value) :
    Except Refusal (List (Value × Value)) :=
  match document with
  | .null => .ok []
  | .mapping entries =>
      match Value.lookupText entries sectionKey with
      | none => .ok entries
      | some inner =>
          if inner.isEmpty then .ok []
          else
            match inner with
            | .mapping entries => .ok entries
            | _ => .error (.sectionNotMapping path)
  | _ => .error (.notMapping path)

/-- A part of a document with the values of its entries taken each by itself. -/
def opened (document : Yaml.Document) (number : Nat)
    (valueOf : Value → Nat → Value) : Value :=
  match document.part number with
  | .mapping entries =>
      .mapping (entries.map fun (key, value) =>
        (document.valueOf key, valueOf (document.valueOf key) value))
  | _ => document.valueOf number

/-- A document as settings are taken from it.  What is shown of it are values of entries,
of the document or of its section; each is taken by itself, and not as a part of what
holds it. -/
def openedDocument (document : Yaml.Document) : Value :=
  opened document document.root fun key number =>
    if key.sameKey (.text sectionKey) then opened document number fun _ => document.valueOf
    else document.valueOf number

/-- The document in a settings file. -/
def readDocument (path : Text.Codes) (bytes : List UInt8) : Except LoadError Value :=
  match Yaml.read (Yaml.Source.ofBytes bytes) with
  | .ok document => .ok (openedDocument document)
  | .error .malformed => .error (.refused (.malformed path))
  | .error e => .error (.document e)

/-- The entries of a settings file. -/
def readEntries (host : Host) (path : Text.Codes) :
    Except LoadError (List (Value × Value)) :=
  match host.readFile path with
  | .error e => .error (.unopened e)
  | .ok bytes => do
      match documentEntries path (← readDocument path bytes) with
      | .ok entries => return entries
      | .error refusal => throw (.refused refusal)

/-! ## The environment -/

/-- The environment file of the host, unless environment files are turned off. -/
def usedEnvFile (host : Host) : Option (List UInt8) :=
  if EnvFile.isDisabled host.environment then none else host.envFile

/-- The environment of the host with the variables of its environment file, and the
records of that. -/
def hostEnvironment (host : Host) : List Record × Except LoadError Environment :=
  match usedEnvFile host with
  | none => ([], .ok host.environment.read)
  | some bytes =>
      match Encoding.Utf8.decode bytes with
      | .error e => ([], .error (.undecodable e))
      | .ok text =>
          let contents := EnvFile.parse (Text.unifyLines text)
          (contents.badLines.map Record.badLine,
            match EnvFile.load host.environment contents with
            | .ok environment => .ok environment.read
            | .error e => .error (.environment e))

/-- The settings that an environment gives, as entries. -/
def environmentEntries (environment : Environment) : List (Value × Value) :=
  (ofEnvironment environment).map fun (field, text) => (.text field.name, .ofCodes text)

/-! ## Layers -/

/-- Overrides without those that are not given. -/
def givenOverrides (overrides : List (Value × Value)) : List (Value × Value) :=
  overrides.filter fun entry =>
    match entry.2 with
    | .null => false
    | _ => true

/-- The settings of the layers above the defaults. -/
def merge (file environment overrides : List (Value × Value)) : Except AssignError Settings := do
  let settings ← ({} : Settings).apply file
  let settings ← settings.apply environment
  settings.apply (givenOverrides overrides)

/-- Loads settings from a file, an environment and overrides.  A path without
characters names no file. -/
def loadWith (host : Host) (path : Option Text.Codes) (environment : Environment)
    (overrides : List (Value × Value)) : Except LoadError Settings := do
  let file ←
    match path with
    | none => pure []
    | some path => if path = [] then pure [] else readEntries host path
  ofAssigned host.shownLevels (merge file (environmentEntries environment) overrides)

/-- Loads settings.  Without a given environment that of the host is used, its
environment file included; reading that file leaves records. -/
def load (host : Host) (path : Option Text.Codes) (environment : Option Environment)
    (overrides : List (Value × Value)) : List Record × Except LoadError Settings :=
  match environment with
  | some environment => ([], loadWith host path environment overrides)
  | none =>
      match hostEnvironment host with
      | (records, .error e) => (records, .error e)
      | (records, .ok environment) => (records, loadWith host path environment overrides)

end Settings

end TapeMachine
