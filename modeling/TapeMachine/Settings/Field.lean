/-
  The fields of the settings.

  Each field has a name in settings files and on the command line, and a variable in
  the environment.
-/
import TapeMachine.Environment

set_option autoImplicit false

namespace TapeMachine.Settings

/-- A field of the settings. -/
inductive Field where
  /-- The greatest number of cells. -/
  | maxCells
  /-- The number of cells set aside at the start. -/
  | initialCells
  /-- The least level of the records that are written. -/
  | logLevel
  /-- The encoding of source files. -/
  | encoding
  deriving DecidableEq, Repr, Inhabited

namespace Field

/-- The fields in the order in which the environment is looked through. -/
def all : List Field := [maxCells, initialCells, logLevel, encoding]

/-- The name of a field. -/
def name : Field → String
  | maxCells => "max_cells"
  | initialCells => "initial_cells"
  | logLevel => "log_level"
  | encoding => "encoding"

/-- The environment variable of a field. -/
def variableName : Field → String
  | maxCells => "BYTETAPE_MAX_CELLS"
  | initialCells => "BYTETAPE_INITIAL_CELLS"
  | logLevel => "BYTETAPE_LOG_LEVEL"
  | encoding => "BYTETAPE_ENCODING"

/-- The field of a name. -/
def ofName? (name : String) : Option Field :=
  all.find? fun field => field.name == name

theorem ofName?_name (field : Field) : ofName? field.name = some field := by
  cases field <;> decide

theorem name_injective {a b : Field} (h : a.name = b.name) : a = b := by
  have h := congrArg ofName? h
  rw [ofName?_name, ofName?_name] at h
  exact Option.some.inj h

theorem mem_all (field : Field) : field ∈ all := by
  cases field <;> decide

end Field

/-- The fields that an environment sets, with the texts that it gives them. -/
def ofEnvironment (environment : Environment) : List (Field × Text.Codes) :=
  Field.all.filterMap fun field =>
    (environment.value? field.variableName).map fun text => (field, text)

end TapeMachine.Settings
