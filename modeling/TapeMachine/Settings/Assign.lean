/-
  Assigning settings.

  A setting is given as a document value and turned into what its field holds.  A
  value that does not suit its field is refused.
-/
import TapeMachine.Settings
import TapeMachine.Settings.Field
import TapeMachine.Text.Integer
import TapeMachine.Text.UpperCase
import TapeMachine.Value

set_option autoImplicit false

namespace TapeMachine.Settings

/-! ## Refusals -/

/-- Why settings are refused. -/
inductive Refusal where
  /-- There is no field of the name. -/
  | unknown (key : Value)
  /-- The field holds an integer, and the value is none. -/
  | notInteger (field : Field) (value : Value)
  /-- The field holds a positive integer. -/
  | notPositive (field : Field)
  /-- The value is not the name of a level. -/
  | notLevel (value : Value)
  /-- The value is not the name of an encoding. -/
  | notEncoding
  /-- The settings file is malformed. -/
  | malformed (path : Text.Codes)
  /-- The settings file holds something other than a mapping. -/
  | notMapping (path : Text.Codes)
  /-- The section of the settings file holds something other than a mapping. -/
  | sectionNotMapping (path : Text.Codes)
  deriving Repr

/-- The wording of a refusal. -/
def Refusal.message : Refusal → String
  | .unknown key => "unknown setting " ++ key.shown
  | .notInteger field value => s!"{field.name} must be an integer, got " ++ value.shown
  | .notPositive field => s!"{field.name} must be at least 1"
  | .notLevel value =>
      let levels := ", ".intercalate (Level.all.map Level.name)
      s!"log_level must be one of {levels}, got " ++ value.shown
  | .notEncoding => "encoding must be a non-empty string"
  | .malformed path => s!"cannot parse {path.written}"
  | .notMapping path => s!"{path.written}: expected a mapping at top level"
  | .sectionNotMapping path => s!"{path.written}: 'bytetape' section must be a mapping"

/-- The value that a refusal shows. -/
def Refusal.value? : Refusal → Option Value
  | .unknown key => some key
  | .notInteger _ value => some value
  | .notLevel value => some value
  | _ => none

/-- Why a value is not assigned. -/
inductive AssignError where
  /-- The settings are refused. -/
  | refused (refusal : Refusal)
  /-- The value is infinite where an integer is needed. -/
  | infinite
  deriving Repr

/-- The wording of a value that is not assigned. -/
def AssignError.message : AssignError → String
  | .refused refusal => refusal.message
  | .infinite => "cannot convert float infinity to integer"

/-! ## Values of fields -/

/-- The integer that a value stands for.  A binary number loses its fraction; a text,
or bytes of ASCII text, are read as decimal integers. -/
def integer (field : Field) (value : Value) : Except AssignError Int :=
  let refused := Except.error (.refused (.notInteger field value))
  let ofText := fun text : String =>
    match Text.Integer.parseDecimal text with
    | .ok number => .ok number
    | .error _ => refused
  match value with
  | .integer number => .ok number
  | .real number =>
      match number.integerPart with
      | .ok number => .ok number
      | .error .infinite => .error .infinite
      | .error .notNumber => refused
  | .text text => ofText text
  | .bytes bytes =>
      if bytes.all (· < 128) then
        ofText (String.ofList (bytes.map fun byte => Char.ofNat byte.toNat))
      else refused
  | _ => refused

/-- The positive integer that a value stands for. -/
def positive (field : Field) (value : Value) : Except AssignError Int := do
  let number ← integer field value
  if number < 1 then .error (.refused (.notPositive field)) else return number

/-- A positive integer is at least one. -/
theorem one_le_of_positive {field : Field} {value : Value} {number : Int}
    (h : positive field value = .ok number) : 1 ≤ number := by
  unfold positive at h
  cases found : integer field value with
  | error e => rw [found] at h; cases h
  | ok n =>
      rw [found] at h
      change (if n < 1 then _ else _) = _ at h
      split at h
      · cases h
      · cases h
        omega

/-- Whether a value says that there is no greatest number of cells. -/
def isNoLimit : Value → Bool
  | .null => true
  | .text text =>
      let word := String.ofList ((Text.trim Text.isBlank text.toList).map Text.lowerLatin)
      word == "" || word == "none"
  | _ => false

/-- The level that a value names; blanks around the name and its case do not count. -/
def level (value : Value) : Except AssignError Level :=
  let found :=
    match value with
    | .text text =>
        Level.ofName? (String.ofList (Text.upper (Text.trim Text.isBlank text.toList)))
    | _ => none
  match found with
  | some level => .ok level
  | none => .error (.refused (.notLevel value))

/-- The name of an encoding that a value holds: any text but the empty one. -/
def encodingName (value : Value) : Except AssignError Text.Codes :=
  match value.codes? with
  | some (code :: rest) => .ok (code :: rest)
  | _ => .error (.refused .notEncoding)

/-- The name of an encoding is not empty. -/
theorem ne_nil_of_encodingName {value : Value} {name : Text.Codes}
    (h : encodingName value = .ok name) : name ≠ [] := by
  unfold encodingName at h
  split at h
  · cases h
    exact List.cons_ne_nil _ _
  · cases h

/-- A text that is not empty stands for itself. -/
theorem encodingName_ofCodes {name : Text.Codes} (h : name ≠ []) :
    encodingName (.ofCodes name) = .ok name := by
  unfold encodingName
  rw [Value.codes?_ofCodes]
  cases name with
  | nil => exact absurd rfl h
  | cons code rest => rfl

/-! ## Assigning -/

/-- The settings with one field set. -/
def assign (settings : Settings) (field : Field) (value : Value) : Except AssignError Settings :=
  match field with
  | .maxCells =>
      if isNoLimit value then .ok { settings with maxCells := none }
      else (positive .maxCells value).map fun n => { settings with maxCells := some n }
  | .initialCells =>
      (positive .initialCells value).map fun n => { settings with initialCells := n }
  | .logLevel => (level value).map fun l => { settings with logLevel := l }
  | .encoding => (encodingName value).map fun name => { settings with encoding := name }

/-- The field that a key names. -/
def fieldOf (key : Value) : Except AssignError Field :=
  let found :=
    match key with
    | .text name => Field.ofName? name
    | _ => none
  match found with
  | some field => .ok field
  | none => .error (.refused (.unknown key))

/-- The settings with one entry applied. -/
def applyEntry (settings : Settings) (entry : Value × Value) : Except AssignError Settings := do
  settings.assign (← fieldOf entry.1) entry.2

/-- The settings with entries applied in order. -/
def apply (settings : Settings) (entries : List (Value × Value)) : Except AssignError Settings :=
  entries.foldlM applyEntry settings

/-- Entries in two parts are applied one part after the other. -/
theorem apply_append (settings : Settings) (first second : List (Value × Value)) :
    settings.apply (first ++ second) = settings.apply first >>= fun s => s.apply second :=
  List.foldlM_append

end TapeMachine.Settings
