/-
  What the fields of the settings hold.

  Every field has contents of its own kind, and a value is assigned to a field by turning it
  into such contents.  Main statements: an assignment changes the field to what the value
  stands for, and nothing else; and what a field of valid settings holds, written back as a
  value, stands for itself.
-/
import TapeMachine.Proofs.ValidSettings

set_option autoImplicit false

namespace TapeMachine.Settings

/-! ## Contents -/

/-- What a field holds. -/
abbrev Field.Content : Field → Type
  | .maxCells => Option Int
  | .initialCells => Int
  | .logLevel => Level
  | .encoding => Text.Codes

/-- What the settings hold in a field. -/
def content (settings : Settings) : (field : Field) → field.Content
  | .maxCells => settings.maxCells
  | .initialCells => settings.initialCells
  | .logLevel => settings.logLevel
  | .encoding => settings.encoding

/-- The settings with other contents of a field. -/
def withContent (settings : Settings) : (field : Field) → field.Content → Settings
  | .maxCells, maxCells => { settings with maxCells }
  | .initialCells, initialCells => { settings with initialCells }
  | .logLevel, logLevel => { settings with logLevel }
  | .encoding, encoding => { settings with encoding }

/-- What a value stands for in a field. -/
def coerce : (field : Field) → Value → Except AssignError field.Content
  | .maxCells, value => if isNoLimit value then .ok none else (positive .maxCells value).map some
  | .initialCells, value => positive .initialCells value
  | .logLevel, value => level value
  | .encoding, value => encodingName value

@[simp] theorem content_withContent (settings : Settings) (field : Field)
    (content : field.Content) : (settings.withContent field content).content field = content := by
  cases field with
  | maxCells | initialCells | logLevel | encoding => rfl

theorem content_withContent_of_ne (settings : Settings) {field other : Field}
    (h : other ≠ field) (content : field.Content) :
    (settings.withContent field content).content other = settings.content other := by
  cases field <;> cases other <;> first | rfl | exact absurd rfl h

/-- Settings are what their fields hold. -/
theorem eq_of_content_eq {settings settings' : Settings}
    (h : ∀ field, settings.content field = settings'.content field) : settings = settings' := by
  obtain ⟨maxCells, initialCells, logLevel, encoding⟩ := settings
  obtain rfl : maxCells = settings'.maxCells := h .maxCells
  obtain rfl : initialCells = settings'.initialCells := h .initialCells
  obtain rfl : logLevel = settings'.logLevel := h .logLevel
  obtain rfl : encoding = settings'.encoding := h .encoding
  rfl

/-- A value is assigned by putting in what it stands for. -/
theorem assign_eq_map_coerce (settings : Settings) (field : Field) (value : Value) :
    settings.assign field value = (coerce field value).map (settings.withContent field) := by
  cases field with
  | maxCells =>
      unfold assign coerce
      dsimp only
      split
      · rfl
      · cases positive .maxCells value with
        | error | ok => rfl
  | initialCells | logLevel | encoding => rfl

/-! ## Contents as values -/

/-- The value that is written for what a field holds. -/
def written : (field : Field) → field.Content → Value
  | .maxCells, none => .null
  | .maxCells, some bound => .integer bound
  | .initialCells, cells => .integer cells
  | .logLevel, level => .text level.name
  | .encoding, name => .ofCodes name

theorem positive_integer (field : Field) {number : Int} (h : 1 ≤ number) :
    positive field (.integer number) = .ok number := by
  change (if number < 1 then _ else _) = _
  rw [if_neg (Int.not_lt.2 h)]
  rfl

/-- The name of a level stands for it. -/
theorem level_name (level : Level) : Settings.level (.text level.name) = .ok level := by
  have hname : Level.ofName?
      (String.ofList (Text.upper (Text.trim Text.isBlank level.name.toList))) = some level := by
    cases level with
    | debug | info | warning | error | critical => decide +kernel
  unfold Settings.level
  dsimp only
  rw [hname]

/-- What a field of valid settings holds stands for itself. -/
theorem Valid.coerce_written {settings : Settings} (h : settings.Valid) (field : Field) :
    coerce field (written field (settings.content field)) = .ok (settings.content field) := by
  cases field with
  | maxCells =>
      cases hbound : settings.maxCells with
      | none =>
          simp only [content, hbound]
          rfl
      | some bound =>
          have hpositive := positive_integer .maxCells (h.one_le_of_maxCells bound hbound)
          simp only [content, hbound, written, coerce, hpositive]
          rfl
  | initialCells => exact positive_integer .initialCells h.one_le_initialCells
  | logLevel => exact level_name settings.logLevel
  | encoding => exact encodingName_ofCodes h.encoding_ne_nil

/-- What the settings hold, as entries. -/
def entries (settings : Settings) : List (Value × Value) :=
  Field.all.map fun field => (.text field.name, written field (settings.content field))

end TapeMachine.Settings
