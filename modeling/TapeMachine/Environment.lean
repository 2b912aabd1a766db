/-
  Environment variables.

  The system keeps the values of variables as bytes.  A value is read as a text when it is
  asked for, and then bytes that belong to no character stand for halves of pairs.
-/
import TapeMachine.Encoding.Utf8

set_option autoImplicit false

namespace TapeMachine

/-- Variables with their values.  The first entry of a name counts. -/
abbrev Variables (α : Type) := List (String × α)

namespace Variables

variable {α β : Type}

/-- The value of a variable. -/
def value? (known : Variables α) (name : String) : Option α :=
  known.lookup name

@[simp] theorem value?_nil (name : String) : value? ([] : Variables α) name = none := rfl

theorem value?_cons (other : String) (value : α) (rest : Variables α) (name : String) :
    value? ((other, value) :: rest) name =
      if name = other then some value else rest.value? name := by
  unfold value?
  rw [List.lookup_cons]
  by_cases h : name = other
  · simp [h]
  · simp [h, beq_eq_false_iff_ne.2 h]

theorem value?_append (first second : Variables α) (name : String) :
    value? (first ++ second) name = (first.value? name).or (second.value? name) :=
  List.lookup_append

/-- The variables with one more; a variable that is set already stays. -/
def addMissing (known : Variables α) (name : String) (value : α) : Variables α :=
  match known.value? name with
  | some _ => known
  | none => known ++ [(name, value)]

theorem value?_addMissing (known : Variables α) (name : String) (value : α)
    (other : String) :
    (known.addMissing name value).value? other =
      (known.value? other).or (if other = name then some value else none) := by
  unfold addMissing
  cases hname : known.value? name with
  | some old =>
      by_cases hother : other = name
      · subst hother
        simp [hname]
      · simp [hother]
  | none =>
      rw [value?_append, value?_cons, value?_nil]

/-- The variables with other values. -/
def mapValues (f : α → β) (known : Variables α) : Variables β :=
  known.map fun (name, value) => (name, f value)

theorem value?_mapValues (f : α → β) (known : Variables α) (name : String) :
    (known.mapValues f).value? name = (known.value? name).map f := by
  unfold mapValues
  induction known with
  | nil => rfl
  | cons entry rest ih =>
      obtain ⟨other, value⟩ := entry
      rw [List.map_cons, value?_cons, value?_cons, ih]
      split <;> rfl

end Variables

/-- Variables as the system keeps them. -/
abbrev RawEnvironment := Variables (List UInt8)

/-- Variables as they are read. -/
abbrev Environment := Variables Text.Codes

/-- The variables with their values read. -/
def RawEnvironment.read (environment : RawEnvironment) : Environment :=
  environment.mapValues Encoding.Utf8.decodeEscaped

/-- A variable whose bytes are a text is read as that text. -/
theorem RawEnvironment.value?_read {environment : RawEnvironment} {name : String}
    {bytes : List UInt8} {text : List Char} (hvalue : environment.value? name = some bytes)
    (htext : Encoding.Utf8.decode bytes = .ok text) :
    environment.read.value? name = some (text.map .char) := by
  unfold RawEnvironment.read
  rw [Variables.value?_mapValues, hvalue, Option.map_some,
    Encoding.Utf8.decodeEscaped_of_decode htext]

end TapeMachine
