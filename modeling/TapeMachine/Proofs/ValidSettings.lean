/-
  Valid settings.

  Main statement: whatever the layers hold, settings that are loaded allow at least one
  cell, set at least one aside and name an encoding.  Each assignment checks its value, so
  the defaults stay valid through every entry of every layer.
-/
import TapeMachine.Settings.Load

set_option autoImplicit false

namespace TapeMachine

/-! ## Steps that may fail -/

section Results

variable {ε α β : Type}

theorem exists_of_bind_eq_ok {x : Except ε α} {f : α → Except ε β} {b : β}
    (h : (x >>= f) = .ok b) : ∃ a, x = .ok a ∧ f a = .ok b := by
  cases x with
  | error e => cases h
  | ok a => exact ⟨a, rfl, h⟩

theorem exists_of_map_eq_ok {x : Except ε α} {f : α → β} {b : β}
    (h : x.map f = .ok b) : ∃ a, x = .ok a ∧ f a = b := by
  cases x with
  | error e => cases h
  | ok a => exact ⟨a, rfl, Except.ok.inj h⟩

theorem eq_error_of_map_eq_error {x : Except ε α} {f : α → β} {e : ε}
    (h : x.map f = .error e) : x = .error e := by
  cases x with
  | error e' => exact congrArg Except.error (Except.error.inj h)
  | ok a => cases h

end Results

namespace Settings

/-! ## Valid settings -/

/-- Settings as every layer leaves them. -/
structure Valid (settings : Settings) : Prop where
  one_le_of_maxCells : ∀ bound, settings.maxCells = some bound → 1 ≤ bound
  one_le_initialCells : 1 ≤ settings.initialCells
  encoding_ne_nil : settings.encoding ≠ []

theorem valid_default : ({} : Settings).Valid := by
  constructor
  · intro bound h
    cases h
  · decide
  · decide

namespace Valid

variable {settings after : Settings}

theorem exists_newTape (h : settings.Valid) : ∃ tape, settings.newTape = some tape :=
  Settings.exists_newTape h.one_le_of_maxCells

/-! ## One assignment -/

theorem assign (h : settings.Valid) {field : Field} {value : Value}
    (hassign : settings.assign field value = .ok after) : after.Valid := by
  unfold Settings.assign at hassign
  cases field with
  | maxCells =>
      by_cases hnone : isNoLimit value
      · simp only [hnone, if_true] at hassign
        cases hassign
        exact { h with one_le_of_maxCells := fun _ hbound => by cases hbound }
      · simp only [hnone, Bool.false_eq_true, if_false] at hassign
        obtain ⟨number, hnumber, rfl⟩ := exists_of_map_eq_ok hassign
        refine { h with one_le_of_maxCells := ?_ }
        intro bound hbound
        cases hbound
        exact one_le_of_positive hnumber
  | initialCells =>
      obtain ⟨number, hnumber, rfl⟩ := exists_of_map_eq_ok hassign
      exact { h with one_le_initialCells := one_le_of_positive hnumber }
  | logLevel =>
      obtain ⟨level, _, rfl⟩ := exists_of_map_eq_ok hassign
      exact { h with }
  | encoding =>
      obtain ⟨name, hname, rfl⟩ := exists_of_map_eq_ok hassign
      exact { h with encoding_ne_nil := ne_nil_of_encodingName hname }

theorem applyEntry (h : settings.Valid) {entry : Value × Value}
    (happly : settings.applyEntry entry = .ok after) : after.Valid := by
  obtain ⟨field, _, hassign⟩ := exists_of_bind_eq_ok happly
  exact h.assign hassign

/-! ## Layers -/

theorem apply (h : settings.Valid) {entries : List (Value × Value)}
    (happly : settings.apply entries = .ok after) : after.Valid := by
  unfold Settings.apply at happly
  induction entries generalizing settings with
  | nil =>
      cases happly
      exact h
  | cons entry rest ih =>
      rw [List.foldlM_cons] at happly
      obtain ⟨next, hentry, hrest⟩ := exists_of_bind_eq_ok happly
      exact ih (h.applyEntry hentry) hrest

end Valid

theorem valid_of_merge {file environment overrides : List (Value × Value)} {settings : Settings}
    (h : merge file environment overrides = .ok settings) : settings.Valid := by
  obtain ⟨withFile, hfile, h⟩ := exists_of_bind_eq_ok h
  obtain ⟨withEnvironment, henvironment, h⟩ := exists_of_bind_eq_ok h
  exact ((valid_default.apply hfile).apply henvironment).apply h

theorem valid_of_loadWith {host : Host} {path : Option Text.Codes} {environment : Environment}
    {overrides : List (Value × Value)} {settings : Settings}
    (h : loadWith host path environment overrides = .ok settings) : settings.Valid := by
  unfold loadWith at h
  cases path with
  | none => exact valid_of_merge (ofAssigned_eq_ok_iff.1 h)
  | some path =>
      by_cases hpath : path = []
      · simp only [hpath, if_true] at h
        exact valid_of_merge (ofAssigned_eq_ok_iff.1 h)
      · simp only [hpath, if_false] at h
        obtain ⟨file, _, h⟩ := exists_of_bind_eq_ok h
        exact valid_of_merge (ofAssigned_eq_ok_iff.1 h)

/-- Settings that are loaded are valid. -/
theorem valid_of_load {host : Host} {path : Option Text.Codes} {environment : Option Environment}
    {overrides : List (Value × Value)} {settings : Settings}
    (h : (load host path environment overrides).2 = .ok settings) : settings.Valid := by
  unfold load at h
  cases environment with
  | some environment => exact valid_of_loadWith h
  | none =>
      cases hhost : hostEnvironment host with
      | mk records found =>
          rw [hhost] at h
          cases found with
          | error e => cases h
          | ok environment => exact valid_of_loadWith h

end Settings

end TapeMachine
