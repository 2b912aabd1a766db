/-
  Malformed settings.

  Settings that do not suit their fields are refused, and the command reports a refusal as it
  reports a file that the system does not open.  Main statement: apart from these, loading a
  document fails exactly when the first entry that offends is an infinite number where an
  integer is needed, or has to be shown in a refusal and is nested too deeply for that or
  holds an integer of too many digits.  The command passes such a failure on, and has no exit
  code for it.
-/
import TapeMachine.Proofs.CommandRuns
import TapeMachine.Proofs.SettingsSources
import TapeMachine.Proofs.ShownValues

set_option autoImplicit false

namespace TapeMachine

open CommandLine (Arguments)

namespace Settings

/-! ## Failures to load -/

/-- The failures that the command expects: the settings are refused, or the system does not
open their file. -/
inductive LoadError.Reported : LoadError → Prop
  | refused (refusal : Refusal) : Reported (.assign (.refused refusal))
  | unopened (error : SystemError) : Reported (.unopened (.system error))

section Refusing

variable {levels : ShownLevels} (refusal : Refusal) {value : Value}

theorem LoadError.ofAssign_of_showError {error : Value.ShowError}
    (hvalue : refusal.value? = some value)
    (h : value.showError? (refusal.shownLevels levels) = some error) :
    ofAssign levels (.refused refusal) = .unshowable error := by
  unfold ofAssign
  dsimp only
  rw [hvalue, Option.bind_some, h]

/-- Only a value that cannot be shown keeps a refusal from being reported. -/
theorem LoadError.exists_showError_of_not_reported (hvalue : refusal.value? = some value)
    (h : ¬ (ofAssign levels (.refused refusal)).Reported) :
    ∃ error, value.showError? (refusal.shownLevels levels) = some error := by
  cases hshown : value.showError? (refusal.shownLevels levels) with
  | some error => exact ⟨error, rfl⟩
  | none =>
      refine absurd (Reported.refused refusal) ?_
      unfold ofAssign at h
      dsimp only at h
      rwa [hvalue, Option.bind_some, hshown] at h

end Refusing

/-! ## Entries that are not refused -/

/-- The fields that hold a number of cells. -/
inductive Field.IsCount : Field → Prop
  | maxCells : IsCount .maxCells
  | initialCells : IsCount .initialCells

/-- The entry offends, and yet it is not refused. -/
inductive Escapes (levels : ShownLevels) : Value × Value → LoadError → Prop
  | infinite {field : Field} (hfield : field.IsCount) (negative : Bool) :
      Escapes levels (.text field.name, .real (.infinite negative)) (.assign .infinite)
  /-- The key would have to be shown. -/
  | key {key : Value} {error : Value.ShowError} (value : Value)
      (hunknown : ∀ field : Field, key ≠ .text field.name)
      (hkey : key.showError? levels.key = some error) :
      Escapes levels (key, value) (.unshowable error)
  /-- The value is no integer and would have to be shown. -/
  | count {field : Field} {value : Value} {error : Value.ShowError} (hfield : field.IsCount)
      (hinteger : ∀ number, value ≠ .integer number)
      (hvalue : value.showError? levels.integer = some error) :
      Escapes levels (.text field.name, value) (.unshowable error)
  /-- The value is no level and would have to be shown. -/
  | level {value : Value} {error : Value.ShowError}
      (hvalue : value.showError? levels.level = some error) :
      Escapes levels (.text Field.logLevel.name, value) (.unshowable error)

section Offending

variable {field : Field} {value : Value} {error : AssignError}

/-- What stands for no integer is infinite, or it is refused. -/
theorem integer_eq_error_cases (h : integer field value = .error error) :
    (∃ negative, value = .real (.infinite negative) ∧ error = .infinite) ∨
      (∀ number, value ≠ .integer number) ∧ error = .refused (.notInteger field value) := by
  unfold integer at h
  dsimp only at h
  cases value with
  | integer number => cases h
  | real number =>
      cases number with
      | infinite negative => exact Or.inl ⟨negative, rfl, (Except.error.inj h).symm⟩
      | nan => exact Or.inr ⟨fun _ => Value.noConfusion, (Except.error.inj h).symm⟩
      | finite => cases h
  | text text =>
      refine Or.inr ⟨fun _ => Value.noConfusion, ?_⟩
      dsimp only at h
      split at h
      · cases h
      · exact (Except.error.inj h).symm
  | bytes bytes =>
      refine Or.inr ⟨fun _ => Value.noConfusion, ?_⟩
      dsimp only at h
      split at h
      · split at h
        · cases h
        · exact (Except.error.inj h).symm
      · exact (Except.error.inj h).symm
  | null | boolean | brokenText | date | moment | list | pairs | mapping | set | enclosing =>
      exact Or.inr ⟨fun _ => Value.noConfusion, (Except.error.inj h).symm⟩

theorem positive_of_integer_error (h : integer field value = .error error) :
    positive field value = .error error := by
  unfold positive
  rw [h]
  rfl

/-- A number of cells is refused for its size, or it is no integer. -/
theorem integer_eq_error_of_positive (h : positive field value = .error error)
    (hsize : error ≠ .refused (.notPositive field)) : integer field value = .error error := by
  unfold positive at h
  cases hnumber : integer field value with
  | error error' => rwa [hnumber] at h
  | ok number =>
      rw [hnumber] at h
      change (if number < 1 then _ else _) = _ at h
      split at h
      · exact absurd (Except.error.inj h).symm hsize
      · cases h

theorem level_eq_error (h : level value = .error error) :
    error = .refused (.notLevel value) := by
  unfold level at h
  dsimp only at h
  split at h
  · cases h
  · exact (Except.error.inj h).symm

theorem encodingName_eq_error (h : encodingName value = .error error) :
    error = .refused .notEncoding := by
  unfold encodingName at h
  split at h
  · cases h
  · exact (Except.error.inj h).symm

section Unshowable

/-! A value that cannot be shown is an integer, a moment or a collection. -/

variable {shown : Nat} {showError : Value.ShowError}

theorem integer_of_showError (hinteger : ∀ number, value ≠ .integer number)
    (h : value.showError? shown = some showError) :
    integer field value = .error (.refused (.notInteger field value)) := by
  cases value with
  | integer number => exact absurd rfl (hinteger number)
  | moment | list | pairs | mapping | set => rfl
  | null | boolean | real | text | brokenText | bytes | date | enclosing => cases h

theorem isNoLimit_of_showError (h : value.showError? shown = some showError) :
    isNoLimit value = false := by
  cases value with
  | moment | list | pairs | mapping | set | integer => rfl
  | null | boolean | real | text | brokenText | bytes | date | enclosing => cases h

theorem level_of_showError (h : value.showError? shown = some showError) :
    level value = .error (.refused (.notLevel value)) := by
  cases value with
  | moment | list | pairs | mapping | set | integer => rfl
  | null | boolean | real | text | brokenText | bytes | date | enclosing => cases h

end Unshowable

namespace Field.IsCount

theorem coerce_of_integer_error (hfield : field.IsCount) (hlimit : isNoLimit value = false)
    (h : integer field value = .error error) : coerce field value = .error error := by
  have hpositive := positive_of_integer_error h
  cases hfield with
  | maxCells => simp [coerce, hlimit, hpositive, Except.map]
  | initialCells => exact hpositive

theorem positive_eq_error_of_coerce (hfield : field.IsCount)
    (h : coerce field value = .error error) : positive field value = .error error := by
  cases hfield with
  | maxCells =>
      unfold coerce at h
      dsimp only at h
      split at h
      · cases h
      · exact eq_error_of_map_eq_error h
  | initialCells => exact h

theorem escapes_of_coerce {levels : ShownLevels} (hfield : field.IsCount)
    (h : coerce field value = .error error)
    (hreported : ¬ (LoadError.ofAssign levels error).Reported) :
    Escapes levels (.text field.name, value) (.ofAssign levels error) := by
  have hsize : error ≠ .refused (.notPositive field) := by
    rintro rfl
    exact hreported (.refused _)
  have hvalue := integer_eq_error_of_positive (hfield.positive_eq_error_of_coerce h) hsize
  rcases integer_eq_error_cases hvalue with ⟨negative, rfl, rfl⟩ | ⟨hinteger, rfl⟩
  · exact .infinite hfield negative
  · obtain ⟨error, hshown⟩ := LoadError.exists_showError_of_not_reported _ rfl hreported
    rw [LoadError.ofAssign_of_showError _ rfl hshown]
    exact .count hfield hinteger hshown

end Field.IsCount

end Offending

section Escaping

variable {levels : ShownLevels} {entry : Value × Value}

theorem Escapes.not_reported {error : LoadError} (h : Escapes levels entry error) :
    ¬ error.Reported := by
  cases h with
  | infinite | key | count | level =>
      intro hreported
      cases hreported

theorem Escapes.exists_offends {error : LoadError} (h : Escapes levels entry error) :
    ∃ cause, Offends entry cause ∧ error = .ofAssign levels cause := by
  cases h with
  | infinite hfield negative =>
      exact ⟨.infinite, .unsuited (hfield.coerce_of_integer_error rfl rfl), rfl⟩
  | @key key error value hunknown hkey =>
      have herror := LoadError.ofAssign_of_showError (.unknown key) rfl hkey
      exact ⟨_, .unknown value hunknown, herror.symm⟩
  | @count field value error hfield hinteger hvalue =>
      have hcoerce := hfield.coerce_of_integer_error (isNoLimit_of_showError hvalue)
        (integer_of_showError hinteger hvalue)
      have herror := LoadError.ofAssign_of_showError (.notInteger field value) rfl hvalue
      exact ⟨_, .unsuited hcoerce, herror.symm⟩
  | @level value error hvalue =>
      have hcoerce : coerce .logLevel value = .error (.refused (.notLevel value)) :=
        level_of_showError hvalue
      have herror := LoadError.ofAssign_of_showError (.notLevel value) rfl hvalue
      exact ⟨_, .unsuited hcoerce, herror.symm⟩

/-- An entry that offends is refused, unless it is one of these. -/
theorem Offends.escapes {cause : AssignError} (h : Offends entry cause)
    (hreported : ¬ (LoadError.ofAssign levels cause).Reported) :
    Escapes levels entry (.ofAssign levels cause) := by
  cases h with
  | unknown value hunknown =>
      obtain ⟨error, hkey⟩ := LoadError.exists_showError_of_not_reported _ rfl hreported
      rw [LoadError.ofAssign_of_showError _ rfl hkey]
      exact .key value hunknown hkey
  | @unsuited field value cause hvalue =>
      cases field with
      | maxCells => exact Field.IsCount.maxCells.escapes_of_coerce hvalue hreported
      | initialCells => exact Field.IsCount.initialCells.escapes_of_coerce hvalue hreported
      | logLevel =>
          obtain rfl := level_eq_error hvalue
          obtain ⟨error, hshown⟩ := LoadError.exists_showError_of_not_reported _ rfl hreported
          rw [LoadError.ofAssign_of_showError _ rfl hshown]
          exact .level hshown
      | encoding =>
          obtain rfl := encodingName_eq_error hvalue
          exact absurd (.refused .notEncoding) hreported

end Escaping

/-! ## Entries of environments and command lines -/

section Ordinary

variable {levels : ShownLevels} {key value : Value}

theorem showError?_of_codes? {codes : Text.Codes} (h : value.codes? = some codes) (shown : Nat) :
    value.showError? shown = none := by
  cases value with
  | text | brokenText => rfl
  | null | boolean | integer | real | bytes | date | moment | list | pairs | mapping | set
  | enclosing => cases h

/-- A finite value that can be shown under a key that can be shown is refused if anything. -/
theorem not_escapes_of_shown (hkey : ∀ shown, key.showError? shown = none)
    (hvalue : ∀ shown, value.showError? shown = none)
    (hfinite : ∀ negative, value ≠ .real (.infinite negative)) (error : LoadError) :
    ¬ Escapes levels (key, value) error := by
  intro h
  cases h with
  | infinite hfield negative => exact hfinite negative rfl
  | key value hunknown herror => cases herror.symm.trans (hkey _)
  | count hfield hinteger herror => cases herror.symm.trans (hvalue _)
  | level herror => cases herror.symm.trans (hvalue _)

theorem not_escapes_text (name : String) (codes : Text.Codes) (error : LoadError) :
    ¬ Escapes levels (.text name, .ofCodes codes) error := by
  have hcodes := Value.codes?_ofCodes codes
  refine not_escapes_of_shown (fun _ => rfl) (showError?_of_codes? hcodes) ?_ error
  intro negative hinfinite
  rw [hinfinite] at hcodes
  cases hcodes

/-- An integer is not shown but as a level, however many digits it has. -/
theorem not_escapes_integer (hkey : ∀ shown, key.showError? shown = none)
    (hlevel : key ≠ .text Field.logLevel.name) (number : Int) (error : LoadError) :
    ¬ Escapes levels (key, .integer number) error := by
  intro h
  cases h with
  | key value hunknown herror => cases herror.symm.trans (hkey _)
  | count hfield hinteger => exact hinteger number rfl
  | level => exact hlevel rfl

end Ordinary

theorem not_escapes_of_mem_environmentEntries {levels : ShownLevels} {environment : Environment}
    {entry : Value × Value} (h : entry ∈ environmentEntries environment) (error : LoadError) :
    ¬ Escapes levels entry error := by
  obtain ⟨⟨field, codes⟩, _, rfl⟩ := List.mem_map.1 h
  exact not_escapes_text field.name codes error

theorem not_escapes_of_mem_overrides {levels : ShownLevels} {arguments : Arguments}
    {entry : Value × Value} (h : entry ∈ Command.overrides arguments) (error : LoadError) :
    ¬ Escapes levels entry error := by
  have hshown : ∀ (name : String) (value : Value), (∀ shown, value.showError? shown = none) →
      (∀ negative, value ≠ .real (.infinite negative)) →
        ¬ Escapes levels (.text name, value) error :=
    fun _ _ hvalue hfinite => not_escapes_of_shown (fun _ => rfl) hvalue hfinite error
  unfold Command.overrides at h
  rcases List.mem_pair.1 h with rfl | rfl
  · have hlevel : Value.text Field.maxCells.name ≠ .text Field.logLevel.name :=
      fun hsame => absurd (Value.text.inj hsame) (by decide)
    cases arguments.maxCells with
    | none => exact hshown _ _ (fun _ => rfl) fun _ => Value.noConfusion
    | some given =>
        cases given with
        | nothing => exact hshown _ _ (fun _ => rfl) fun _ => Value.noConfusion
        | value number => exact not_escapes_integer (fun _ => rfl) hlevel number error
  · cases arguments.logLevel with
    | none => exact hshown _ _ (fun _ => rfl) fun _ => Value.noConfusion
    | some given =>
        cases given with
        | nothing | value => exact hshown _ _ (fun _ => rfl) fun _ => Value.noConfusion

/-! ## The first entry that offends -/

/-- The first of the entries that offends is not refused. -/
def EscapesFirst (levels : ShownLevels) (entries : List (Value × Value)) (error : LoadError) :
    Prop :=
  ∃ before entry behind, entries = before ++ entry :: behind ∧
    (∀ earlier ∈ before, Suits earlier) ∧ Escapes levels entry error

theorem escapesFirst_iff {levels : ShownLevels} {entries : List (Value × Value)}
    {error : LoadError} :
    EscapesFirst levels entries error ↔
      ∃ cause, FirstOffence entries cause ∧ error = .ofAssign levels cause ∧ ¬ error.Reported := by
  constructor
  · rintro ⟨before, entry, behind, rfl, hbefore, hescapes⟩
    obtain ⟨cause, hoffends, herror⟩ := hescapes.exists_offends
    exact ⟨cause, firstOffence_append_iff.2 (Or.inr ⟨hbefore, .here hoffends behind⟩), herror,
      hescapes.not_reported⟩
  · rintro ⟨cause, hoffence, rfl, hreported⟩
    induction hoffence with
    | here hoffends rest => exact ⟨[], _, rest, rfl, by simp, hoffends.escapes hreported⟩
    | @behind first rest error hfirst _ ih =>
        obtain ⟨before, entry, behind, rfl, hbefore, hescapes⟩ := ih hreported
        exact ⟨first :: before, entry, behind, rfl, List.forall_mem_cons.2 ⟨hfirst, hbefore⟩,
          hescapes⟩

theorem fromDocument_unreported_iff {levels : ShownLevels} {path : Text.Codes} {document : Value}
    {environment : Environment} {overrides : List (Value × Value)} {error : LoadError} :
    fromDocument levels path document environment overrides = .error error ∧ ¬ error.Reported ↔
      ∃ file, documentEntries path document = .ok file ∧
        EscapesFirst levels
          (file ++ (environmentEntries environment ++ givenOverrides overrides)) error := by
  unfold fromDocument
  cases documentEntries path document with
  | error refusal =>
      constructor
      · rintro ⟨h, hreported⟩
        obtain rfl := Except.error.inj h
        exact absurd (.refused refusal) hreported
      · rintro ⟨file, hfile, _⟩
        cases hfile
  | ok file =>
      dsimp only
      rw [ofAssigned_eq_error_iff, merge_eq_apply]
      constructor
      · rintro ⟨⟨cause, hcause, herror⟩, hreported⟩
        exact ⟨file, rfl, escapesFirst_iff.2
          ⟨cause, apply_eq_error_iff.1 hcause, herror, hreported⟩⟩
      · rintro ⟨_, hfile, hescapes⟩
        obtain rfl := Except.ok.inj hfile
        obtain ⟨cause, hoffence, herror, hreported⟩ := escapesFirst_iff.1 hescapes
        exact ⟨⟨cause, apply_eq_error_iff.2 hoffence, herror⟩, hreported⟩

theorem load_of_unopened {host : Host} {path : Text.Codes} {given : Option Environment}
    {environment : Environment} {error : OpenError} (hsees : Sees host given environment)
    (hpath : path ≠ []) (hfile : host.readFile path = .error error)
    (overrides : List (Value × Value)) :
    (load host (some path) given overrides).2 = .error (.unopened error) := by
  have hentries : readEntries host path = .error (.unopened error) := by
    unfold readEntries
    rw [hfile]
  rw [hsees.load_eq]
  unfold loadWith
  simp only [if_neg hpath, hentries]
  rfl

end Settings

/-! ## The command without settings -/

namespace Command

/-- The command ends because its settings are not loaded. -/
structure EndsUnloaded (report : Report) (log : String) (error : Settings.LoadError) : Prop where
  output_eq : report.output = #[]
  ending_eq : report.ending = .settings error
  /-- A failure that the command expects is the last line on standard error. -/
  reported : error.Reported →
    report.ending.exitCode? = some 1 ∧ report.diagnostics = log ++ s!"error: {error.message}\n"
  /-- Any other failure ends the command, and nothing is said of it. -/
  unreported : ¬ error.Reported →
    report.ending.exitCode? = none ∧ report.diagnostics = log

theorem endsUnloaded_early (log : String) (error : Settings.LoadError) :
    EndsUnloaded (.early log (.settings error)) log error := by
  constructor
  · rfl
  · rfl
  · intro h
    cases h with
    | refused | unopened => exact ⟨rfl, rfl⟩
  · intro h
    have hline : (Ending.settings error).failureLine? = none := by
      cases error with
      | unshowable | undecodable | environment | document => rfl
      | assign cause =>
          cases cause with
          | refused refusal => exact absurd (.refused refusal) h
          | infinite => rfl
      | unopened failure =>
          cases failure with
          | system error => exact absurd (.unopened error) h
          | nullCharacter | brokenPath => rfl
    have hcode : (Ending.settings error).exitCode? = none := congrArg (Option.map fun _ => 1) hline
    refine ⟨hcode, ?_⟩
    unfold Report.early
    rw [hline]
    exact String.append_empty

theorem endsUnloaded_of_load {host : Host} {argv : List Text.Codes} {arguments : Arguments}
    (harguments : Arguments.ofList argv = .ok arguments) {error : Settings.LoadError}
    (herror : (Settings.load host arguments.config none (overrides arguments)).2 = .error error)
    (fuel : Nat) (console : Console) :
    EndsUnloaded (run fuel console argv host) (settingsLog console host arguments) error := by
  have hrun : run fuel console argv host =
      .early (settingsLog console host arguments) (.settings error) := by
    unfold run prepare
    rw [harguments]
    dsimp only
    rw [herror]
    rfl
  rw [hrun]
  exact endsUnloaded_early _ error

end Command

/-! ## Failures that are not reported -/

namespace Settings

/-- Where settings that are malformed do not surface as a refusal. -/
structure FailsExactly (document : Value) (environment : Environment)
    (overrides : List (Value × Value)) : Prop where
  load_eq : ∀ host path given, HoldsDocument host path document → Sees host given environment →
    (load host path given overrides).2 =
      fromDocument host.shownLevels (path.getD []) document environment overrides
  /-- Apart from what is reported, loading fails where the first entry that offends is
  infinite or cannot be shown. -/
  unreported_iff : ∀ levels path error,
    fromDocument levels path document environment overrides = .error error ∧ ¬ error.Reported ↔
      ∃ file, documentEntries path document = .ok file ∧
        EscapesFirst levels
          (file ++ (environmentEntries environment ++ givenOverrides overrides)) error
  /-- A value cannot be shown where a part of it is too long or lies too deep, … -/
  shown_iff : ∀ levels (value : Value), value.showError? levels = none ↔
    ∀ depth part error, value.Holds depth part → ¬ Value.Blamed levels depth part error
  /-- … and it is such a part that is blamed. -/
  blamed : ∀ levels (value : Value) error, value.showError? levels = some error →
    ∃ depth part, value.Holds depth part ∧ Value.Blamed levels depth part error
  /-- It is never a variable that escapes, … -/
  fromEnvironment : ∀ levels, ∀ entry ∈ environmentEntries environment, ∀ error,
    ¬ Escapes levels entry error
  /-- … nor an option of the command. -/
  fromOptions : ∀ levels arguments, overrides = Command.overrides arguments →
    ∀ entry ∈ overrides, ∀ error, ¬ Escapes levels entry error
  /-- A file that the system does not open is reported. -/
  unopened : ∀ host path given error, Sees host given environment → path ≠ [] →
    host.readFile path = .error (.system error) →
      (load host (some path) given overrides).2 = .error (.unopened (.system error))
  /-- The command ends with 1 and a line for what is reported, and else without an exit
  code. -/
  command : ∀ fuel console host argv arguments error, Arguments.ofList argv = .ok arguments →
    overrides = Command.overrides arguments →
      (load host arguments.config none overrides).2 = .error error →
        Command.EndsUnloaded (Command.run fuel console argv host)
          (Command.settingsLog console host arguments) error

/-- Whatever a document, an environment and overrides hold, settings are loaded from them, or
a refusal is reported, or the first entry that offends is one that escapes. -/
theorem failsExactly_fromDocument (document : Value) (environment : Environment)
    (overrides : List (Value × Value)) : FailsExactly document environment overrides := by
  constructor
  · intro host path given hdocument hsees
    rw [hsees.load_eq, hdocument.loadWith_eq]
  · exact fun levels path error => fromDocument_unreported_iff
  · exact fun levels value => Value.showError?_eq_none_iff
  · exact fun levels value error => Value.exists_blamed
  · exact fun levels entry hentry error => not_escapes_of_mem_environmentEntries hentry error
  · rintro levels arguments rfl entry hentry error
    exact not_escapes_of_mem_overrides hentry error
  · intro host path given error hsees hpath hfile
    exact load_of_unopened hsees hpath hfile overrides
  · rintro fuel console host argv arguments error harguments rfl herror
    exact Command.endsUnloaded_of_load harguments herror fuel console

/-- A file that gives an infinite number of cells. -/
def infiniteFile : List UInt8 := "max_cells: .inf".toList.map fun c => UInt8.ofNat c.toNat

/-- Whether what is read gives an infinite number of cells and nothing else. -/
def isInfiniteLimit : Except LoadError Value → Bool
  | .ok (.mapping [(.text key, .real (.infinite false))]) => key == "max_cells"
  | _ => false

theorem eq_of_isInfiniteLimit {read : Except LoadError Value} (h : isInfiniteLimit read = true) :
    read = .ok (.mapping [(.text "max_cells", .real (.infinite false))]) := by
  unfold isInfiniteLimit at h
  split at h
  · rw [eq_of_beq h]
  · cases h

theorem readDocument_infiniteFile :
    readDocument (.ofString "c.yaml") infiniteFile =
      .ok (.mapping [(.text "max_cells", .real (.infinite false))]) :=
  eq_of_isInfiniteLimit (by decide +kernel)

/-- An infinite number of cells is neither settings nor a refusal, and the command has no exit
code for it. -/
theorem load_of_infinite_unreported :
    let path : Text.Codes := .ofString "c.yaml"
    let host : Host :=
      { readFile := fun asked =>
          if asked = path then .ok infiniteFile else .error (.system (.fileNotFound asked)) }
    let report := Command.run 9 {} [.ofString "-", .ofString "--config", path] host
    HoldsDocument host (some path) (.mapping [(.text "max_cells", .real (.infinite false))]) ∧
      (load host (some path) (some []) []).2 = .error (.assign .infinite) ∧
        ¬ LoadError.Reported (.assign .infinite) ∧
          report.ending.exitCode? = none ∧ report.diagnostics = "" := by
  intro path host report
  have hdocument : HoldsDocument host (some path)
      (.mapping [(.text "max_cells", .real (.infinite false))]) :=
    .read (by decide) rfl readDocument_infiniteFile
  have hload : ∀ given, Sees host given [] → ∀ overrides,
      (load host (some path) given overrides).2 = .error (.assign .infinite) := by
    intro given hsees overrides
    rw [hsees.load_eq, hdocument.loadWith_eq]
    rfl
  have hreported : ¬ LoadError.Reported (.assign .infinite) := by
    intro h
    cases h
  have harguments : Arguments.ofList [.ofString "-", .ofString "--config", path] =
      .ok { program := .ofString "-", config := some path } := rfl
  have hends := Command.endsUnloaded_of_load harguments (hload none (.own rfl) _) 9 {}
  obtain ⟨hcode, hdiagnostics⟩ := hends.unreported hreported
  exact ⟨hdocument, hload _ (.given []) _, hreported, hcode, hdiagnostics⟩

end Settings

end TapeMachine
