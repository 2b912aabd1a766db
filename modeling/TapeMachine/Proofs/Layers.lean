/-
  Layers of settings.

  A settings file, the environment of the process, an environment file and overrides lie over
  the defaults.  Main statement: the layers are loaded exactly when all that is in them suits,
  also what a higher layer hides, and then a field holds what the highest layer says that
  names it, whatever the layers say of other fields and in whichever order they say it.  Else
  the lowest layer in which something offends tells the error.  The environment file is no
  layer of its own in this: a variable that the process sets is not looked at in it.
-/
import TapeMachine.Proofs.SettingsSources

set_option autoImplicit false

namespace TapeMachine.Settings

open Value (KeysDistinct)

/-! ## Layers -/

/-- The layers of settings over the defaults, from the lowest to the highest. -/
structure Layers where
  /-- The entries of the settings file. -/
  file : List (Value × Value) := []
  /-- The variables of the environment file; some may be named without a value. -/
  envFile : Variables (Option Text.Codes) := []
  /-- The variables of the process. -/
  process : Environment := []
  overrides : List (Value × Value) := []

namespace Layers

/-- The entries that the variables make, in the order of the fields. -/
def environment (layers : Layers) : List (Value × Value) :=
  Field.all.filterMap fun field =>
    (variableText layers.process layers.envFile field.variableName).map fun text =>
      (.text field.name, .ofCodes text)

/-- The override of a field; one that is null is none. -/
def override? (layers : Layers) (field : Field) : Option Value :=
  match Value.lookupText layers.overrides field.name with
  | some .null => none
  | found => found

/-- The value of a field in the highest layer that has one. -/
def highest? (layers : Layers) (field : Field) : Option Value :=
  (layers.override? field).or <|
    ((layers.process.value? field.variableName).map Value.ofCodes).or <|
      ((layers.envFile.value? field.variableName).join.map Value.ofCodes).or <|
        Value.lookupText layers.file field.name

/-- The settings that the layers make. -/
def merged (layers : Layers) : Except AssignError Settings :=
  merge layers.file layers.environment layers.overrides

/-- These are the layers that a host has for the given path and environment. -/
structure HeldBy (layers : Layers) (host : Host) (path : Option Text.Codes)
    (given : Option Environment) : Prop where
  file : ∃ document, HoldsDocument host path document ∧
    documentEntries (path.getD []) document = .ok layers.file
  sources : HoldsVariables host given layers.process layers.envFile

variable {layers : Layers}

theorem mem_environment_iff {entry : Value × Value} :
    entry ∈ layers.environment ↔ ∃ (field : Field) (text : Text.Codes),
      variableText layers.process layers.envFile field.variableName = some text ∧
        entry = (.text field.name, .ofCodes text) := by
  unfold environment
  rw [List.mem_filterMap]
  constructor
  · rintro ⟨field, _, hentry⟩
    obtain ⟨text, htext, rfl⟩ := Option.map_eq_some_iff.1 hentry
    exact ⟨field, text, htext, rfl⟩
  · rintro ⟨field, text, htext, rfl⟩
    exact ⟨field, field.mem_all, by rw [htext]; rfl⟩

theorem keysDistinct_environment (layers : Layers) : KeysDistinct layers.environment := by
  apply keysDistinct_filterMap
  intro field entry hentry
  obtain ⟨_, _, rfl⟩ := Option.map_eq_some_iff.1 hentry
  rfl

theorem lookupText_environment (layers : Layers) (field : Field) :
    Value.lookupText layers.environment field.name =
      (variableText layers.process layers.envFile field.variableName).map Value.ofCodes := by
  ext value
  rw [Value.lookupText_eq_some_iff (keysDistinct_environment layers), mem_environment_iff,
    Option.map_eq_some_iff]
  constructor
  · rintro ⟨field', text, htext, hentry⟩
    obtain ⟨hname, rfl⟩ := Prod.mk.inj hentry
    obtain rfl := Field.name_injective (Value.text.inj hname)
    exact ⟨text, htext, rfl⟩
  · rintro ⟨text, htext, rfl⟩
    exact ⟨field, text, htext, rfl⟩

theorem mem_givenOverrides_iff {overrides : List (Value × Value)} {entry : Value × Value} :
    entry ∈ givenOverrides overrides ↔ entry ∈ overrides ∧ entry.2 ≠ .null := by
  unfold givenOverrides
  rw [List.mem_filter]
  obtain ⟨key, value⟩ := entry
  cases value <;> simp

theorem lookupText_givenOverrides (h : KeysDistinct layers.overrides) (field : Field) :
    Value.lookupText (givenOverrides layers.overrides) field.name = layers.override? field := by
  have hgiven : KeysDistinct (givenOverrides layers.overrides) := List.Pairwise.filter _ h
  ext value
  rw [Value.lookupText_eq_some_iff hgiven, mem_givenOverrides_iff,
    ← Value.lookupText_eq_some_iff h]
  unfold override?
  cases Value.lookupText layers.overrides field.name with
  | none => simp
  | some found => cases found <;> cases value <;> simp

/-- A host loads the settings that its layers make. -/
theorem HeldBy.load_eq {host : Host} {path : Option Text.Codes} {given : Option Environment}
    (h : layers.HeldBy host path given) :
    (load host path given layers.overrides).2 =
      ofAssigned host.shownLevels layers.merged := by
  obtain ⟨document, hdocument, hentries⟩ := h.file
  obtain ⟨environment, hsees, hvalue⟩ := h.sources.exists_sees
  have henvironment : environmentEntries environment = layers.environment := by
    simp only [environmentEntries, ofEnvironment, Layers.environment, List.map_filterMap, hvalue,
      Option.map_map, Function.comp_def]
  rw [hsees.load_eq, hdocument.loadWith_eq]
  unfold fromDocument
  rw [hentries, henvironment]
  rfl

/-! ## Errors of layers -/

/-- The lowest layer in which an entry offends is refused with the error of the first such
entry. -/
inductive LowestOffence (layers : Layers) (error : AssignError) : Prop
  | file (h : FirstOffence layers.file error)
  | environment (hfile : ∀ entry ∈ layers.file, Suits entry)
      (h : FirstOffence layers.environment error)
  | overrides (hfile : ∀ entry ∈ layers.file, Suits entry)
      (henvironment : ∀ entry ∈ layers.environment, Suits entry)
      (h : FirstOffence (givenOverrides layers.overrides) error)

theorem merged_eq_error_iff {error : AssignError} :
    layers.merged = .error error ↔ layers.LowestOffence error := by
  rw [merged, merge_eq_apply, apply_eq_error_iff, firstOffence_append_iff, firstOffence_append_iff]
  constructor
  · rintro (h | ⟨hfile, h | ⟨henvironment, h⟩⟩)
    · exact .file h
    · exact .environment hfile h
    · exact .overrides hfile henvironment h
  · intro h
    cases h with
    | file h => exact Or.inl h
    | environment hfile h => exact Or.inr ⟨hfile, Or.inl h⟩
    | overrides hfile henvironment h => exact Or.inr ⟨hfile, Or.inr ⟨henvironment, h⟩⟩

/-- The variables that are looked at suit their fields. -/
def VariablesSuit (layers : Layers) : Prop :=
  ∀ (field : Field) (text : Text.Codes),
    variableText layers.process layers.envFile field.variableName = some text →
      Suits (.text field.name, .ofCodes text)

theorem exists_merged_iff :
    (∃ settings, layers.merged = .ok settings) ↔
      (∀ entry ∈ layers.file, Suits entry) ∧ layers.VariablesSuit ∧
        ∀ entry ∈ layers.overrides, entry.2 ≠ .null → Suits entry := by
  rw [merged, merge_eq_apply, exists_apply_iff, List.forall_mem_append, List.forall_mem_append]
  refine and_congr_right' (and_congr ?_ ?_)
  · constructor
    · exact fun h field text htext => h _ (mem_environment_iff.2 ⟨field, text, htext, rfl⟩)
    · intro h entry hentry
      obtain ⟨field, text, htext, rfl⟩ := mem_environment_iff.1 hentry
      exact h field text htext
  · constructor
    · exact fun h entry hentry hnull => h entry (mem_givenOverrides_iff.2 ⟨hentry, hnull⟩)
    · intro h entry hentry
      obtain ⟨hmem, hnull⟩ := mem_givenOverrides_iff.1 hentry
      exact h entry hmem hnull

/-- A field holds what the highest layer says that names it, or else its default. -/
theorem determined_of_merged (hfile : KeysDistinct layers.file)
    (hoverrides : KeysDistinct layers.overrides) {settings : Settings}
    (h : layers.merged = .ok settings) (field : Field) :
    Determined field (layers.highest? field) (({} : Settings).content field)
      (settings.content field) := by
  obtain ⟨withFile, hwithFile, h⟩ := exists_of_bind_eq_ok h
  obtain ⟨withVariables, hwithVariables, h⟩ := exists_of_bind_eq_ok h
  have hlowest := determined_of_apply hfile hwithFile field
  have hmiddle := determined_of_apply (keysDistinct_environment layers) hwithVariables field
  have hhighest := determined_of_apply (List.Pairwise.filter _ hoverrides) h field
  have hall := (hlowest.trans hmiddle).trans hhighest
  rw [lookupText_environment] at hall
  have hover := lookupText_givenOverrides hoverrides field
  unfold givenOverrides at hover
  rw [hover] at hall
  unfold variableText at hall
  unfold highest?
  cases hprocess : layers.process.value? field.variableName with
  | none =>
      rw [hprocess] at hall
      exact hall
  | some text =>
      rw [hprocess] at hall
      exact hall

/-! ## Loading layers -/

/-- The layers say the same, in whatever order each of them says it. -/
structure SayTheSame (layers layers' : Layers) : Prop where
  file : layers'.file.Perm layers.file
  process : ∀ name, layers'.process.value? name = layers.process.value? name
  envFile : ∀ name, layers'.envFile.value? name = layers.envFile.value? name
  overrides : layers'.overrides.Perm layers.overrides

/-- What settings come out of layers, or else which error. -/
structure Layered (layers : Layers) : Prop where
  /-- Whatever a host has its layers from, it loads what the layers make. -/
  load_eq : ∀ host path given, layers.HeldBy host path given →
    (load host path given layers.overrides).2 = ofAssigned host.shownLevels layers.merged
  /-- What the process sets to a text is this text in the layers. -/
  process_eq : ∀ host path, layers.HeldBy host path none → ∀ name bytes text,
    host.environment.value? name = some bytes → Encoding.Utf8.decode bytes = .ok text →
      layers.process.value? name = some (text.map .char)
  /-- All that is in a layer is looked at, but for null overrides and for variables of the
  environment file that the process sets. -/
  loads_iff : (∃ settings, layers.merged = .ok settings) ↔
    (∀ entry ∈ layers.file, Suits entry) ∧ layers.VariablesSuit ∧
      ∀ entry ∈ layers.overrides, entry.2 ≠ .null → Suits entry
  determined : ∀ settings, layers.merged = .ok settings → ∀ field,
    Determined field (layers.highest? field) (({} : Settings).content field)
      (settings.content field)
  /-- A field holds the same as long as the layers say the same of it. -/
  independent : ∀ (layers' : Layers) (field : Field) (settings settings' : Settings),
    KeysDistinct layers'.file → KeysDistinct layers'.overrides →
      layers.merged = .ok settings → layers'.merged = .ok settings' →
        layers'.highest? field = layers.highest? field →
          settings'.content field = settings.content field
  /-- The order inside a layer does not matter. -/
  unordered : ∀ layers', SayTheSame layers layers' → ∀ settings,
    layers'.merged = .ok settings ↔ layers.merged = .ok settings
  /-- Where there shall be no limit, there is none, whatever lower layers say. -/
  unlimited : ∀ settings value, layers.merged = .ok settings →
    layers.highest? .maxCells = some value → isNoLimit value = true → settings.maxCells = none
  error_iff : ∀ error, layers.merged = .error error ↔ layers.LowestOffence error

theorem SayTheSame.symm {layers' : Layers} (h : SayTheSame layers layers') :
    SayTheSame layers' layers :=
  ⟨h.file.symm, fun name => (h.process name).symm, fun name => (h.envFile name).symm,
    h.overrides.symm⟩

theorem SayTheSame.highest?_eq {layers' : Layers} (h : SayTheSame layers layers')
    (hfile : KeysDistinct layers.file) (hoverrides : KeysDistinct layers.overrides)
    (field : Field) : layers'.highest? field = layers.highest? field := by
  unfold highest? override?
  rw [Value.lookupText_perm hfile h.file.symm, Value.lookupText_perm hoverrides h.overrides.symm,
    h.process, h.envFile]

theorem SayTheSame.merged_eq {layers' : Layers} (h : SayTheSame layers layers')
    (hfile : KeysDistinct layers.file) (hoverrides : KeysDistinct layers.overrides)
    {settings : Settings} (hmerged : layers.merged = .ok settings) :
    layers'.merged = .ok settings := by
  obtain ⟨hfiles, hvariables, hgiven⟩ := exists_merged_iff.1 ⟨settings, hmerged⟩
  have hloads : ∃ settings', layers'.merged = .ok settings' := by
    refine exists_merged_iff.2 ⟨?_, ?_, ?_⟩
    · exact fun entry hentry => hfiles entry (h.file.mem_iff.1 hentry)
    · intro field text htext
      unfold variableText at htext
      rw [h.process, h.envFile] at htext
      exact hvariables field text htext
    · exact fun entry hentry => hgiven entry (h.overrides.mem_iff.1 hentry)
  obtain ⟨settings', hmerged'⟩ := hloads
  have hsame : settings' = settings := by
    apply eq_of_content_eq
    intro field
    have hdetermined := determined_of_merged (hfile.perm h.file.symm)
      (hoverrides.perm h.overrides.symm) hmerged' field
    rw [h.highest?_eq hfile hoverrides] at hdetermined
    exact (determined_of_merged hfile hoverrides hmerged field).unique hdetermined
  rwa [hsame] at hmerged'

/-- Layers that are mappings are loaded as a whole or refused, and a field holds what the
highest of them says. -/
theorem layered_of_keysDistinct (hfile : KeysDistinct layers.file)
    (hoverrides : KeysDistinct layers.overrides) : Layered layers := by
  constructor
  · exact fun host path given h => h.load_eq
  · intro host path h name bytes text hvalue htext
    rw [h.sources.process_eq]
    exact RawEnvironment.value?_read hvalue htext
  · exact exists_merged_iff
  · exact fun settings h => determined_of_merged hfile hoverrides h
  · intro layers' field settings settings' hfile' hoverrides' h h' hsame
    have hdetermined := determined_of_merged hfile' hoverrides' h' field
    rw [hsame] at hdetermined
    exact (determined_of_merged hfile hoverrides h field).unique hdetermined
  · intro layers' h settings
    constructor
    · exact h.symm.merged_eq (hfile.perm h.file.symm) (hoverrides.perm h.overrides.symm)
    · exact h.merged_eq hfile hoverrides
  · intro settings value h hhighest hvalue
    have hdetermined := determined_of_merged hfile hoverrides h .maxCells
    rw [hhighest] at hdetermined
    have hcoerce : coerce .maxCells value = .ok none := if_pos hvalue
    exact (Except.ok.inj (hcoerce.symm.trans hdetermined)).symm
  · exact fun error => merged_eq_error_iff

/-- The file limits the cells, and the environment file takes the limit away again; what it
says of the first cells is hidden by the process.  An encoding may have any name. -/
theorem layered_of_keysDistinct_mixed :
    let layers : Layers :=
      { file := [(.text "log_level", .text "info"), (.text "max_cells", .integer 100)]
        envFile := [("BYTETAPE_MAX_CELLS", some (.ofString "none")),
          ("BYTETAPE_INITIAL_CELLS", some (.ofString "few"))]
        process := [("BYTETAPE_INITIAL_CELLS", .ofString "16")]
        overrides :=
          [(.text "log_level", .null), (.text "encoding", .ofCodes [.half 0xD800 rfl])] }
    KeysDistinct layers.file ∧ KeysDistinct layers.overrides ∧ Layered layers ∧
      layers.merged =
        .ok { initialCells := 16, logLevel := .info, encoding := [.half 0xD800 rfl] } := by
  intro layers
  have hfile : KeysDistinct layers.file := by simp [KeysDistinct, layers]
  have hoverrides : KeysDistinct layers.overrides := by simp [KeysDistinct, layers]
  exact ⟨hfile, hoverrides, layered_of_keysDistinct hfile hoverrides, rfl⟩

/-- The environment file gives a limit that is none, and yet the settings are loaded, since
the process gives another one. -/
theorem load_of_hidden_variable :
    let host : Host :=
      { readFile := fun path => .error (.system (.fileNotFound path))
        envFile := some ("BYTETAPE_MAX_CELLS=lots".toList.map fun c => UInt8.ofNat c.toNat)
        environment := [("BYTETAPE_MAX_CELLS", [0x39])] }
    let layers : Layers :=
      { envFile := [("BYTETAPE_MAX_CELLS", some (.ofString "lots"))]
        process := [("BYTETAPE_MAX_CELLS", .ofString "9")] }
    layers.HeldBy host none none ∧
      (∃ error, Offends (.text "max_cells", .text "lots") error) ∧
        (load host none none layers.overrides).2 = .ok { maxCells := some 9 } := by
  intro host layers
  have hload : EnvFile.load host.environment (EnvFile.parse
      (Text.unifyLines "BYTETAPE_MAX_CELLS=lots".toList)) = .ok host.environment := rfl
  have hheld : layers.HeldBy host none none :=
    ⟨⟨.null, .unasked, rfl⟩, .extended rfl rfl hload⟩
  have hcoerce : coerce .maxCells (.text "lots") =
      .error (.refused (.notInteger .maxCells (.text "lots"))) := rfl
  exact ⟨hheld, ⟨_, .unsuited hcoerce⟩, rfl⟩

end Layers

end TapeMachine.Settings
