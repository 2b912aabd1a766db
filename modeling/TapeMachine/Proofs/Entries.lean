/-
  Applying entries.

  Entries are applied one after another, and each of them is checked on its own: whether its
  key names a field, and whether its value suits the field.  Main statements: entries are
  applied exactly when each of them suits, and else the first one that offends tells the
  error; and of a mapping that is applied a field holds what the value of its key stands for,
  wherever in the mapping that key is.
-/
import TapeMachine.Proofs.FieldContents

set_option autoImplicit false

namespace TapeMachine

/-! ## Texts as keys -/

namespace Value

theorem sameKey_text_iff {key : Value} {name : String} :
    key.sameKey (.text name) = true ↔ key = .text name := by
  cases key <;> simp [sameKey, asInteger?]

theorem lookupText_cons_self (name : String) (value : Value) (rest : List (Value × Value)) :
    lookupText ((.text name, value) :: rest) name = some value := by
  simp [lookupText, sameKey]

theorem lookupText_cons_of_ne {key : Value} {name : String} (h : key ≠ .text name)
    (value : Value) (rest : List (Value × Value)) :
    lookupText ((key, value) :: rest) name = lookupText rest name := by
  have hkey : key.sameKey (.text name) = false :=
    Bool.eq_false_iff.2 fun hsame => h (sameKey_text_iff.1 hsame)
  simp [lookupText, hkey]

/-- No text is the key of two entries, as it is in every mapping. -/
def KeysDistinct (entries : List (Value × Value)) : Prop :=
  entries.Pairwise fun first second => ∀ name, first.1 = .text name → second.1 ≠ .text name

theorem KeysDistinct.perm {entries entries' : List (Value × Value)} (h : KeysDistinct entries)
    (hperm : entries.Perm entries') : KeysDistinct entries' := by
  refine hperm.pairwise h ?_
  intro first second hdistinct name hsecond hfirst
  exact hdistinct name hfirst hsecond

/-- A mapping gives a text the value of the entry with that key, wherever it stands. -/
theorem lookupText_eq_some_iff {entries : List (Value × Value)} (h : KeysDistinct entries)
    {name : String} {value : Value} :
    lookupText entries name = some value ↔ (.text name, value) ∈ entries := by
  induction entries with
  | nil => simp [lookupText]
  | cons entry rest ih =>
      obtain ⟨key, found⟩ := entry
      obtain ⟨hkey, hrest⟩ := List.pairwise_cons.1 h
      by_cases hname : key = .text name
      · subst hname
        have hother : (.text name, value) ∉ rest := fun hmem => hkey _ hmem name rfl rfl
        rw [lookupText_cons_self]
        simp [hother, eq_comm]
      · rw [lookupText_cons_of_ne hname, ih hrest]
        simp [Ne.symm hname]

theorem lookupText_perm {entries entries' : List (Value × Value)} (h : KeysDistinct entries)
    (hperm : entries.Perm entries') (name : String) :
    lookupText entries' name = lookupText entries name := by
  ext value
  rw [lookupText_eq_some_iff h, lookupText_eq_some_iff (h.perm hperm), hperm.mem_iff]

end Value

open Value (KeysDistinct)

namespace Settings

/-! ## One entry -/

/-- The entry can be applied: its key names a field, and its value stands for something that
the field can hold. -/
inductive Suits : Value × Value → Prop
  | named {field : Field} {value : Value} {content : field.Content}
      (h : coerce field value = .ok content) : Suits (.text field.name, value)

/-- The entry is refused with an error. -/
inductive Offends : Value × Value → AssignError → Prop
  /-- Its key names no field. -/
  | unknown {key : Value} (value : Value) (h : ∀ field : Field, key ≠ .text field.name) :
      Offends (key, value) (.refused (.unknown key))
  /-- Its value does not suit the field. -/
  | unsuited {field : Field} {value : Value} {error : AssignError}
      (h : coerce field value = .error error) : Offends (.text field.name, value) error

theorem eq_name_of_ofName? {name : String} {field : Field} (h : Field.ofName? name = some field) :
    name = field.name := by
  have hfound := List.find?_some h
  exact (beq_iff_eq.1 hfound).symm

theorem fieldOf_name (field : Field) : fieldOf (.text field.name) = .ok field := by
  unfold fieldOf
  dsimp only
  rw [Field.ofName?_name]

theorem fieldOf_of_unknown {key : Value} (h : ∀ field : Field, key ≠ .text field.name) :
    fieldOf key = .error (.refused (.unknown key)) := by
  unfold fieldOf
  cases key with
  | text name =>
      have hnone : Field.ofName? name = none := by
        cases hfound : Field.ofName? name with
        | none => rfl
        | some field => exact absurd (congrArg Value.text (eq_name_of_ofName? hfound)) (h field)
      dsimp only
      rw [hnone]
  | null | boolean | integer | real | brokenText | bytes | date | moment | list | pairs | mapping
  | set | enclosing => rfl

theorem applyEntry_name (settings : Settings) (field : Field) (value : Value) :
    settings.applyEntry (.text field.name, value) =
      (coerce field value).map (settings.withContent field) := by
  rw [← assign_eq_map_coerce]
  unfold applyEntry
  rw [fieldOf_name]
  rfl

theorem Offends.applyEntry_eq {entry : Value × Value} {error : AssignError}
    (h : Offends entry error) (settings : Settings) :
    settings.applyEntry entry = .error error := by
  cases h with
  | unknown value hkey =>
      unfold applyEntry
      rw [fieldOf_of_unknown hkey]
      rfl
  | unsuited hvalue =>
      rw [applyEntry_name, hvalue]
      rfl

/-- An entry suits, or it offends. -/
theorem suits_or_offends (entry : Value × Value) : Suits entry ∨ ∃ error, Offends entry error := by
  obtain ⟨key, value⟩ := entry
  by_cases hkey : ∃ field : Field, key = .text field.name
  · obtain ⟨field, rfl⟩ := hkey
    cases hvalue : coerce field value with
    | ok content => exact Or.inl (.named hvalue)
    | error error => exact Or.inr ⟨error, .unsuited hvalue⟩
  · exact Or.inr ⟨_, .unknown value fun field hname => hkey ⟨field, hname⟩⟩

/-- Entries of different fields have different keys. -/
theorem keysDistinct_filterMap {entryOf : Field → Option (Value × Value)}
    (h : ∀ field entry, entryOf field = some entry → entry.1 = .text field.name) :
    KeysDistinct (Field.all.filterMap entryOf) := by
  have hfields : Field.all.Pairwise (· ≠ ·) := by decide
  unfold KeysDistinct
  rw [List.pairwise_filterMap]
  refine hfields.imp ?_
  intro field other hne entry hentry entry' hentry' name hname hname'
  have hfield := (h field entry hentry).symm.trans hname
  have hother := (h other entry' hentry').symm.trans hname'
  exact hne (Field.name_injective (Value.text.inj (hfield.trans hother.symm)))

/-! ## Entries in order -/

/-- The first of the entries that offends does so with the error. -/
inductive FirstOffence : List (Value × Value) → AssignError → Prop
  | here {entry : Value × Value} {error : AssignError} (h : Offends entry error)
      (rest : List (Value × Value)) : FirstOffence (entry :: rest) error
  | behind {entry : Value × Value} {rest : List (Value × Value)} {error : AssignError}
      (hentry : Suits entry) (hrest : FirstOffence rest error) : FirstOffence (entry :: rest) error

theorem all_suit_or_firstOffence (entries : List (Value × Value)) :
    (∀ entry ∈ entries, Suits entry) ∨ ∃ error, FirstOffence entries error := by
  induction entries with
  | nil => exact Or.inl fun entry hentry => absurd hentry List.not_mem_nil
  | cons entry rest ih =>
      rcases suits_or_offends entry with hsuits | ⟨error, hoffends⟩
      · rcases ih with hrest | ⟨error, hrest⟩
        · exact Or.inl (List.forall_mem_cons.2 ⟨hsuits, hrest⟩)
        · exact Or.inr ⟨error, .behind hsuits hrest⟩
      · exact Or.inr ⟨error, .here hoffends rest⟩

theorem firstOffence_append_iff {entries behind : List (Value × Value)} {error : AssignError} :
    FirstOffence (entries ++ behind) error ↔
      FirstOffence entries error ∨
        (∀ entry ∈ entries, Suits entry) ∧ FirstOffence behind error := by
  induction entries with
  | nil =>
      constructor
      · exact fun h => Or.inr ⟨fun entry hentry => absurd hentry List.not_mem_nil, h⟩
      · rintro (h | ⟨_, h⟩)
        · cases h
        · exact h
  | cons entry rest ih =>
      constructor
      · intro h
        cases h with
        | here hoffends => exact Or.inl (.here hoffends rest)
        | behind hentry hrest =>
            rcases ih.1 hrest with hrest | ⟨hsuit, hbehind⟩
            · exact Or.inl (.behind hentry hrest)
            · exact Or.inr ⟨List.forall_mem_cons.2 ⟨hentry, hsuit⟩, hbehind⟩
      · rintro (h | ⟨hsuit, hbehind⟩)
        · cases h with
          | here hoffends => exact .here hoffends _
          | behind hentry hrest => exact .behind hentry (ih.2 (Or.inl hrest))
        · obtain ⟨hentry, hrest⟩ := List.forall_mem_cons.1 hsuit
          exact .behind hentry (ih.2 (Or.inr ⟨hrest, hbehind⟩))

theorem apply_cons (settings : Settings) (entry : Value × Value) (rest : List (Value × Value)) :
    settings.apply (entry :: rest) = settings.applyEntry entry >>= fun s => s.apply rest :=
  List.foldlM_cons

theorem apply_cons_name (settings : Settings) {field : Field} {value : Value}
    {content : field.Content} (h : coerce field value = .ok content)
    (rest : List (Value × Value)) :
    settings.apply ((.text field.name, value) :: rest) =
      (settings.withContent field content).apply rest := by
  rw [apply_cons, applyEntry_name, h]
  rfl

theorem FirstOffence.apply_eq {entries : List (Value × Value)} {error : AssignError}
    (h : FirstOffence entries error) (settings : Settings) :
    settings.apply entries = .error error := by
  induction h generalizing settings with
  | here hoffends rest =>
      rw [apply_cons, hoffends.applyEntry_eq]
      rfl
  | behind hentry _ ih =>
      cases hentry with
      | named hvalue =>
          rw [apply_cons_name settings hvalue]
          exact ih _

theorem exists_apply_of_all_suit {entries : List (Value × Value)}
    (h : ∀ entry ∈ entries, Suits entry) (settings : Settings) :
    ∃ after, settings.apply entries = .ok after := by
  induction entries generalizing settings with
  | nil => exact ⟨settings, rfl⟩
  | cons entry rest ih =>
      obtain ⟨hentry, hrest⟩ := List.forall_mem_cons.1 h
      cases hentry with
      | named hvalue =>
          rw [apply_cons_name settings hvalue]
          exact ih hrest _

/-- Entries are applied exactly when each of them suits, whatever the settings are. -/
theorem exists_apply_iff {settings : Settings} {entries : List (Value × Value)} :
    (∃ after, settings.apply entries = .ok after) ↔ ∀ entry ∈ entries, Suits entry := by
  constructor
  · rintro ⟨after, hafter⟩
    rcases all_suit_or_firstOffence entries with hsuit | ⟨error, hoffence⟩
    · exact hsuit
    · rw [hoffence.apply_eq] at hafter
      cases hafter
  · exact fun h => exists_apply_of_all_suit h settings

/-- Entries are refused with the error of the first one that offends. -/
theorem apply_eq_error_iff {settings : Settings} {entries : List (Value × Value)}
    {error : AssignError} :
    settings.apply entries = .error error ↔ FirstOffence entries error := by
  constructor
  · intro herror
    rcases all_suit_or_firstOffence entries with hsuit | ⟨error', hoffence⟩
    · obtain ⟨after, hafter⟩ := exists_apply_of_all_suit hsuit settings
      rw [hafter] at herror
      cases herror
    · have hsame := hoffence.apply_eq settings
      rw [herror] at hsame
      cases hsame
      exact hoffence
  · exact fun h => h.apply_eq settings

/-! ## Mappings -/

/-- A field holds what the given value stands for, or without one what it held below. -/
def Determined (field : Field) (given : Option Value) (below content : field.Content) : Prop :=
  match given with
  | none => content = below
  | some value => coerce field value = .ok content

theorem Determined.unique {field : Field} {given : Option Value}
    {below content content' : field.Content} (h : Determined field given below content)
    (h' : Determined field given below content') : content' = content := by
  cases given with
  | none => exact Eq.trans h' (Eq.symm h)
  | some value =>
      have hsame := Eq.trans (Eq.symm h') h
      exact Except.ok.inj hsame

/-- What counts over something below counts over what is below that. -/
theorem Determined.trans {field : Field} {upper lower : Option Value}
    {bottom below content : field.Content} (hlower : Determined field lower bottom below)
    (hupper : Determined field upper below content) :
    Determined field (upper.or lower) bottom content := by
  cases upper with
  | none =>
      obtain rfl : content = below := hupper
      exact hlower
  | some value => exact hupper

/-- A mapping that is applied leaves in each field what the value of its name stands for;
fields that it does not name stay as they were. -/
theorem determined_of_apply {settings after : Settings} {entries : List (Value × Value)}
    (hkeys : KeysDistinct entries) (h : settings.apply entries = .ok after) (field : Field) :
    Determined field (Value.lookupText entries field.name) (settings.content field)
      (after.content field) := by
  have hsuit : ∀ entry ∈ entries, Suits entry := exists_apply_iff.1 ⟨after, h⟩
  induction entries generalizing settings with
  | nil =>
      obtain rfl : settings = after := Except.ok.inj h
      exact rfl
  | cons entry rest ih =>
      obtain ⟨hkey, hdistinct⟩ := List.pairwise_cons.1 hkeys
      obtain ⟨hentry, hrest⟩ := List.forall_mem_cons.1 hsuit
      cases hentry with
      | @named named value content hvalue =>
          rw [apply_cons_name settings hvalue] at h
          have hbehind := ih hdistinct h hrest
          by_cases hfield : named = field
          · -- the name does not come again behind the entry
            subst hfield
            have hnone : Value.lookupText rest named.name = none := by
              rw [Option.eq_none_iff_forall_ne_some]
              intro found hfound
              exact hkey _ ((Value.lookupText_eq_some_iff hdistinct).1 hfound) _ rfl rfl
            rw [hnone, content_withContent] at hbehind
            have hcontent : after.content named = content := hbehind
            rw [Value.lookupText_cons_self, hcontent]
            exact hvalue
          · have hname : Value.text named.name ≠ .text field.name :=
              fun hsame => hfield (Field.name_injective (Value.text.inj hsame))
            rw [content_withContent_of_ne settings (Ne.symm hfield)] at hbehind
            rwa [Value.lookupText_cons_of_ne hname]

end Settings

end TapeMachine
