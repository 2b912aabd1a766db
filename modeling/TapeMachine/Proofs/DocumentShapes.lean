/-
  Shapes of settings documents.

  A document gives settings by its shape: none when it is empty, its own entries when it is a
  mapping, and those of its section when it has one.  Main statement: settings are loaded
  from a document exactly when it has one of these shapes and each of its entries suits, and
  what stands beside a section does not matter.  Any other document is refused, but for one
  kind: a section that counts as empty gives no settings, also when it is no mapping.
-/
import TapeMachine.Proofs.SettingsSources

set_option autoImplicit false

namespace TapeMachine

/-! ## Values that count as empty -/

namespace Binary64

theorem signedMantissa_eq_zero_iff {negative : Bool} {mantissa : Nat} :
    signedMantissa negative mantissa = 0 ↔ mantissa = 0 := by
  unfold signedMantissa
  split
  · omega
  · omega

/-- Only a zero, of either sign, equals zero. -/
theorem equalsInt_zero_iff {x : Binary64} :
    x.equalsInt 0 = true ↔ ∃ negative exponent, x = .finite negative 0 exponent := by
  constructor
  · intro h
    cases x with
    | nan | infinite => cases h
    | finite negative mantissa exponent =>
        obtain ⟨htruncate, hwhole⟩ := Bool.and_eq_true_iff.1 h
        have hmagnitude := signedMantissa_eq_zero_iff.1 (eq_of_beq htruncate)
        have hzero : mantissa = 0 := by
          split at hmagnitude
          · exact (Nat.mul_eq_zero.1 hmagnitude).resolve_right (Nat.ne_of_gt (Nat.two_pow_pos _))
          · rename_i hexponent
            have hrest := (Bool.or_eq_true_iff.1 hwhole).resolve_left (by simpa using hexponent)
            rw [← Nat.div_add_mod mantissa (Nat.pow 2 (-exponent).toNat), hmagnitude,
              eq_of_beq hrest, Nat.mul_zero]
        exact ⟨negative, exponent, by rw [hzero]⟩
  · rintro ⟨negative, exponent, rfl⟩
    simp [equalsInt, truncate, signedMantissa_eq_zero_iff]

end Binary64

namespace Value

/-- A value that counts as empty, and is a value and no mapping. -/
inductive Hollow : Value → Prop
  | no : Hollow (.boolean false)
  | zero : Hollow (.integer 0)
  | realZero (negative : Bool) (exponent : Int) : Hollow (.real (.finite negative 0 exponent))
  | text : Hollow (.text "")
  | bytes : Hollow (.bytes [])
  | list : Hollow (.list [])
  | pairs : Hollow (.pairs [])
  | set : Hollow (.set [])

theorem isEmpty_iff {value : Value} :
    value.isEmpty = true ↔ value = .null ∨ value = .mapping [] ∨ value.Hollow := by
  constructor
  · intro h
    cases value with
    | null => exact Or.inl rfl
    | mapping entries =>
        rw [isEmpty, List.isEmpty_iff] at h
        exact Or.inr (Or.inl (congrArg mapping h))
    | boolean value =>
        cases value with
        | false => exact Or.inr (Or.inr .no)
        | true => cases h
    | integer value =>
        obtain rfl : value = 0 := eq_of_beq h
        exact Or.inr (Or.inr .zero)
    | real value =>
        obtain ⟨negative, exponent, rfl⟩ := Binary64.equalsInt_zero_iff.1 h
        exact Or.inr (Or.inr (.realZero negative exponent))
    | text value =>
        obtain rfl : value = "" := eq_of_beq h
        exact Or.inr (Or.inr .text)
    | bytes value =>
        obtain rfl : value = [] := List.isEmpty_iff.1 h
        exact Or.inr (Or.inr .bytes)
    | list items =>
        obtain rfl : items = [] := List.isEmpty_iff.1 h
        exact Or.inr (Or.inr .list)
    | pairs entries =>
        obtain rfl : entries = [] := List.isEmpty_iff.1 h
        exact Or.inr (Or.inr .pairs)
    | set members =>
        obtain rfl : members = [] := List.isEmpty_iff.1 h
        exact Or.inr (Or.inr .set)
    | brokenText | date | moment | enclosing => cases h
  · rintro (rfl | rfl | h)
    · rfl
    · rfl
    · cases h with
      | realZero negative exponent =>
          exact Binary64.equalsInt_zero_iff.2 ⟨negative, exponent, rfl⟩
      | no | zero | text | bytes | list | pairs | set => rfl

end Value

namespace Settings

open Value (KeysDistinct)

/-! ## Shapes -/

/-- The entries that a document gives by its shape. -/
inductive Gives : Value → List (Value × Value) → Prop
  /-- An empty document gives none. -/
  | empty : Gives .null []
  /-- A mapping without the section gives its own. -/
  | own {entries : List (Value × Value)}
      (hkey : Value.lookupText entries sectionKey = none) : Gives (.mapping entries) entries
  /-- An empty section gives none, … -/
  | emptySection {entries : List (Value × Value)}
      (hkey : Value.lookupText entries sectionKey = some .null) : Gives (.mapping entries) []
  /-- … and a section that is a mapping gives its own. -/
  | ofSection {entries inner : List (Value × Value)}
      (hkey : Value.lookupText entries sectionKey = some (.mapping inner)) :
      Gives (.mapping entries) inner

/-- The document has a section that counts as empty, but is neither empty nor a mapping. -/
inductive HollowSection : Value → Prop
  | intro {entries : List (Value × Value)} {inner : Value}
      (hkey : Value.lookupText entries sectionKey = some inner) (hinner : inner.Hollow) :
      HollowSection (.mapping entries)

/-- The document is refused for its shape. -/
inductive Misshapen (path : Text.Codes) : Value → Refusal → Prop
  | document {document : Value} (hnull : document ≠ .null)
      (hmapping : ∀ entries, document ≠ .mapping entries) :
      Misshapen path document (.notMapping path)
  | ofSection {entries : List (Value × Value)} {inner : Value}
      (hkey : Value.lookupText entries sectionKey = some inner) (hnull : inner ≠ .null)
      (hmapping : ∀ entries, inner ≠ .mapping entries) (hhollow : ¬ inner.Hollow) :
      Misshapen path (.mapping entries) (.sectionNotMapping path)

section Documents

variable {path : Text.Codes} {document : Value} {entries : List (Value × Value)} {refusal : Refusal}

theorem Gives.documentEntries_eq (h : Gives document entries) (path : Text.Codes) :
    documentEntries path document = .ok entries := by
  unfold documentEntries
  cases h with
  | empty => rfl
  | own hkey =>
      dsimp only
      rw [hkey]
  | emptySection hkey =>
      dsimp only
      rw [hkey]
      rfl
  | ofSection hkey =>
      dsimp only
      rw [hkey]
      dsimp only
      split
      · rename_i hempty
        rw [Value.isEmpty, List.isEmpty_iff] at hempty
        rw [hempty]
      · rfl

theorem HollowSection.documentEntries_eq (h : HollowSection document) (path : Text.Codes) :
    documentEntries path document = .ok [] := by
  obtain ⟨hkey, hinner⟩ := h
  unfold documentEntries
  dsimp only
  rw [hkey]
  exact if_pos (Value.isEmpty_iff.2 (Or.inr (Or.inr hinner)))

/-- By its shape such a document gives nothing, not even no entries. -/
theorem HollowSection.not_gives (h : HollowSection document) : ¬ Gives document entries := by
  obtain ⟨hkey, hinner⟩ := h
  intro hgives
  cases hgives with
  | own hother =>
      rw [hkey] at hother
      cases hother
  | emptySection hother =>
      obtain rfl := Option.some.inj (hkey.symm.trans hother)
      cases hinner
  | ofSection hother =>
      obtain rfl := Option.some.inj (hkey.symm.trans hother)
      cases hinner

theorem Misshapen.documentEntries_eq (h : Misshapen path document refusal) :
    documentEntries path document = .error refusal := by
  unfold documentEntries
  cases h with
  | document hnull hmapping =>
      cases document with
      | null => exact absurd rfl hnull
      | mapping entries => exact absurd rfl (hmapping entries)
      | boolean | integer | real | text | brokenText | bytes | date | moment | list | pairs | set
      | enclosing => rfl
  | @ofSection entries inner hkey hnull hmapping hhollow =>
      have hempty : ¬ inner.isEmpty = true := by
        rw [Value.isEmpty_iff]
        rintro (hsame | hsame | hsame)
        · exact hnull hsame
        · exact hmapping [] hsame
        · exact hhollow hsame
      dsimp only
      rw [hkey]
      dsimp only
      rw [if_neg hempty]
      cases inner with
      | mapping entries => exact absurd rfl (hmapping entries)
      | null | boolean | integer | real | text | brokenText | bytes | date | moment | list | pairs
      | set | enclosing => rfl

/-- Every document gives entries, or has a hollow section, or is refused for its shape. -/
theorem shape_cases (path : Text.Codes) (document : Value) :
    (∃ entries, Gives document entries) ∨ HollowSection document ∨
      ∃ refusal, Misshapen path document refusal := by
  cases document with
  | null => exact Or.inl ⟨[], .empty⟩
  | mapping entries =>
      cases hkey : Value.lookupText entries sectionKey with
      | none => exact Or.inl ⟨entries, .own hkey⟩
      | some inner =>
          rcases Classical.em inner.Hollow with hhollow | hhollow
          · exact Or.inr (Or.inl (.intro hkey hhollow))
          · cases inner with
            | null => exact Or.inl ⟨[], .emptySection hkey⟩
            | mapping inner => exact Or.inl ⟨inner, .ofSection hkey⟩
            | boolean | integer | real | text | brokenText | bytes | date | moment | list | pairs
            | set | enclosing =>
                exact Or.inr (Or.inr ⟨_, .ofSection hkey Value.noConfusion
                  (fun _ => Value.noConfusion) hhollow⟩)
  | boolean | integer | real | text | brokenText | bytes | date | moment | list | pairs | set
  | enclosing =>
      exact Or.inr (Or.inr ⟨_, .document Value.noConfusion fun _ => Value.noConfusion⟩)

end Documents

/-! ## Loading a document -/

section Loading

variable {host : Host} {path : Text.Codes} {document : Value} {entries : List (Value × Value)}

/-- Where there is nothing but a document its entries are applied to the defaults. -/
theorem load_of_entries (h : HoldsDocument host (some path) document)
    (hentries : documentEntries path document = .ok entries) :
    (load host (some path) (some []) []).2 =
      ofAssigned host.shownLevels (({} : Settings).apply entries) := by
  have hrest : environmentEntries [] ++ givenOverrides [] = [] := rfl
  rw [(Sees.given []).load_eq, h.loadWith_eq, fromDocument, Option.getD_some, hentries]
  dsimp only
  rw [merge_eq_apply, hrest, List.append_nil]

theorem load_of_misshapen (h : HoldsDocument host (some path) document) {refusal : Refusal}
    (hmisshapen : Misshapen path document refusal) :
    (load host (some path) (some []) []).2 = .error (.refused refusal) := by
  rw [(Sees.given []).load_eq, h.loadWith_eq, fromDocument, Option.getD_some,
    hmisshapen.documentEntries_eq]

theorem load_of_hollow (h : HoldsDocument host (some path) document)
    (hhollow : HollowSection document) : (load host (some path) (some []) []).2 = .ok {} :=
  load_of_entries h (hhollow.documentEntries_eq path)

theorem exists_load_iff (h : HoldsDocument host (some path) document) :
    (∃ settings, (load host (some path) (some []) []).2 = .ok settings) ↔
      HollowSection document ∨
        ∃ entries, Gives document entries ∧ ∀ entry ∈ entries, Suits entry := by
  constructor
  · rintro ⟨settings, hload⟩
    rcases shape_cases path document with ⟨entries, hgives⟩ | hhollow | ⟨refusal, hmisshapen⟩
    · rw [load_of_entries h (hgives.documentEntries_eq path), ofAssigned_eq_ok_iff] at hload
      exact Or.inr ⟨entries, hgives, exists_apply_iff.1 ⟨settings, hload⟩⟩
    · exact Or.inl hhollow
    · rw [load_of_misshapen h hmisshapen] at hload
      cases hload
  · rintro (hhollow | ⟨entries, hgives, hsuit⟩)
    · exact ⟨{}, load_of_hollow h hhollow⟩
    · obtain ⟨settings, happly⟩ := exists_apply_of_all_suit hsuit {}
      refine ⟨settings, ?_⟩
      rw [load_of_entries h (hgives.documentEntries_eq path), ofAssigned_eq_ok_iff]
      exact happly

theorem load_eq_error_iff (h : HoldsDocument host (some path) document) {error : LoadError} :
    (load host (some path) (some []) []).2 = .error error ↔
      (∃ refusal, Misshapen path document refusal ∧ error = .refused refusal) ∨
        ∃ entries cause, Gives document entries ∧ FirstOffence entries cause ∧
          error = .ofAssign host.shownLevels cause := by
  constructor
  · intro hload
    rcases shape_cases path document with ⟨entries, hgives⟩ | hhollow | ⟨refusal, hmisshapen⟩
    · rw [load_of_entries h (hgives.documentEntries_eq path), ofAssigned_eq_error_iff] at hload
      obtain ⟨cause, happly, rfl⟩ := hload
      exact Or.inr ⟨entries, cause, hgives, apply_eq_error_iff.1 happly, rfl⟩
    · rw [load_of_hollow h hhollow] at hload
      cases hload
    · rw [load_of_misshapen h hmisshapen] at hload
      exact Or.inl ⟨refusal, hmisshapen, (Except.error.inj hload).symm⟩
  · rintro (⟨refusal, hmisshapen, rfl⟩ | ⟨entries, cause, hgives, hoffence, rfl⟩)
    · exact load_of_misshapen h hmisshapen
    · rw [load_of_entries h (hgives.documentEntries_eq path), ofAssigned_eq_error_iff]
      exact ⟨cause, apply_eq_error_iff.2 hoffence, rfl⟩

end Loading

/-- Two documents have the same section, whatever else is in them. -/
inductive SameSection : Value → Value → Prop
  | intro {entries entries' : List (Value × Value)} {inner : Value}
      (hkey : Value.lookupText entries sectionKey = some inner)
      (hkey' : Value.lookupText entries' sectionKey = some inner) :
      SameSection (.mapping entries) (.mapping entries')

/-- How settings are loaded from a document when nothing else gives any. -/
structure UsedByShape (document : Value) : Prop where
  given_eq : ∀ host path entries, HoldsDocument host (some path) document →
    Gives document entries →
      (load host (some path) (some []) []).2 =
        ofAssigned host.shownLevels (({} : Settings).apply entries)
  /-- A section that counts as empty gives no settings, whatever it is. -/
  hollow_eq : ∀ host path, HoldsDocument host (some path) document → HollowSection document →
    (load host (some path) (some []) []).2 = .ok {}
  loads_iff : ∀ host path, HoldsDocument host (some path) document →
    ((∃ settings, (load host (some path) (some []) []).2 = .ok settings) ↔
      HollowSection document ∨ ∃ entries, Gives document entries ∧ ∀ entry ∈ entries, Suits entry)
  /-- A field holds what its entry stands for, or else its default. -/
  determined : ∀ host path entries settings, HoldsDocument host (some path) document →
    Gives document entries → KeysDistinct entries →
      (load host (some path) (some []) []).2 = .ok settings → ∀ field,
        Determined field (Value.lookupText entries field.name) (({} : Settings).content field)
          (settings.content field)
  fails_iff : ∀ host path error, HoldsDocument host (some path) document →
    ((load host (some path) (some []) []).2 = .error error ↔
      (∃ refusal, Misshapen path document refusal ∧ error = .refused refusal) ∨
        ∃ entries cause, Gives document entries ∧ FirstOffence entries cause ∧
          error = .ofAssign host.shownLevels cause)
  /-- What stands beside a section does not matter. -/
  beside_ignored : ∀ document', SameSection document document' → ∀ host host' path,
    HoldsDocument host (some path) document → HoldsDocument host' (some path) document' →
      host'.shownLevels = host.shownLevels →
      (load host' (some path) (some []) []).2 = (load host (some path) (some []) []).2

/-- Settings come from a document by its shape, whatever the document is. -/
theorem usedByShape_document (document : Value) : UsedByShape document := by
  constructor
  · intro host path entries h hgives
    exact load_of_entries h (hgives.documentEntries_eq path)
  · intro host path h hhollow
    exact load_of_hollow h hhollow
  · intro host path h
    exact exists_load_iff h
  · intro host path entries settings h hgives hdistinct hload field
    rw [load_of_entries h (hgives.documentEntries_eq path), ofAssigned_eq_ok_iff] at hload
    exact determined_of_apply hdistinct hload field
  · intro host path error h
    exact load_eq_error_iff h
  · rintro document' ⟨hkey, hkey'⟩ host host' path h h' hlevels
    rw [(Sees.given []).load_eq, h'.loadWith_eq, (Sees.given []).load_eq, h.loadWith_eq, hlevels]
    unfold fromDocument documentEntries
    dsimp only
    rw [hkey, hkey']

/-- A file with a section that says no. -/
def hollowFile : List UInt8 := "bytetape: false".toList.map fun c => UInt8.ofNat c.toNat

/-- Whether what is read has a section that says no, and nothing else. -/
def isHollowSection : Except LoadError Value → Bool
  | .ok (.mapping [(.text key, .boolean false)]) => key == sectionKey
  | _ => false

theorem eq_of_isHollowSection {read : Except LoadError Value} (h : isHollowSection read = true) :
    read = .ok (.mapping [(.text sectionKey, .boolean false)]) := by
  unfold isHollowSection at h
  split at h
  · rw [eq_of_beq h]
  · cases h

/-- A section that is no mapping is not refused when it says no; the defaults are loaded. -/
theorem load_of_hollow_file :
    let path : Text.Codes := .ofString "c.yaml"
    let host : Host :=
      { readFile := fun asked =>
          if asked = path then .ok hollowFile else .error (.system (.fileNotFound asked)) }
    let document : Value := .mapping [(.text sectionKey, .boolean false)]
    HoldsDocument host (some path) document ∧
      Value.lookupText [(.text sectionKey, .boolean false)] sectionKey = some (.boolean false) ∧
        (∀ entries, ¬ Gives document entries) ∧
          (load host (some path) (some []) []).2 = .ok {} := by
  intro path host document
  have hread : readDocument path hollowFile = .ok document :=
    eq_of_isHollowSection (by decide +kernel)
  have hdocument : HoldsDocument host (some path) document := .read (by decide) rfl hread
  have hkey : Value.lookupText [(.text sectionKey, .boolean false)] sectionKey =
      some (.boolean false) := Value.lookupText_cons_self _ _ _
  have hhollow : HollowSection document := .intro hkey .no
  exact ⟨hdocument, hkey, fun _ => hhollow.not_gives, load_of_hollow hdocument hhollow⟩

end Settings

end TapeMachine
