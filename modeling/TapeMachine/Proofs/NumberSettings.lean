/-
  Numbers of cells that are given as numbers.

  A settings file and overrides can give a number of cells as an integer or as a binary
  number.  Main statement: settings are never loaded with such a number in them, also where a
  higher layer hides it, unless it is finite and at least one; a field that comes from it
  then holds the greatest integer that is not above it.  So the field is numerically equal to
  the number exactly when the number is whole, and a fraction is lost without a word.
-/
import Mathlib.Data.Rat.Floor
import TapeMachine.Proofs.Layers
import TapeMachine.Proofs.MalformedSettings

set_option autoImplicit false

namespace TapeMachine

/-! ## The size of a number -/

namespace Binary64

/-- The exact size of a number.  What is infinite or not a number has none. -/
def rational? : Binary64 → Option ℚ
  | .nan => none
  | .infinite _ => none
  | .finite negative mantissa exponent => some (signedMantissa negative mantissa * 2 ^ exponent)

/-- The number one and a half. -/
def oneAndHalf : Binary64 := .finite false 6755399441055744 (-52)

theorem rational?_oneAndHalf : oneAndHalf.rational? = some (3 / 2) := by
  norm_num [oneAndHalf, rational?, signedMantissa]

theorem truncate_false (mantissa : Nat) (exponent : Int) :
    truncate false mantissa exponent = ⌊(mantissa : ℚ) * 2 ^ exponent⌋ := by
  unfold truncate
  split
  · rename_i hexponent
    obtain ⟨power, rfl⟩ := Int.eq_ofNat_of_zero_le hexponent
    have hproduct : (mantissa : ℚ) * 2 ^ (power : Int) = ((mantissa * 2 ^ power : Nat) : ℚ) := by
      push_cast
      rw [zpow_natCast]
    rw [hproduct, Int.floor_natCast]
    rfl
  · rename_i hexponent
    obtain ⟨power, rfl⟩ : ∃ power : Nat, exponent = -(power : Int) :=
      ⟨(-exponent).toNat, by omega⟩
    have hquotient : (mantissa : ℚ) * 2 ^ (-(power : Int)) =
        (mantissa : ℚ) / ((2 ^ power : Nat) : ℚ) := by
      push_cast
      rw [zpow_neg, zpow_natCast, div_eq_mul_inv]
    rw [hquotient, Rat.floor_natCast_div_natCast, neg_neg]
    rfl

/-- The integer part of a number with a minus sign is not above zero, … -/
theorem truncate_true_nonpos (mantissa : Nat) (exponent : Int) :
    truncate true mantissa exponent ≤ 0 := by
  unfold truncate signedMantissa
  dsimp only
  rw [if_pos rfl]
  omega

/-- … and neither is the number. -/
theorem rational_true_nonpos (mantissa : Nat) (exponent : Int) :
    (signedMantissa true mantissa : ℚ) * 2 ^ exponent ≤ 0 := by
  have hsign : (signedMantissa true mantissa : ℚ) ≤ 0 := by
    exact_mod_cast Int.neg_nonpos_of_nonneg (Int.natCast_nonneg mantissa)
  have hpower : (0 : ℚ) < 2 ^ exponent := zpow_pos (by norm_num) exponent
  exact mul_nonpos_of_nonpos_of_nonneg hsign hpower.le

/-- A number has an integer part of at least one exactly when it is at least one itself, and
then the integer part is its floor. -/
theorem integerPart_pos_iff {x : Binary64} {n : Int} :
    x.integerPart = .ok n ∧ 1 ≤ n ↔ ∃ q, x.rational? = some q ∧ 1 ≤ q ∧ n = ⌊q⌋ := by
  cases x with
  | nan | infinite => simp [integerPart, rational?]
  | finite negative mantissa exponent =>
      simp only [integerPart, rational?, Except.ok.injEq, Option.some.injEq, exists_eq_left']
      cases negative with
      | false =>
          have hsize : (signedMantissa false mantissa : ℚ) = mantissa := Int.cast_natCast mantissa
          have hfloor : 1 ≤ ⌊(mantissa : ℚ) * 2 ^ exponent⌋ ↔
              (1 : ℚ) ≤ mantissa * 2 ^ exponent := by
            rw [Int.le_floor, Int.cast_one]
          rw [truncate_false, hsize]
          constructor
          · rintro ⟨rfl, hone⟩
            exact ⟨hfloor.1 hone, rfl⟩
          · rintro ⟨hone, rfl⟩
            exact ⟨rfl, hfloor.2 hone⟩
      | true =>
          have hpart := truncate_true_nonpos mantissa exponent
          have hnumber := rational_true_nonpos mantissa exponent
          constructor
          · rintro ⟨rfl, hone⟩
            omega
          · rintro ⟨hone, _⟩
            exact absurd (hone.trans hnumber) (by norm_num)

end Binary64

namespace Value

/-- The value is a number: an integer, or a binary one. -/
inductive IsNumber : Value → Prop
  | integer (number : Int) : IsNumber (.integer number)
  | real (number : Binary64) : IsNumber (.real number)

/-- The exact size of a value that is a number. -/
def rational? : Value → Option ℚ
  | .integer number => some number
  | .real number => number.rational?
  | _ => none

/-- The value is a finite number of at least one. -/
def IsPositive (value : Value) : Prop := ∃ q, value.rational? = some q ∧ 1 ≤ q

/-- The value is a whole number. -/
def IsWhole (value : Value) : Prop := ∃ n : Int, value.rational? = some (n : ℚ)

theorem IsNumber.ne_null {value : Value} (h : value.IsNumber) : value ≠ .null := by
  cases h with
  | integer | real => exact Value.noConfusion

end Value

namespace Settings

open Value (KeysDistinct)

/-! ## Numbers of cells -/

section Numbers

variable {field : Field} {value : Value}

theorem positive_eq_ok_iff {n : Int} :
    positive field value = .ok n ↔ integer field value = .ok n ∧ 1 ≤ n := by
  constructor
  · intro h
    obtain ⟨number, hnumber, hchecked⟩ := exists_of_bind_eq_ok h
    have hone := one_le_of_positive h
    split at hchecked
    · cases hchecked
    · obtain rfl : number = n := Except.ok.inj hchecked
      exact ⟨hnumber, hone⟩
  · rintro ⟨hnumber, hone⟩
    unfold positive
    rw [hnumber]
    exact if_neg (Int.not_lt.2 hone)

/-- A number stands for a positive integer when it is at least one, and then for its floor. -/
theorem positive_number_iff (hnumber : value.IsNumber) {n : Int} :
    positive field value = .ok n ↔ ∃ q, value.rational? = some q ∧ 1 ≤ q ∧ n = ⌊q⌋ := by
  rw [positive_eq_ok_iff]
  cases hnumber with
  | integer number =>
      have hone : (1 : ℚ) ≤ number ↔ 1 ≤ number := by exact_mod_cast Iff.rfl
      simp only [Value.rational?, Option.some.injEq, exists_eq_left', Int.floor_intCast, hone]
      constructor
      · rintro ⟨hinteger, hpositive⟩
        obtain rfl : number = n := Except.ok.inj hinteger
        exact ⟨hpositive, rfl⟩
      · rintro ⟨hpositive, rfl⟩
        exact ⟨rfl, hpositive⟩
  | real x =>
      have hinteger : integer field (.real x) = .ok n ↔ x.integerPart = .ok n := by
        unfold integer
        dsimp only
        cases x.integerPart with
        | ok => simp
        | error e => cases e <;> simp
      rw [hinteger]
      exact Binary64.integerPart_pos_iff

theorem coerce_count_iff (hfield : field.IsCount) (hlimit : isNoLimit value = false)
    {content : field.Content} :
    coerce field value = .ok content ↔
      ∃ n, positive field value = .ok n ∧ written field content = .integer n := by
  cases hfield with
  | initialCells =>
      constructor
      · exact fun h => ⟨_, h, rfl⟩
      · rintro ⟨n, hpositive, hwritten⟩
        rwa [Value.integer.inj hwritten]
  | maxCells =>
      have hcoerce : coerce .maxCells value = (positive .maxCells value).map some := by
        simp [coerce, hlimit]
      rw [hcoerce]
      constructor
      · intro h
        obtain ⟨n, hpositive, rfl⟩ := exists_of_map_eq_ok h
        exact ⟨n, hpositive, rfl⟩
      · rintro ⟨n, hpositive, hwritten⟩
        cases content with
        | none => cases hwritten
        | some bound =>
            obtain rfl : bound = n := Value.integer.inj hwritten
            rw [hpositive]
            rfl

theorem coerce_number_iff (hfield : field.IsCount) (hnumber : value.IsNumber)
    {content : field.Content} :
    coerce field value = .ok content ↔
      ∃ q, value.rational? = some q ∧ 1 ≤ q ∧ written field content = .integer ⌊q⌋ := by
  have hlimit : isNoLimit value = false := by
    cases hnumber with
    | integer | real => rfl
  rw [coerce_count_iff hfield hlimit]
  constructor
  · rintro ⟨n, hpositive, hwritten⟩
    obtain ⟨q, hq, hone, rfl⟩ := (positive_number_iff hnumber).1 hpositive
    exact ⟨q, hq, hone, hwritten⟩
  · rintro ⟨q, hq, hone, hwritten⟩
    exact ⟨⌊q⌋, (positive_number_iff hnumber).2 ⟨q, hq, hone, rfl⟩, hwritten⟩

/-- A number suits a number of cells exactly when it is finite and at least one. -/
theorem suits_number_iff (hfield : field.IsCount) (hnumber : value.IsNumber) :
    Suits (.text field.name, value) ↔ value.IsPositive := by
  constructor
  · intro h
    generalize hentry : (Value.text field.name, value) = entry at h
    cases h with
    | @named named found content hcoerce =>
        obtain ⟨hname, rfl⟩ := Prod.mk.inj hentry
        obtain rfl := Field.name_injective (Value.text.inj hname)
        obtain ⟨q, hq, hone, _⟩ := (coerce_number_iff hfield hnumber).1 hcoerce
        exact ⟨q, hq, hone⟩
  · rintro ⟨q, hq, hone⟩
    have hwritten : ∃ content : field.Content, written field content = .integer ⌊q⌋ := by
      cases hfield with
      | maxCells => exact ⟨some ⌊q⌋, rfl⟩
      | initialCells => exact ⟨⌊q⌋, rfl⟩
    obtain ⟨content, hcontent⟩ := hwritten
    exact .named ((coerce_number_iff hfield hnumber).2 ⟨q, hq, hone, hcontent⟩)

end Numbers

/-! ## Entries that are never loaded -/

section Rejected

variable {host : Host} {path : Option Text.Codes} {given : Option Environment}
  {overrides : List (Value × Value)} {entry : Value × Value}

/-- A result that no settings come out of is an error. -/
theorem exists_error_of_not_loaded
    (h : ∀ settings, (load host path given overrides).2 ≠ .ok settings) :
    ∃ error, (load host path given overrides).2 = .error error := by
  cases hload : (load host path given overrides).2 with
  | error error => exact ⟨error, rfl⟩
  | ok settings => exact absurd hload (h settings)

theorem exists_error_of_file {document : Value} {file : List (Value × Value)}
    (hdocument : HoldsDocument host path document)
    (hfile : documentEntries (path.getD []) document = .ok file) (hentry : entry ∈ file)
    (h : ¬ Suits entry) : ∃ error, (load host path given overrides).2 = .error error := by
  refine exists_error_of_not_loaded ?_
  intro settings hload
  obtain ⟨document', file', hdocument', hfile', hsuit, _⟩ := exists_sources_of_load hload
  obtain rfl := hdocument.unique hdocument'
  obtain rfl := Except.ok.inj (hfile.symm.trans hfile')
  exact h (hsuit entry hentry)

theorem exists_error_of_override (hentry : entry ∈ givenOverrides overrides) (h : ¬ Suits entry) :
    ∃ error, (load host path given overrides).2 = .error error := by
  refine exists_error_of_not_loaded ?_
  intro settings hload
  obtain ⟨_, _, _, _, _, hsuit⟩ := exists_sources_of_load hload
  exact h (hsuit entry hentry)

end Rejected

/-! ## Numbers in layers -/

/-- What the settings hold in a field is numerically equal to the value. -/
def Keeps (settings : Settings) (field : Field) (value : Value) : Prop :=
  ∃ n, written field (settings.content field) = .integer n ∧ value.rational? = some (n : ℚ)

namespace Layers

variable {layers : Layers}

/-- What becomes of numbers that layers give for a number of cells. -/
structure Floors (layers : Layers) : Prop where
  /-- Whatever a host has its layers from, it loads what the layers make. -/
  load_eq : ∀ host path given, layers.HeldBy host path given →
    (load host path given layers.overrides).2 = ofAssigned host.shownLevels layers.merged
  /-- A number of the file that is not finite or is below one is an error, … -/
  file_rejected : ∀ host path given document overrides, HoldsDocument host path document →
    documentEntries (path.getD []) document = .ok layers.file → ∀ field value, Field.IsCount field →
      value.IsNumber → (.text field.name, value) ∈ layers.file → ¬ value.IsPositive →
        ∃ error, (load host path given overrides).2 = .error error
  /-- … and so is one of the overrides. -/
  override_rejected : ∀ host path given field value, Field.IsCount field → value.IsNumber →
    (.text field.name, value) ∈ layers.overrides → ¬ value.IsPositive →
      ∃ error, (load host path given layers.overrides).2 = .error error
  /-- A field that comes from a number holds its floor. -/
  floor_eq : ∀ settings field value, layers.merged = .ok settings → Field.IsCount field →
    value.IsNumber → layers.highest? field = some value →
      ∃ q, value.rational? = some q ∧ 1 ≤ q ∧
        written field (settings.content field) = .integer ⌊q⌋
  /-- Such a field is equal to the number when that is whole, and only then. -/
  keeps_iff : ∀ settings field value, layers.merged = .ok settings → Field.IsCount field →
    value.IsNumber → layers.highest? field = some value →
      (settings.Keeps field value ↔ value.IsWhole)

theorem floor_of_merged (hfile : KeysDistinct layers.file)
    (hoverrides : KeysDistinct layers.overrides) {settings : Settings} {field : Field}
    {value : Value} (h : layers.merged = .ok settings) (hfield : field.IsCount)
    (hnumber : value.IsNumber) (hhighest : layers.highest? field = some value) :
    ∃ q, value.rational? = some q ∧ 1 ≤ q ∧
      written field (settings.content field) = .integer ⌊q⌋ := by
  have hdetermined := determined_of_merged hfile hoverrides h field
  rw [hhighest] at hdetermined
  exact (coerce_number_iff hfield hnumber).1 hdetermined

/-- A field that comes from a number holds the floor of it, and the number is finite and at
least one. -/
theorem floors_of_keysDistinct (hfile : KeysDistinct layers.file)
    (hoverrides : KeysDistinct layers.overrides) : Floors layers := by
  constructor
  · intro host path given h
    exact h.load_eq
  · intro host path given document overrides hdocument hentries field value hfield hnumber hmem
      hpositive
    refine exists_error_of_file hdocument hentries hmem ?_
    intro hsuits
    exact hpositive ((suits_number_iff hfield hnumber).1 hsuits)
  · intro host path given field value hfield hnumber hmem hpositive
    have hgiven := mem_givenOverrides_iff.2 ⟨hmem, hnumber.ne_null⟩
    refine exists_error_of_override hgiven ?_
    intro hsuits
    exact hpositive ((suits_number_iff hfield hnumber).1 hsuits)
  · intro settings field value h hfield hnumber hhighest
    exact floor_of_merged hfile hoverrides h hfield hnumber hhighest
  · intro settings field value h hfield hnumber hhighest
    obtain ⟨q, hq, _, hwritten⟩ := floor_of_merged hfile hoverrides h hfield hnumber hhighest
    constructor
    · rintro ⟨n, _, hequal⟩
      exact ⟨n, hequal⟩
    · rintro ⟨n, hwhole⟩
      obtain rfl := Option.some.inj (hq.symm.trans hwhole)
      rw [Int.floor_intCast] at hwritten
      exact ⟨n, hwritten, hwhole⟩

/-- The file gives one and a half cells at most, and the overrides set whole ones aside. -/
theorem floors_of_keysDistinct_half :
    let layers : Layers :=
      { file := [(.text "max_cells", .real .oneAndHalf)]
        overrides := [(.text "initial_cells", .integer 16)] }
    KeysDistinct layers.file ∧ KeysDistinct layers.overrides ∧ Floors layers ∧
      layers.merged = .ok { maxCells := some 1, initialCells := 16 } := by
  intro layers
  have hfile : KeysDistinct layers.file := by simp [KeysDistinct, layers]
  have hoverrides : KeysDistinct layers.overrides := by simp [KeysDistinct, layers]
  exact ⟨hfile, hoverrides, floors_of_keysDistinct hfile hoverrides, rfl⟩

end Layers

/-- A file that gives one and a half cells at most. -/
def fractionFile : List UInt8 := "max_cells: 1.5".toList.map fun c => UInt8.ofNat c.toNat

/-- Whether what is read gives a binary number as the greatest number of cells, and nothing
else. -/
def isRealLimit (number : Binary64) : Except LoadError Value → Bool
  | .ok (.mapping [(.text key, .real found)]) => key == "max_cells" && found == number
  | _ => false

theorem eq_of_isRealLimit {number : Binary64} {read : Except LoadError Value}
    (h : isRealLimit number read = true) :
    read = .ok (.mapping [(.text "max_cells", .real number)]) := by
  unfold isRealLimit at h
  split at h
  · obtain ⟨hkey, hfound⟩ := Bool.and_eq_true_iff.1 h
    rw [eq_of_beq hkey, eq_of_beq hfound]
  · cases h

theorem readDocument_fractionFile :
    readDocument (.ofString "c.yaml") fractionFile =
      .ok (.mapping [(.text "max_cells", .real Binary64.oneAndHalf)]) :=
  eq_of_isRealLimit (by decide +kernel)

/-- A greatest number of one and a half cells is loaded as one cell. -/
theorem load_of_fraction_not_keeps :
    let path : Text.Codes := .ofString "c.yaml"
    let host : Host :=
      { readFile := fun asked =>
          if asked = path then .ok fractionFile else .error (.system (.fileNotFound asked)) }
    let document : Value := .mapping [(.text "max_cells", .real Binary64.oneAndHalf)]
    HoldsDocument host (some path) document ∧ Binary64.oneAndHalf.rational? = some (3 / 2) ∧
      (load host (some path) (some []) []).2 = .ok { maxCells := some 1 } ∧
        ¬ Keeps { maxCells := some 1 } .maxCells (.real Binary64.oneAndHalf) := by
  intro path host document
  have hdocument : HoldsDocument host (some path) document :=
    .read (by decide) rfl readDocument_fractionFile
  have hsize := Binary64.rational?_oneAndHalf
  refine ⟨hdocument, hsize, ?_, ?_⟩
  · rw [(Sees.given []).load_eq, hdocument.loadWith_eq]
    rfl
  · rintro ⟨n, _, hequal⟩
    have hwhole : (3 : ℚ) / 2 = n := Option.some.inj (hsize.symm.trans hequal)
    have hdouble : (3 : ℤ) = 2 * n := by
      have : (3 : ℚ) = 2 * n := by linarith
      exact_mod_cast this
    omega

end Settings

end TapeMachine
