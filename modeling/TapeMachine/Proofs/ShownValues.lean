/-
  Values that can be shown.

  A value is shown with all that it holds, and every collection in it takes levels of calls.
  Main statement: a value cannot be shown exactly when a part of it lies deeper than the
  levels that are left, or is an integer of too many digits; and what is reported is the
  fault of such a part.
-/
import TapeMachine.Value

set_option autoImplicit false

namespace TapeMachine.Value

/-! ## Parts -/

/-- The value holds a part so many levels below it.  A pair takes a level of its own, and so
does the list as which the members of a set are shown. -/
inductive Holds : Value → Nat → Value → Prop
  | self (value : Value) : Holds value 0 value
  | item {items : List Value} {item part : Value} {depth : Nat} (hitem : item ∈ items)
      (h : Holds item depth part) : Holds (.list items) (depth + 1) part
  | key {entries : List (Value × Value)} {entry : Value × Value} {part : Value} {depth : Nat}
      (hentry : entry ∈ entries) (h : Holds entry.1 depth part) :
      Holds (.mapping entries) (depth + 1) part
  | value {entries : List (Value × Value)} {entry : Value × Value} {part : Value} {depth : Nat}
      (hentry : entry ∈ entries) (h : Holds entry.2 depth part) :
      Holds (.mapping entries) (depth + 1) part
  | first {entries : List (Value × Value)} {entry : Value × Value} {part : Value} {depth : Nat}
      (hentry : entry ∈ entries) (h : Holds entry.1 depth part) :
      Holds (.pairs entries) (depth + 2) part
  | second {entries : List (Value × Value)} {entry : Value × Value} {part : Value} {depth : Nat}
      (hentry : entry ∈ entries) (h : Holds entry.2 depth part) :
      Holds (.pairs entries) (depth + 2) part
  | member {members : List Value} {member part : Value} {depth : Nat} (hmember : member ∈ members)
      (h : Holds member depth part) : Holds (.set members) (depth + 2) part

/-- The levels that a value takes below it, apart from the values that it holds. -/
def ownLevels : Value → Nat
  | .moment value => momentLevels value
  | _ => 0

/-- The part cannot be shown at this depth. -/
inductive Blamed (levels depth : Nat) : Value → ShowError → Prop
  | tooDeep {part : Value} (h : levels < depth + part.ownLevels) :
      Blamed levels depth part .tooDeep
  | tooLong {number : Int} (h : Nat.pow 10 Text.Integer.digitLimit ≤ number.natAbs) :
      Blamed levels depth (.integer number) .tooLong

theorem blamed_integer {levels : Nat} {number : Int} {error : ShowError}
    (h : showError? levels (.integer number) = some error) :
    Blamed levels 0 (.integer number) error := by
  unfold showError? at h
  split at h
  · cases h
  · rename_i hlong
    obtain rfl := Option.some.inj h
    exact .tooLong (Nat.le_of_not_lt fun hshort => hlong (decide_eq_true hshort))

theorem blamed_moment {levels : Nat} {time : Calendar.Moment} {error : ShowError}
    (h : showError? levels (.moment time) = some error) :
    Blamed levels 0 (.moment time) error := by
  unfold showError? at h
  split at h
  · cases h
  · rename_i hdeep
    obtain rfl := Option.some.inj h
    refine .tooDeep ?_
    rw [Nat.zero_add]
    exact Nat.lt_of_not_le hdeep

namespace Blamed

variable {levels depth more : Nat} {part : Value} {error : ShowError}

theorem add (more : Nat) (h : Blamed (levels - more) depth part error) :
    Blamed levels (depth + more) part error := by
  cases h with
  | tooDeep h => exact .tooDeep (by omega)
  | tooLong h => exact .tooLong h

theorem sub (hlevels : more ≤ levels) (h : Blamed levels (depth + more) part error) :
    Blamed (levels - more) depth part error := by
  cases h with
  | tooDeep h => exact .tooDeep (by omega)
  | tooLong h => exact .tooLong h

end Blamed

/-! ## A part to blame -/

mutual

/-- What is reported is the fault of a part. -/
theorem exists_blamed {levels : Nat} {error : ShowError} :
    ∀ {value : Value}, value.showError? levels = some error →
      ∃ depth part, Holds value depth part ∧ Blamed levels depth part error
  | .null | .boolean _ | .real _ | .text _ | .brokenText .. | .bytes _ | .date _
  | .enclosing _ => nofun
  | .integer number => fun h => ⟨0, .integer number, .self _, blamed_integer h⟩
  | .moment time => fun h => ⟨0, .moment time, .self _, blamed_moment h⟩
  | .list items => fun h => by
      obtain ⟨item, hitem, depth, part, hholds, hblamed⟩ := exists_blamedIn h
      exact ⟨depth + 1, part, .item hitem hholds, hblamed⟩
  | .set members => fun h => by
      obtain ⟨member, hmember, depth, part, hholds, hblamed⟩ := exists_blamedIn h
      exact ⟨depth + 2, part, .member hmember hholds, hblamed⟩
  | .mapping entries => fun h => by
      obtain ⟨entry, hentry, depth, part, hholds, hblamed⟩ := exists_blamedInEntries h
      rcases hholds with hkey | hvalue
      · exact ⟨depth + 1, part, .key hentry hkey, hblamed⟩
      · exact ⟨depth + 1, part, .value hentry hvalue, hblamed⟩
  | .pairs entries => fun h => by
      obtain ⟨entry, hentry, depth, part, hholds, hblamed⟩ := exists_blamedInEntries h
      rcases hholds with hfirst | hsecond
      · exact ⟨depth + 2, part, .first hentry hfirst, hblamed⟩
      · exact ⟨depth + 2, part, .second hentry hsecond, hblamed⟩

theorem exists_blamedIn {below levels : Nat} {error : ShowError} :
    ∀ {items : List Value}, showErrorIn? below levels items = some error →
      ∃ item ∈ items, ∃ depth part, Holds item depth part ∧
        Blamed levels (depth + below) part error
  | item :: rest, h => by
      unfold showErrorIn? at h
      split at h
      · rename_i hlevels
        obtain rfl := Option.some.inj h
        exact ⟨item, List.mem_cons_self, 0, item, .self item, .tooDeep (by omega)⟩
      · rcases Option.or_eq_some_iff.1 h with hitem | ⟨_, hrest⟩
        · obtain ⟨depth, part, hholds, hblamed⟩ := exists_blamed hitem
          exact ⟨item, List.mem_cons_self, depth, part, hholds, hblamed.add below⟩
        · obtain ⟨other, hother, hblamed⟩ := exists_blamedIn hrest
          exact ⟨other, List.mem_cons_of_mem item hother, hblamed⟩

theorem exists_blamedInEntries {below levels : Nat} {error : ShowError} :
    ∀ {entries : List (Value × Value)}, showErrorInEntries? below levels entries = some error →
      ∃ entry ∈ entries, ∃ depth part, (Holds entry.1 depth part ∨ Holds entry.2 depth part) ∧
        Blamed levels (depth + below) part error
  | (key, value) :: rest, h => by
      unfold showErrorInEntries? at h
      split at h
      · rename_i hlevels
        obtain rfl := Option.some.inj h
        exact ⟨_, List.mem_cons_self, 0, key, Or.inl (.self key), .tooDeep (by omega)⟩
      · rcases Option.or_eq_some_iff.1 h with hentry | ⟨_, hrest⟩
        · rcases Option.or_eq_some_iff.1 hentry with hkey | ⟨_, hvalue⟩
          · obtain ⟨depth, part, hholds, hblamed⟩ := exists_blamed hkey
            exact ⟨_, List.mem_cons_self, depth, part, Or.inl hholds, hblamed.add below⟩
          · obtain ⟨depth, part, hholds, hblamed⟩ := exists_blamed hvalue
            exact ⟨_, List.mem_cons_self, depth, part, Or.inr hholds, hblamed.add below⟩
        · obtain ⟨other, hother, hblamed⟩ := exists_blamedInEntries hrest
          exact ⟨other, List.mem_cons_of_mem _ hother, hblamed⟩

end

/-! ## Nothing to blame -/

section Shown

variable {below levels : Nat}

theorem showErrorIn?_eq_none {items : List Value} (h : showErrorIn? below levels items = none)
    {item : Value} (hitem : item ∈ items) :
    below ≤ levels ∧ item.showError? (levels - below) = none := by
  induction items with
  | nil => cases hitem
  | cons first rest ih =>
      unfold showErrorIn? at h
      split at h
      · cases h
      · rename_i hlevels
        obtain ⟨hfirst, hrest⟩ := Option.or_eq_none_iff.1 h
        rcases List.mem_cons.1 hitem with rfl | hitem
        · exact ⟨Nat.le_of_not_lt hlevels, hfirst⟩
        · exact ih hrest hitem

theorem showErrorInEntries?_eq_none {entries : List (Value × Value)}
    (h : showErrorInEntries? below levels entries = none) {entry : Value × Value}
    (hentry : entry ∈ entries) :
    below ≤ levels ∧ entry.1.showError? (levels - below) = none ∧
      entry.2.showError? (levels - below) = none := by
  induction entries with
  | nil => cases hentry
  | cons first rest ih =>
      unfold showErrorInEntries? at h
      split at h
      · cases h
      · rename_i hlevels
        obtain ⟨hfirst, hrest⟩ := Option.or_eq_none_iff.1 h
        rcases List.mem_cons.1 hentry with rfl | hentry
        · exact ⟨Nat.le_of_not_lt hlevels, Option.or_eq_none_iff.1 hfirst⟩
        · exact ih hrest hentry

theorem not_blamed_self {value : Value} (h : value.showError? levels = none)
    (error : ShowError) : ¬ Blamed levels 0 value error := by
  intro hblamed
  cases hblamed with
  | tooLong hlong =>
      unfold showError? at h
      split at h
      · rename_i hshort
        exact Nat.not_lt.2 hlong (of_decide_eq_true hshort)
      · cases h
  | tooDeep hdeep =>
      rw [Nat.zero_add] at hdeep
      cases value with
      | moment time =>
          unfold showError? at h
          split at h
          · rename_i hlevels
            exact Nat.not_lt.2 hlevels hdeep
          · cases h
      | _ => exact Nat.not_lt_zero levels hdeep

/-- No part of a value that is shown is to blame. -/
theorem not_blamed_of_holds {value part : Value} {depth : Nat} (hholds : Holds value depth part)
    (h : value.showError? levels = none) (error : ShowError) :
    ¬ Blamed levels depth part error := by
  intro hblamed
  induction hholds generalizing levels with
  | self value => exact not_blamed_self h error hblamed
  | item hitem _ ih =>
      obtain ⟨hlevels, hshown⟩ := showErrorIn?_eq_none h hitem
      exact ih hshown (hblamed.sub hlevels)
  | key hentry _ ih =>
      obtain ⟨hlevels, hshown, _⟩ := showErrorInEntries?_eq_none h hentry
      exact ih hshown (hblamed.sub hlevels)
  | value hentry _ ih =>
      obtain ⟨hlevels, _, hshown⟩ := showErrorInEntries?_eq_none h hentry
      exact ih hshown (hblamed.sub hlevels)
  | first hentry _ ih =>
      obtain ⟨hlevels, hshown, _⟩ := showErrorInEntries?_eq_none h hentry
      exact ih hshown (hblamed.sub hlevels)
  | second hentry _ ih =>
      obtain ⟨hlevels, _, hshown⟩ := showErrorInEntries?_eq_none h hentry
      exact ih hshown (hblamed.sub hlevels)
  | member hmember _ ih =>
      obtain ⟨hlevels, hshown⟩ := showErrorIn?_eq_none h hmember
      exact ih hshown (hblamed.sub hlevels)

end Shown

/-- A value is shown exactly when no part of it is to blame. -/
theorem showError?_eq_none_iff {levels : Nat} {value : Value} :
    value.showError? levels = none ↔
      ∀ depth part error, Holds value depth part → ¬ Blamed levels depth part error := by
  constructor
  · exact fun h depth part error hholds => not_blamed_of_holds hholds h error
  · intro h
    cases hshown : value.showError? levels with
    | none => rfl
    | some error =>
        obtain ⟨depth, part, hholds, hblamed⟩ := exists_blamed hshown
        exact absurd hblamed (h depth part error hholds)

end TapeMachine.Value
