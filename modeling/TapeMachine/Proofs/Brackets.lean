/-
  Balanced brackets.

  Instructions are balanced when no prefix closes more loops than it opens and all of
  them together open as many as they close.  The height of a place is the number of loops
  open in front of it; a segment is balanced exactly when its height never falls below
  where it starts and comes back to it.  Main statements: two brackets with a balanced
  segment between them determine each other, and two such pairs never overlap in part.
-/
import TapeMachine.Program

set_option autoImplicit false

namespace TapeMachine

namespace Loops

/-! ## Heights -/

/-- By how much an instruction changes the number of open loops. -/
def weight : Instruction → Int
  | .loopOpen => 1
  | .loopClose => -1
  | _ => 0

/-- The number of loops opened less the number of loops closed in front of a place. -/
def height (code : List Instruction) (place : Nat) : Int :=
  ((code.take place).count .loopOpen : Int) - (code.take place).count .loopClose

@[simp] theorem height_zero (code : List Instruction) : height code 0 = 0 := by
  simp [height]

@[simp] theorem height_nil (place : Nat) : height [] place = 0 := by
  simp [height]

theorem height_cons (x : Instruction) (code : List Instruction) (place : Nat) :
    height (x :: code) (place + 1) = weight x + height code place := by
  cases x <;> simp [height, weight] <;> omega

theorem height_append (left right : List Instruction) (place : Nat) :
    height (left ++ right) place = height left place + height right (place - left.length) := by
  simp only [height, List.take_append, List.count_append]
  omega

theorem height_of_length_le {code : List Instruction} {place : Nat} (h : code.length ≤ place) :
    height code place = height code code.length := by
  simp only [height, List.take_of_length_le h, List.take_length]

/-- The height goes on from where a cut leaves it. -/
theorem height_add (code : List Instruction) (start place : Nat) :
    height code (start + place) = height code start + height (code.drop start) place := by
  simp only [height, List.take_add, List.count_append]
  omega

theorem height_succ {code : List Instruction} {place : Nat} {x : Instruction}
    (h : code[place]? = some x) : height code (place + 1) = height code place + weight x := by
  obtain ⟨hlt, hx⟩ := List.getElem?_eq_some_iff.1 h
  rw [height_add, List.drop_eq_getElem_cons hlt, hx, height_cons, height_zero]
  omega

/-- Inside a segment the height is that of the whole, less the height where the segment
starts. -/
theorem height_extract {code : List Instruction} {start stop place : Nat}
    (h : start + place ≤ stop) :
    height (code.extract start stop) place = height code (start + place) - height code start := by
  have hle : place ≤ stop - start := by omega
  have htake : (code.extract start stop).take place = (code.drop start).take place := by
    rw [List.extract_eq_take_drop, List.take_take, Nat.min_eq_left hle]
  have hinside : height (code.extract start stop) place = height (code.drop start) place := by
    simp only [height, htake]
  rw [hinside, height_add]
  omega

/-! ## Balanced instructions -/

/-- No prefix closes more loops than it opens, and as many loops are opened as closed. -/
structure Balanced (code : List Instruction) : Prop where
  closed_le_opened : ∀ place,
    (code.take place).count .loopClose ≤ (code.take place).count .loopOpen
  opened_eq_closed : code.count .loopOpen = code.count .loopClose

theorem balanced_iff_height (code : List Instruction) :
    Balanced code ↔ (∀ place, 0 ≤ height code place) ∧ height code code.length = 0 := by
  constructor
  · intro h
    refine ⟨fun place => ?_, ?_⟩
    · have := h.closed_le_opened place
      simp only [height]
      omega
    · have := h.opened_eq_closed
      simp only [height, List.take_length]
      omega
  · rintro ⟨hnonneg, htotal⟩
    refine ⟨fun place => ?_, ?_⟩
    · have := hnonneg place
      simp only [height] at this
      omega
    · simp only [height, List.take_length] at htotal
      omega

/-- A segment is balanced when the height inside it never falls below its start and comes
back to it. -/
theorem balanced_extract_iff {code : List Instruction} {start stop : Nat} (hle : start ≤ stop)
    (hstop : stop ≤ code.length) :
    Balanced (code.extract start stop) ↔
      (∀ place, start ≤ place → place ≤ stop → height code start ≤ height code place) ∧
        height code stop = height code start := by
  have hlength : (code.extract start stop).length = stop - start := by
    rw [List.extract_eq_take_drop, List.length_take, List.length_drop]
    omega
  rw [balanced_iff_height, hlength]
  have htotal : height (code.extract start stop) (stop - start) =
      height code stop - height code start := by
    rw [height_extract (by omega), Nat.add_sub_cancel' hle]
  rw [htotal]
  constructor
  · rintro ⟨hnonneg, hzero⟩
    refine ⟨fun place hstart hplace => ?_, by omega⟩
    have hinside := hnonneg (place - start)
    rw [height_extract (by omega), Nat.add_sub_cancel' hstart] at hinside
    omega
  · rintro ⟨hinside, hback⟩
    refine ⟨fun place => ?_, by omega⟩
    rcases Nat.le_total place (stop - start) with hplace | hplace
    · rw [height_extract (by omega)]
      have := hinside (start + place) (by omega) (by omega)
      omega
    · rw [height_of_length_le (by omega), hlength, htotal]
      omega

/-! ## Pairs of brackets -/

/-- The brackets at two places belong together: the first opens a loop, the second
closes one, and the segment between them is balanced. -/
structure Matched (code : List Instruction) (start stop : Nat) : Prop where
  start_lt_stop : start < stop
  opens : code[start]? = some .loopOpen
  closes : code[stop]? = some .loopClose
  balanced : Balanced (code.extract (start + 1) stop)

namespace Matched

variable {code : List Instruction} {start stop start' stop' : Nat}

theorem stop_lt_length (h : Matched code start stop) : stop < code.length :=
  (List.getElem?_eq_some_iff.1 h.closes).1

theorem height_succ_start (h : Matched code start stop) :
    height code (start + 1) = height code start + 1 :=
  height_succ h.opens

/-- Inside a loop the height stays above that of the opening bracket. -/
theorem height_start_lt (h : Matched code start stop) {place : Nat} (hstart : start < place)
    (hstop : place ≤ stop) : height code start < height code place := by
  have hle : start + 1 ≤ stop := h.start_lt_stop
  have hopen := h.height_succ_start
  have hbalanced := (balanced_extract_iff hle (Nat.le_of_lt h.stop_lt_length)).1 h.balanced
  have hinside := hbalanced.1 place hstart hstop
  omega

theorem height_stop (h : Matched code start stop) :
    height code stop = height code start + 1 := by
  have hle : start + 1 ≤ stop := h.start_lt_stop
  have hopen := h.height_succ_start
  have hback := ((balanced_extract_iff hle (Nat.le_of_lt h.stop_lt_length)).1 h.balanced).2
  omega

theorem height_succ_stop (h : Matched code start stop) :
    height code (stop + 1) = height code start := by
  have hclose := height_succ h.closes
  have hstop := h.height_stop
  simp only [weight] at hclose
  omega

/-- A loop that starts inside another one ends inside it. -/
theorem stop_lt_of_start_lt (h : Matched code start stop) (h' : Matched code start' stop')
    (hstart : start < start') (hinside : start' < stop) : stop' < stop := by
  rcases Nat.lt_trichotomy stop' stop with hlt | heq | hgt
  · exact hlt
  · -- The two loops would end at one place, at two different heights.
    subst heq
    have houter := h.height_stop
    have hinner := h'.height_stop
    have := h.height_start_lt hstart (by omega)
    omega
  · -- Behind the outer loop the height is too low for the inside of the inner one.
    have houter := h.height_succ_stop
    have hlow : height code start' < height code (stop + 1) :=
      h'.height_start_lt (by omega) (by omega)
    have := h.height_start_lt hstart (by omega)
    omega

/-- An opening bracket has one partner. -/
theorem stop_unique (h : Matched code start stop) (h' : Matched code start stop') :
    stop = stop' := by
  rcases Nat.lt_trichotomy stop stop' with hlt | heq | hgt
  · have hbehind := h.height_succ_stop
    have hstart := h.start_lt_stop
    have hlow : height code start < height code (stop + 1) := h'.height_start_lt (by omega) hlt
    omega
  · exact heq
  · have hbehind := h'.height_succ_stop
    have hstart := h'.start_lt_stop
    have hlow : height code start < height code (stop' + 1) := h.height_start_lt (by omega) hgt
    omega

/-- Two pairs of brackets are one pair, or lie apart, or one lies inside the other. -/
theorem apart_or_nested (h : Matched code start stop) (h' : Matched code start' stop') :
    (start = start' ∧ stop = stop') ∨ stop < start' ∨ stop' < start ∨
      (start < start' ∧ stop' < stop) ∨ (start' < start ∧ stop < stop') := by
  rcases Nat.lt_trichotomy start start' with hlt | heq | hgt
  · by_cases hinside : start' < stop
    · have hstop := h.stop_lt_of_start_lt h' hlt hinside
      exact Or.inr (Or.inr (Or.inr (Or.inl ⟨hlt, hstop⟩)))
    · -- The place where the first loop ends cannot open the second one.
      have hne : start' ≠ stop := by
        rintro rfl
        have hclash := h.closes.symm.trans h'.opens
        simp at hclash
      exact Or.inr (Or.inl (by omega))
  · subst heq
    exact Or.inl ⟨rfl, h.stop_unique h'⟩
  · by_cases hinside : start < stop'
    · have hstop := h'.stop_lt_of_start_lt h hgt hinside
      exact Or.inr (Or.inr (Or.inr (Or.inr ⟨hgt, hstop⟩)))
    · have hne : start ≠ stop' := by
        rintro rfl
        have hclash := h'.closes.symm.trans h.opens
        simp at hclash
      exact Or.inr (Or.inr (Or.inl (by omega)))

end Matched

end Loops

end TapeMachine
