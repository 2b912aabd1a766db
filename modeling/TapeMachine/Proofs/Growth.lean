/-
  Tapes that grow by doubling.

  When a tape has no allocated cell left it copies its cells into a larger row.  Main
  statement: after any operations the capacity is the first one doubled once for each growth
  and cut to the limit, no fewer growths would do, every growth allocates what it is asked for,
  and all growths together have copied fewer than twice as many cells as there are in use.
-/
import Mathlib.Algebra.GroupWithZero.Nat
import Mathlib.Order.Bounds.Defs
import TapeMachine.Proofs.AllocatedTape

set_option autoImplicit false

namespace TapeMachine

/-! ## Growths -/

/-- A growth of a tape. -/
structure Growth where
  /-- The number of cells that are asked for. -/
  needed : Nat
  /-- The number of cells that are copied. -/
  copied : Nat
  /-- The number of cells that are allocated afterwards. -/
  allocated : Nat
  deriving DecidableEq, Repr

/-- A tape with its allocated cells that keeps a list of its growths, the last one first. -/
structure GrowingTape where
  tape : AllocatedTape
  growths : List Growth

theorem AllocatedTape.size_cells_grow (t : AllocatedTape) (needed : Nat) :
    (t.grow needed).cells.size = Tape.clip t.limit (max needed (2 * t.cells.size)) := by
  simp [grow]

namespace GrowingTape

/-- The tape with a cell allocated at a place. -/
def makeRoom (t : GrowingTape) (place : Nat) : GrowingTape :=
  if t.tape.cells.size ≤ place then
    let grown := t.tape.grow (place + 1)
    ⟨grown, ⟨place + 1, t.tape.cells.size, grown.cells.size⟩ :: t.growths⟩
  else t

/-- Moves the pointer to the right, onto an allocated cell. -/
def moveRight (t : GrowingTape) : GrowingTape × Option Fault :=
  let next := t.tape.pointer + 1
  if t.tape.size ≤ next then
    match t.tape.limit.filter (· ≤ next) with
    | some bound => (t, some (.overflow bound))
    | none =>
        let roomy := t.makeRoom next
        ({ roomy with tape := { roomy.tape with size := next + 1, pointer := next } }, none)
  else ({ t with tape := { t.tape with pointer := next } }, none)

/-- Performs an operation on a tape. -/
def perform (operation : Operation) (t : GrowingTape) : GrowingTape × Option Refused :=
  match operation with
  | .moveRight => t.moveRight.map id (Option.map .fault)
  | other => (t.tape.perform other).map (fun tape => { t with tape }) id

/-! ## The tape without the list -/

theorem tape_makeRoom (t : GrowingTape) (place : Nat) :
    (t.makeRoom place).tape = t.tape.makeRoom place := by
  rw [makeRoom, AllocatedTape.makeRoom]
  split <;> rfl

theorem tape_moveRight (t : GrowingTape) : t.moveRight.map tape id = t.tape.moveRight := by
  simp only [moveRight, AllocatedTape.moveRight, ← tape_makeRoom]
  split
  · cases t.tape.limit.filter (· ≤ t.tape.pointer + 1) with
    | some | none => rfl
  · rfl

/-- Keeping the list of growths changes nothing. -/
theorem tape_perform (operation : Operation) (t : GrowingTape) :
    (t.perform operation).map tape id = t.tape.perform operation := by
  cases operation with
  | moveRight =>
      rw [AllocatedTape.perform, ← tape_moveRight]
      rfl
  | moveLeft | increment | decrement | write => rfl

end GrowingTape

/-! ## Doubling -/

namespace Tape

theorem clip_le_self (limit : Option Nat) (count : Nat) : clip limit count ≤ count := by
  cases limit with
  | none => exact Nat.le_refl count
  | some bound => exact Nat.min_le_left count bound

/-- A number of cells below the limit has not been cut. -/
theorem eq_of_clip_lt {limit : Option Nat} {count : Nat}
    (h : ∀ bound, limit = some bound → clip limit count < bound) : clip limit count = count := by
  cases limit with
  | none => rfl
  | some bound =>
      have hlt := h bound rfl
      rw [clip] at hlt ⊢
      omega

/-- The capacity after a number of doublings. -/
def doubled (limit : Option Nat) (first count : Nat) : Nat :=
  clip limit (first * 2 ^ count)

end Tape

namespace GrowingTape

open Tape (doubled)

/-- The growths of the tape have doubled its capacity, none of them too early. -/
structure Doubles (limit : Option Nat) (first : Nat) (t : GrowingTape) : Prop where
  limit_eq : t.tape.limit = limit
  pointer_lt_size : t.tape.pointer < t.tape.size
  size_le_capacity : t.tape.size ≤ t.tape.cells.size
  capacity_eq : t.tape.cells.size = doubled limit first t.growths.length
  /-- Fewer growths would not have sufficed. -/
  doubled_lt_size : ∀ count < t.growths.length, doubled limit first count < t.tape.size
  /-- The cells copied are a geometric sum. -/
  copied_add : (t.growths.map Growth.copied).sum + first = first * 2 ^ t.growths.length
  needed_le : ∀ growth ∈ t.growths, growth.needed ≤ growth.allocated

section Doubles

variable {limit : Option Nat} {first : Nat} {t : GrowingTape}

/-- An operation that neither allocates nor uses cells. -/
theorem Doubles.of_same_size (h : Doubles limit first t) {tape : AllocatedTape}
    (hlimit : tape.limit = t.tape.limit) (hsize : tape.size = t.tape.size)
    (hcapacity : tape.cells.size = t.tape.cells.size) (hpointer : tape.pointer < tape.size) :
    Doubles limit first { t with tape } where
  limit_eq := hlimit.trans h.limit_eq
  pointer_lt_size := hpointer
  size_le_capacity := by
    rw [hsize, hcapacity]
    exact h.size_le_capacity
  capacity_eq := hcapacity.trans h.capacity_eq
  doubled_lt_size count hcount := by
    rw [hsize]
    exact h.doubled_lt_size count hcount
  copied_add := h.copied_add
  needed_le := h.needed_le

/-- The tape uses one more of its allocated cells. -/
theorem Doubles.next (h : Doubles limit first t) (hroom : t.tape.size < t.tape.cells.size) :
    Doubles limit first { t with
      tape := { t.tape with size := t.tape.size + 1, pointer := t.tape.size } } where
  limit_eq := h.limit_eq
  pointer_lt_size := Nat.lt_succ_self t.tape.size
  size_le_capacity := hroom
  capacity_eq := h.capacity_eq
  doubled_lt_size count hcount := Nat.lt_succ_of_lt (h.doubled_lt_size count hcount)
  copied_add := h.copied_add
  needed_le := h.needed_le

/-- The tape uses the first cell of those that a growth allocates.  The growth was due, since
all cells were in use, and it doubles, since the limit did not cut their number. -/
theorem Doubles.grow (h : Doubles limit first t) (hfull : t.tape.cells.size = t.tape.size)
    (hallowed : ∀ bound, limit = some bound → t.tape.size < bound) :
    let grown := t.tape.grow (t.tape.size + 1)
    Doubles limit first
      ⟨{ grown with size := t.tape.size + 1, pointer := t.tape.size },
        ⟨t.tape.size + 1, t.tape.cells.size, grown.cells.size⟩ :: t.growths⟩ := by
  intro grown
  have hpointer := h.pointer_lt_size
  have hcut : t.tape.size = first * 2 ^ t.growths.length := by
    have hcapacity := hfull.symm.trans h.capacity_eq
    rw [hcapacity]
    refine Tape.eq_of_clip_lt fun bound hbound => ?_
    rw [← doubled, ← hcapacity]
    exact hallowed bound hbound
  have hgrown : grown.cells.size = Tape.clip limit (2 * t.tape.size) := by
    rw [AllocatedTape.size_cells_grow, h.limit_eq, hfull, Nat.max_eq_right (by omega)]
  have hneeded : t.tape.size + 1 ≤ grown.cells.size := by
    rw [hgrown]
    exact Tape.le_clip (by omega) hallowed
  constructor
  case limit_eq => exact h.limit_eq
  case pointer_lt_size => exact Nat.lt_succ_self t.tape.size
  case size_le_capacity => exact hneeded
  case capacity_eq =>
    rw [hgrown, doubled, List.length_cons, Nat.pow_succ, ← Nat.mul_assoc, ← hcut, Nat.mul_comm]
  case doubled_lt_size =>
    intro count hcount
    have hpow : 2 ^ count ≤ 2 ^ t.growths.length :=
      Nat.pow_le_pow_right (by decide) (Nat.le_of_lt_succ hcount)
    calc doubled limit first count ≤ first * 2 ^ count := Tape.clip_le_self _ _
      _ ≤ first * 2 ^ t.growths.length := Nat.mul_le_mul_left first hpow
      _ < t.tape.size + 1 := by omega
  case copied_add =>
    have hsum := h.copied_add
    simp only [List.map_cons, List.sum_cons, List.length_cons, Nat.pow_succ, ← Nat.mul_assoc]
    omega
  case needed_le =>
    intro growth hgrowth
    rcases List.mem_cons.1 hgrowth with rfl | hearlier
    · exact hneeded
    · exact h.needed_le growth hearlier

theorem Doubles.moveRight (h : Doubles limit first t) : Doubles limit first t.moveRight.1 := by
  have hpointer := h.pointer_lt_size
  have hcapacity := h.size_le_capacity
  simp only [GrowingTape.moveRight]
  split
  case isTrue hbeyond =>
    have hlast : t.tape.pointer + 1 = t.tape.size := by omega
    split
    case h_1 => exact h
    case h_2 hfilter =>
      rw [hlast] at hfilter ⊢
      by_cases hfull : t.tape.cells.size ≤ t.tape.size
      · rw [makeRoom, if_pos hfull]
        refine h.grow (by omega) fun bound hbound => ?_
        rw [h.limit_eq, hbound] at hfilter
        simpa using hfilter
      · rw [makeRoom, if_neg hfull]
        exact h.next (by omega)
  case isFalse hinside => exact h.of_same_size rfl rfl rfl (Nat.lt_of_not_le hinside)

theorem Doubles.perform (h : Doubles limit first t) (operation : Operation) :
    Doubles limit first (t.perform operation).1 := by
  have hpointer := h.pointer_lt_size
  have hput : ∀ cell, Doubles limit first { t with tape := t.tape.put cell } := fun cell =>
    h.of_same_size rfl rfl (by simp [AllocatedTape.put]) hpointer
  cases operation with
  | moveRight => exact h.moveRight
  | moveLeft =>
      simp only [GrowingTape.perform, AllocatedTape.perform]
      split
      · exact h
      · exact h.of_same_size rfl rfl rfl (Nat.lt_of_le_of_lt (Nat.sub_le ..) hpointer)
  | increment | decrement => exact hput _
  | write value =>
      simp only [GrowingTape.perform, AllocatedTape.perform]
      split
      · exact hput _
      · exact h

end Doubles

end GrowingTape

/-! ## New tapes -/

namespace Tape

/-- A new tape doubles a capacity of at least one cell that the limit allows. -/
theorem doubles_blankTape {capacity : Nat} {limit : Option Nat} (hcapacity : 1 ≤ capacity)
    (hlimit : ∀ bound, limit = some bound → capacity ≤ bound) :
    GrowingTape.Doubles limit capacity
      ⟨(blankTape capacity limit hcapacity hlimit).written, []⟩ where
  limit_eq := rfl
  pointer_lt_size := Nat.one_pos
  size_le_capacity := by
    rw [size_cells_written]
    exact hcapacity
  capacity_eq := by
    rw [size_cells_written, doubled, List.length_nil, Nat.pow_zero, Nat.mul_one]
    exact Nat.le_antisymm (le_clip (Nat.le_refl _) hlimit) (clip_le_self limit capacity)
  doubled_lt_size _ hcount := absurd hcount (Nat.not_lt_zero _)
  copied_add := by simp
  needed_le := by simp

theorem exists_doubles_of_create (capacity : Int) {limit : Option Int}
    (hlimit : ∀ bound, limit = some bound → 1 ≤ bound) :
    ∃ t, create capacity limit = some t ∧
      GrowingTape.Doubles (limit.map Int.toNat)
        (clip (limit.map Int.toNat) (max 1 capacity).toNat) ⟨t.written, []⟩ := by
  have hwanted : (max 1 capacity).toNat = max 1 capacity.toNat := by omega
  rw [hwanted]
  cases limit with
  | none => exact ⟨_, rfl, doubles_blankTape _ _⟩
  | some bound =>
      rw [create, dif_pos (hlimit bound rfl)]
      exact ⟨_, rfl, doubles_blankTape _ _⟩

/-- What the growths of a tape have made of it. -/
structure Amortised (limit : Option Nat) (first : Nat) (t : Tape) (growths : List Growth) :
    Prop where
  capacity_eq : t.capacity = doubled limit first growths.length
  isLeast : IsLeast { count | t.size ≤ doubled limit first count } growths.length
  copied_lt : (growths.map Growth.copied).sum < 2 * t.size
  needed_le : ∀ growth ∈ growths, growth.needed ≤ growth.allocated

theorem amortised_of_doubles {limit : Option Nat} {first : Nat} {t : Tape}
    {growths : List Growth} (h : GrowingTape.Doubles limit first ⟨t.written, growths⟩) :
    Amortised limit first t growths := by
  have hcapacity : t.capacity = doubled limit first growths.length := by
    rw [← h.capacity_eq, size_cells_written]
  have hsize : t.size ≤ doubled limit first growths.length := hcapacity ▸ t.size_le_capacity
  have hfewer : ∀ count < growths.length, doubled limit first count < t.size :=
    h.doubled_lt_size
  constructor
  case capacity_eq => exact hcapacity
  case isLeast =>
    refine ⟨hsize, fun count hcount => Nat.le_of_not_lt fun hless => ?_⟩
    exact Nat.not_lt.2 hcount (hfewer count hless)
  case copied_lt =>
    have hpositive : t.pointer < t.size := t.pointer_lt_size
    have hcopied : (growths.map Growth.copied).sum + first = first * 2 ^ growths.length :=
      h.copied_add
    cases hcount : growths.length with
    | zero =>
        rw [hcount, Nat.pow_zero] at hcopied
        omega
    | succ count =>
        -- The growth before the last one left a capacity that the limit had not cut.
        have hless := hfewer count (by omega)
        have hcut : doubled limit first count = first * 2 ^ count := by
          refine eq_of_clip_lt fun bound hbound => ?_
          have hlimit := t.capacity_le_limit bound (h.limit_eq.trans hbound)
          rw [← doubled]
          omega
        rw [hcount, Nat.pow_succ, ← Nat.mul_assoc, ← hcut] at hcopied
        omega
  case needed_le => exact h.needed_le

/-- Whatever its capacity and its limit, and whatever is done to it, a new tape grows by
doubling, only when it has to, and copies few cells. -/
theorem amortised_of_create (capacity : Int) (limit : Option Int)
    (hlimit : ∀ bound, limit = some bound → 1 ≤ bound) :
    ∃ t : Tape, create capacity limit = some t ∧ ∀ operations : List Operation,
      let last := performAll perform operations t
      let growing := performAll GrowingTape.perform operations ⟨t.written, []⟩
      growing.1.tape = last.1.written ∧ growing.2 = last.2 ∧
        Amortised (limit.map Int.toNat) (clip (limit.map Int.toNat) (max 1 capacity).toNat)
          last.1 growing.1.growths := by
  obtain ⟨t, hcreate, hdoubles⟩ := exists_doubles_of_create capacity hlimit
  refine ⟨t, hcreate, fun operations => ?_⟩
  intro last growing
  obtain ⟨⟨htape, hlast⟩, hraised⟩ := performAll_related GrowingTape.perform
    AllocatedTape.perform operations
    (R := fun growing tape => growing.tape = tape ∧ GrowingTape.Doubles (limit.map Int.toNat)
      (clip (limit.map Int.toNat) (max 1 capacity).toNat) growing)
    ⟨rfl, hdoubles⟩ (by
      rintro operation growing _ ⟨rfl, h⟩
      rw [← GrowingTape.tape_perform]
      exact ⟨⟨rfl, h.perform operation⟩, rfl⟩)
  rw [← written_performAll] at htape hraised
  have hwritten : growing.1.tape = last.1.written := htape
  refine ⟨hwritten, hraised, amortised_of_doubles ?_⟩
  rw [← hwritten]
  exact hlast

/-- Two cells are doubled to four, which are cut to five instead of doubled to eight. -/
theorem amortised_of_create_five :
    (∀ bound : Int, some 5 = some bound → 1 ≤ bound) ∧ ∃ t : Tape,
      create 2 (some 5) = some t ∧
        let last := performAll perform (List.replicate 4 .moveRight) t
        let growing := performAll GrowingTape.perform (List.replicate 4 .moveRight)
          ⟨t.written, []⟩
        last.1.capacity = 5 ∧ growing.1.growths = [⟨5, 4, 5⟩, ⟨3, 2, 4⟩] ∧
          Amortised (some 5) 2 last.1 growing.1.growths := by
  have hlimit : ∀ bound : Int, some 5 = some bound → 1 ≤ bound := by
    rintro _ ⟨⟩
    decide
  obtain ⟨t, hcreate, hgrows⟩ := amortised_of_create 2 (some 5) hlimit
  refine ⟨hlimit, t, hcreate, ?_⟩
  obtain ⟨_, _, hamortised⟩ := hgrows (List.replicate 4 .moveRight)
  cases hcreate
  exact ⟨rfl, rfl, hamortised⟩

end Tape

end TapeMachine
