/-
  The jump table of matching brackets.

  Main statement: there is a jump table exactly for balanced instructions.  It leads from
  every bracket to its partner and back, it is the only such matching, no two of its loops
  overlap in part, and both its loops and its keys come in a known order.
-/
import Mathlib.Data.List.Sort
import TapeMachine.Proofs.LoopTree

set_option autoImplicit false

namespace TapeMachine

namespace Loops

/-! ## When brackets match -/

/-- Matching does not fail when the open loops make up for what the instructions close. -/
theorem exists_matchFrom_of_height {code : List Instruction} {index : Nat} {pending : List Nat}
    {closed : List (Nat × Nat)} (hinside : ∀ place, 0 ≤ pending.length + height code place)
    (hend : pending.length + height code code.length = 0) :
    ∃ loops, matchFrom index pending closed code = .ok loops := by
  induction code generalizing index pending closed with
  | nil =>
      rw [List.length_nil, height_zero] at hend
      have hlength : pending.length = 0 := by omega
      obtain rfl := List.length_eq_zero_iff.1 hlength
      exact ⟨closed.reverse, rfl⟩
  | cons x rest ih =>
      -- What is known of the rest once `x` has changed the loops that are open.
      have hrest : ∀ pending' : List Nat, (pending'.length : Int) = pending.length + weight x →
          (∀ place, 0 ≤ pending'.length + height rest place) ∧
            pending'.length + height rest rest.length = 0 := by
        intro pending' hpending
        refine ⟨fun place => ?_, ?_⟩
        · have := hinside (place + 1)
          rw [height_cons] at this
          omega
        · rw [List.length_cons, height_cons] at hend
          omega
      cases x with
      | loopOpen =>
          obtain ⟨h, h'⟩ := hrest (index :: pending) (by simp [weight])
          exact ih h h'
      | loopClose =>
          cases pending with
          | nil =>
              have hfirst := hinside 1
              rw [height_cons, height_zero] at hfirst
              simp [weight] at hfirst
          | cons start pending =>
              have hlength : ((start :: pending).length : Int) = pending.length + 1 := by
                rw [List.length_cons]
                rfl
              obtain ⟨h, h'⟩ := hrest pending (by rw [hlength, weight, Int.add_neg_cancel_right])
              exact ih h h'
      | moveRight | moveLeft | increment | decrement | output | input =>
          exact (hrest pending (by simp [weight])).elim ih

theorem exists_ofInstructions_iff (code : List Instruction) :
    (∃ loops, ofInstructions code = .ok loops) ↔ Balanced code := by
  constructor
  · rintro ⟨loops, h⟩
    obtain ⟨b, rfl, _⟩ := (Block.loops_ofInstructions_iff code loops).1 h
    exact b.balanced_instructions
  · intro h
    obtain ⟨hinside, hend⟩ := (balanced_iff_height code).1 h
    exact exists_matchFrom_of_height (by simpa using hinside) (by simpa using hend)

/-! ## All the loops -/

/-- These are all the loops of the instructions, in the order in which they end. -/
structure Complete (code : List Instruction) (loops : List (Nat × Nat)) : Prop where
  matched : ∀ loop ∈ loops, Matched code loop.1 loop.2
  exists_stop : ∀ start, code[start]? = some .loopOpen → ∃ stop, (start, stop) ∈ loops
  exists_start : ∀ stop, code[stop]? = some .loopClose → ∃ start, (start, stop) ∈ loops
  ordered : loops.Pairwise fun loop loop' => loop.2 < loop'.2

theorem complete_of_ofInstructions {code : List Instruction} {loops : List (Nat × Nat)}
    (h : ofInstructions code = .ok loops) : Complete code loops := by
  obtain ⟨b, rfl, rfl⟩ := (Block.loops_ofInstructions_iff code loops).1 h
  have hwhole : Located b.instructions 0 b.instructions := Located.whole b.instructions
  have hbracket : ∀ (place : Nat) (x : Instruction), b.instructions[place]? = some x →
      place < 0 + b.length := by
    intro place x hx
    obtain ⟨hlt, _⟩ := List.getElem?_eq_some_iff.1 hx
    rw [Block.length_instructions] at hlt
    omega
  refine ⟨fun loop hloop => Block.matched_of_mem_loops hwhole hloop, fun start hstart => ?_,
    fun stop hstop => ?_, b.pairwise_loops 0⟩
  · exact (Block.exists_loop_of_bracket hwhole (Nat.zero_le start)
      (hbracket start _ hstart)).1 hstart
  · exact (Block.exists_loop_of_bracket hwhole (Nat.zero_le stop)
      (hbracket stop _ hstop)).2 hstop

/-- The places of an instruction, in increasing order. -/
def places (x : Instruction) (code : List Instruction) : List Nat :=
  (List.range code.length).filter fun place => decide (code[place]? = some x)

theorem mem_places {x : Instruction} {code : List Instruction} {place : Nat} :
    place ∈ places x code ↔ code[place]? = some x := by
  simp only [places, List.mem_filter, List.mem_range, decide_eq_true_eq, and_iff_right_iff_imp]
  intro h
  exact (List.getElem?_eq_some_iff.1 h).1

theorem places_ordered (x : Instruction) (code : List Instruction) :
    (places x code).Pairwise (· < ·) :=
  List.pairwise_lt_range.filter _

namespace Complete

variable {code : List Instruction} {loops : List (Nat × Nat)}

theorem mem_of_matched (h : Complete code loops) {start stop : Nat}
    (hmatched : Matched code start stop) : (start, stop) ∈ loops := by
  obtain ⟨stop', hmem⟩ := h.exists_stop start hmatched.opens
  rwa [hmatched.stop_unique (h.matched _ hmem)]

theorem map_stop_eq (h : Complete code loops) :
    loops.map (·.2) = places .loopClose code := by
  refine List.Pairwise.eq_of_mem_iff (List.pairwise_map.2 h.ordered) (places_ordered _ _) ?_
  intro place
  rw [List.mem_map, mem_places]
  constructor
  · rintro ⟨loop, hloop, rfl⟩
    exact (h.matched loop hloop).closes
  · intro hplace
    obtain ⟨start, hmem⟩ := h.exists_start place hplace
    exact ⟨(start, place), hmem, rfl⟩

theorem map_start_perm (h : Complete code loops) :
    (loops.map (·.1)).Perm (places .loopOpen code) := by
  have hnodup : (loops.map (·.1)).Nodup := by
    refine List.Nodup.map_on ?_ (h.ordered.imp fun hlt heq => ?_)
    · intro loop hloop loop' hloop' hstart
      have hmatched' := h.matched loop' hloop'
      rw [← hstart] at hmatched'
      exact Prod.ext hstart ((h.matched loop hloop).stop_unique hmatched')
    · rw [heq] at hlt
      exact Nat.lt_irrefl _ hlt
  have hplaces : (places .loopOpen code).Nodup := (places_ordered _ _).imp Nat.ne_of_lt
  rw [List.perm_ext_iff_of_nodup hnodup hplaces]
  intro place
  rw [List.mem_map, mem_places]
  constructor
  · rintro ⟨loop, hloop, rfl⟩
    exact (h.matched loop hloop).opens
  · intro hplace
    obtain ⟨stop, hmem⟩ := h.exists_stop place hplace
    exact ⟨(place, stop), hmem, rfl⟩

end Complete

end Loops

/-! ## Tables -/

namespace JumpTable

theorem lookup_eq_some_iff_mem {entries : List (Int × Int)}
    (h : (entries.map (·.1)).Nodup) (key target : Int) :
    entries.lookup key = some target ↔ (key, target) ∈ entries := by
  induction entries with
  | nil => simp
  | cons entry rest ih =>
      obtain ⟨k, t⟩ := entry
      rw [List.map_cons, List.nodup_cons] at h
      rw [List.lookup_cons, List.mem_cons, Prod.mk.injEq]
      by_cases hk : key = k
      · subst hk
        have hnot : (key, target) ∉ rest := fun hmem => h.1 (List.mem_map.2 ⟨_, hmem, rfl⟩)
        simp [hnot, eq_comm]
      · rw [beq_eq_false_iff_ne.2 hk]
        simpa [hk] using ih h.2

/-- The table of loops. -/
def ofLoops (loops : List (Nat × Nat)) : JumpTable := ⟨loops.flatMap Loops.jumps⟩

theorem ofInstructions_eq_ok_iff (code : List Instruction) (table : JumpTable) :
    ofInstructions code = .ok table ↔
      ∃ loops, Loops.ofInstructions code = .ok loops ∧ ofLoops loops = table := by
  unfold ofInstructions
  cases Loops.ofInstructions code with
  | error fault => simp [Except.map]
  | ok loops => simp [Except.map, ofLoops]

theorem mem_entries_ofLoops {loops : List (Nat × Nat)} {key target : Int} :
    (key, target) ∈ (ofLoops loops).entries ↔
      ∃ start stop : Nat, (start, stop) ∈ loops ∧
        ((key = start ∧ target = stop) ∨ (key = stop ∧ target = start)) := by
  simp only [ofLoops, Loops.jumps, List.mem_flatMap, List.mem_cons, List.not_mem_nil, or_false,
    Prod.mk.injEq, Prod.exists]

section OfLoops

variable {code : List Instruction} {loops : List (Nat × Nat)}

theorem nodup_keys_ofLoops (h : Loops.Complete code loops) : (ofLoops loops).keys.Nodup := by
  have hkeys : (ofLoops loops).keys =
      loops.flatMap fun loop => [(loop.1 : Int), (loop.2 : Int)] := by
    simp only [keys, ofLoops, List.map_flatMap]
    rfl
  rw [hkeys, List.nodup_flatMap]
  constructor
  · intro loop hloop
    have hlt := (h.matched loop hloop).start_lt_stop
    have hne : (loop.1 : Int) ≠ loop.2 := by omega
    simpa using hne
  · refine h.ordered.imp_of_mem fun {loop loop'} hloop hloop' hlt => ?_
    have hmatched := h.matched loop hloop
    have hmatched' := h.matched loop' hloop'
    have hstart : loop.1 ≠ loop'.1 := by
      intro heq
      rw [← heq] at hmatched'
      exact absurd (hmatched.stop_unique hmatched') (Nat.ne_of_lt hlt)
    -- A place holds one bracket, so it does not start one loop and end another.
    have hcross : loop.1 ≠ loop'.2 := by
      intro heq
      have hclash := hmatched.opens
      rw [heq, hmatched'.closes] at hclash
      simp at hclash
    have hcross' : loop.2 ≠ loop'.1 := by
      intro heq
      have hclash := hmatched'.opens
      rw [← heq, hmatched.closes] at hclash
      simp at hclash
    have hstop : loop.2 ≠ loop'.2 := Nat.ne_of_lt hlt
    simp only [Function.onFun, List.disjoint_cons_left, List.mem_cons, List.not_mem_nil, or_false,
      Int.ofNat_inj, List.disjoint_nil_left, and_true, not_or]
    exact ⟨⟨hstart, hcross⟩, hcross', hstop⟩

theorem target?_ofLoops (h : Loops.Complete code loops) (key target : Int) :
    (ofLoops loops).target? key = some target ↔
      ∃ start stop : Nat, (start, stop) ∈ loops ∧
        ((key = start ∧ target = stop) ∨ (key = stop ∧ target = start)) := by
  rw [target?, lookup_eq_some_iff_mem (nodup_keys_ofLoops h), mem_entries_ofLoops]

theorem target?_start (h : Loops.Complete code loops) {start stop : Nat}
    (hloop : (start, stop) ∈ loops) : (ofLoops loops).target? start = some (stop : Int) :=
  (target?_ofLoops h _ _).2 ⟨start, stop, hloop, Or.inl ⟨rfl, rfl⟩⟩

theorem target?_stop (h : Loops.Complete code loops) {start stop : Nat}
    (hloop : (start, stop) ∈ loops) : (ofLoops loops).target? stop = some (start : Int) :=
  (target?_ofLoops h _ _).2 ⟨start, stop, hloop, Or.inr ⟨rfl, rfl⟩⟩

/-- The forward entries are the loops, sorted by where they start. -/
theorem pairs_ofLoops_perm (h : Loops.Complete code loops) :
    (ofLoops loops).pairs.Perm (loops.map fun loop => ((loop.1 : Int), (loop.2 : Int))) := by
  have hfilter : (ofLoops loops).entries.filter (fun entry => decide (entry.1 < entry.2)) =
      loops.map fun loop => ((loop.1 : Int), (loop.2 : Int)) := by
    have hlt : ∀ loop ∈ loops, loop.1 < loop.2 := fun loop hloop =>
      (h.matched loop hloop).start_lt_stop
    clear h
    induction loops with
    | nil => rfl
    | cons loop rest ih =>
        have hforward : (loop.1 : Int) < loop.2 := Int.ofNat_lt.2 (hlt loop (by simp))
        have hbackward : ¬ (loop.2 : Int) < loop.1 := by omega
        have hrest := ih fun other hother => hlt other (List.mem_cons_of_mem _ hother)
        rw [ofLoops] at hrest
        rw [ofLoops, List.flatMap_cons, List.filter_append, hrest]
        simp [Loops.jumps, hforward, hbackward]
  rw [pairs, hfilter]
  exact List.mergeSort_perm _ _

theorem map_start_pairs (h : Loops.Complete code loops) :
    (ofLoops loops).pairs.map (·.1) =
      (Loops.places .loopOpen code).map fun (place : Nat) => (place : Int) := by
  have hsorted : ((ofLoops loops).pairs.map (·.1)).Pairwise (· ≤ ·) := by
    have hpairs : (ofLoops loops).pairs.Pairwise
        fun left right => decide (left.1 ≤ right.1) = true := by
      refine List.pairwise_mergeSort (fun a b c hab hbc => ?_) (fun a b => ?_) _
      · exact decide_eq_true (Int.le_trans (of_decide_eq_true hab) (of_decide_eq_true hbc))
      · simpa using Int.le_total a.1 b.1
    exact List.pairwise_map.2 (hpairs.imp of_decide_eq_true)
  have hplaces : ((Loops.places .loopOpen code).map fun (place : Nat) => (place : Int)).Pairwise
      (· ≤ ·) := by
    refine List.pairwise_map.2 ((Loops.places_ordered _ _).imp fun hlt => ?_)
    omega
  have hperm : ((ofLoops loops).pairs.map (·.1)).Perm
      ((Loops.places .loopOpen code).map fun (place : Nat) => (place : Int)) := by
    have hstarts := (pairs_ofLoops_perm h).map (·.1)
    rw [List.map_map] at hstarts
    refine hstarts.trans ?_
    have := h.map_start_perm.map fun (place : Nat) => (place : Int)
    rwa [List.map_map] at this
  exact hperm.eq_of_pairwise (fun a b _ _ => Int.le_antisymm) hsorted hplaces

theorem keys_ofLoops (h : Loops.Complete code loops) :
    (ofLoops loops).keys = (Loops.places .loopClose code).flatMap fun (stop : Nat) =>
      ((ofLoops loops).target? stop).toList ++ [(stop : Int)] := by
  rw [← h.map_stop_eq, List.flatMap_map, keys, ofLoops, List.map_flatMap]
  refine List.flatMap_congr fun loop hloop => ?_
  have hstop : (ofLoops loops).target? loop.2 = some (loop.1 : Int) := target?_stop h hloop
  rw [ofLoops] at hstop
  rw [hstop]
  rfl

end OfLoops

/-! ## The table of instructions -/

/-- The table pairs the brackets of the instructions. -/
structure Resolves (code : List Instruction) (table : JumpTable) : Prop where
  /-- The keys are the places of the brackets. -/
  mem_keys_iff : ∀ key : Int, key ∈ table.keys ↔
    ∃ place : Nat, key = place ∧ (code[place]? = some .loopOpen ∨ code[place]? = some .loopClose)
  nodup_keys : table.keys.Nodup
  /-- An opening bracket leads to the closing one behind it that ends a balanced segment,
  and that leads back. -/
  opens : ∀ start : Nat, code[start]? = some .loopOpen → ∃ stop : Nat,
    Loops.Matched code start stop ∧ table.target? start = some (stop : Int) ∧
      table.target? stop = some (start : Int)
  /-- A closing bracket leads to the opening one of its loop. -/
  closes : ∀ stop : Nat, code[stop]? = some .loopClose → ∃ start : Nat,
    Loops.Matched code start stop ∧ table.target? stop = some (start : Int)
  involutive : ∀ key target : Int, table.target? key = some target →
    table.target? target = some key
  /-- No other bracket behind an opening one ends a balanced segment. -/
  unique : ∀ start stop : Nat, Loops.Matched code start stop →
    table.target? start = some (stop : Int)
  apart_or_nested : ∀ left ∈ table.pairs, ∀ right ∈ table.pairs, left = right ∨
    left.2 < right.1 ∨ right.2 < left.1 ∨ (left.1 < right.1 ∧ right.2 < left.2) ∨
      (right.1 < left.1 ∧ left.2 < right.2)
  /-- The pairs list the opening brackets in order, each with its target. -/
  map_start_pairs : table.pairs.map (·.1) =
    (Loops.places .loopOpen code).map fun (place : Nat) => (place : Int)
  target?_of_mem_pairs : ∀ pair ∈ table.pairs, table.target? pair.1 = some pair.2
  /-- The keys come in the order of the closing brackets, each behind its partner. -/
  keys_eq : table.keys = (Loops.places .loopClose code).flatMap fun (stop : Nat) =>
    (table.target? stop).toList ++ [(stop : Int)]

theorem resolves_ofLoops {code : List Instruction} {loops : List (Nat × Nat)}
    (h : Loops.Complete code loops) : (ofLoops loops).Resolves code where
  mem_keys_iff key := by
    rw [keys_ofLoops h]
    simp only [List.mem_flatMap, Loops.mem_places, List.mem_append, Option.mem_toList,
      List.mem_singleton]
    constructor
    · rintro ⟨stop, hstop, htarget | rfl⟩
      · obtain ⟨start, hloop⟩ := h.exists_start stop hstop
        rw [target?_stop h hloop, Option.some.injEq] at htarget
        exact ⟨start, htarget.symm, Or.inl (h.matched _ hloop).opens⟩
      · exact ⟨stop, rfl, Or.inr hstop⟩
    · rintro ⟨place, rfl, hopen | hclose⟩
      · obtain ⟨stop, hloop⟩ := h.exists_stop place hopen
        exact ⟨stop, (h.matched _ hloop).closes, Or.inl (target?_stop h hloop)⟩
      · exact ⟨place, hclose, Or.inr rfl⟩
  nodup_keys := nodup_keys_ofLoops h
  opens start hstart := by
    obtain ⟨stop, hloop⟩ := h.exists_stop start hstart
    exact ⟨stop, h.matched _ hloop, target?_start h hloop, target?_stop h hloop⟩
  closes stop hstop := by
    obtain ⟨start, hloop⟩ := h.exists_start stop hstop
    exact ⟨start, h.matched _ hloop, target?_stop h hloop⟩
  involutive key target htarget := by
    obtain ⟨start, stop, hloop, ⟨rfl, rfl⟩ | ⟨rfl, rfl⟩⟩ := (target?_ofLoops h _ _).1 htarget
    · exact target?_stop h hloop
    · exact target?_start h hloop
  unique start stop hmatched := target?_start h (h.mem_of_matched hmatched)
  apart_or_nested left hleft right hright := by
    have hmem := (pairs_ofLoops_perm h).mem_iff (a := left)
    have hmem' := (pairs_ofLoops_perm h).mem_iff (a := right)
    obtain ⟨loop, hloop, rfl⟩ := List.mem_map.1 (hmem.1 hleft)
    obtain ⟨loop', hloop', rfl⟩ := List.mem_map.1 (hmem'.1 hright)
    have hnested := (h.matched loop hloop).apart_or_nested (h.matched loop' hloop')
    simp only [Prod.mk.injEq]
    omega
  map_start_pairs := map_start_pairs h
  target?_of_mem_pairs pair hpair := by
    have hmem := (pairs_ofLoops_perm h).mem_iff (a := pair)
    obtain ⟨loop, hloop, rfl⟩ := List.mem_map.1 (hmem.1 hpair)
    exact target?_start h hloop
  keys_eq := keys_ofLoops h

theorem resolves_of_ofInstructions {code : List Instruction} {table : JumpTable}
    (h : ofInstructions code = .ok table) : table.Resolves code := by
  obtain ⟨loops, hloops, rfl⟩ := (ofInstructions_eq_ok_iff code table).1 h
  exact resolves_ofLoops (Loops.complete_of_ofInstructions hloops)

/-- Instructions have a jump table exactly when they are balanced, and then it pairs
their brackets. -/
theorem ofInstructions_resolves (code : List Instruction) :
    ((∃ table, ofInstructions code = .ok table) ↔ Loops.Balanced code) ∧
      ∀ table, ofInstructions code = .ok table → table.Resolves code := by
  refine ⟨?_, fun table h => resolves_of_ofInstructions h⟩
  rw [← Loops.exists_ofInstructions_iff]
  constructor
  · rintro ⟨table, h⟩
    obtain ⟨loops, hloops, _⟩ := (ofInstructions_eq_ok_iff code table).1 h
    exact ⟨loops, hloops⟩
  · rintro ⟨loops, hloops⟩
    exact ⟨ofLoops loops, (ofInstructions_eq_ok_iff code _).2 ⟨loops, hloops, rfl⟩⟩

/-- Two loops side by side, the first of them around another one. -/
theorem ofInstructions_resolves_nested : ∃ table,
    ofInstructions [.loopOpen, .loopOpen, .loopClose, .increment, .loopClose, .loopOpen,
      .loopClose] = .ok table ∧
    table.Resolves [.loopOpen, .loopOpen, .loopClose, .increment, .loopClose, .loopOpen,
      .loopClose] :=
  ⟨⟨[(1, 2), (2, 1), (0, 4), (4, 0), (5, 6), (6, 5)]⟩, rfl, (ofInstructions_resolves _).2 _ rfl⟩

end JumpTable

end TapeMachine
