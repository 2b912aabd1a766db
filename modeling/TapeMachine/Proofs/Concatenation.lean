/-
  Programs one after another.

  Two programs are put together by moving the jumps of the second one behind the first one.
  Main statement: source texts that compile, put together, compile to their programs put
  together; either program is a part of the whole, whose jumps stay within it.
-/
import TapeMachine.Proofs.Safety

set_option autoImplicit false

namespace TapeMachine

/-! ## Moved loops -/

namespace Block

/-- The loops of a block move with it. -/
theorem loops_add (b : Block) (offset moved : Nat) :
    b.loops (offset + moved) =
      (b.loops offset).map fun loop => (loop.1 + moved, loop.2 + moved) := by
  induction b generalizing offset with
  | done => rfl
  | basic operation rest ih =>
      rw [loops, loops, ← ih (offset + 1), Nat.add_right_comm]
  | loop body rest ihBody ihRest =>
      have hbody : offset + moved + 1 = offset + 1 + moved := by omega
      have hrest : offset + moved + 1 + body.length + 1 = offset + 1 + body.length + 1 + moved := by
        omega
      have hstop : offset + moved + 1 + body.length = offset + 1 + body.length + moved := by omega
      rw [loops, loops, hrest, hstop, hbody, ihBody, ihRest, List.map_append, List.map_cons]

end Block

/-- The loops of instructions put together are those of the first part and, moved, those of
the second one. -/
theorem Loops.ofInstructions_append {left right : List Instruction}
    {loops loops' : List (Nat × Nat)} (h : ofInstructions left = .ok loops)
    (h' : ofInstructions right = .ok loops') :
    ofInstructions (left ++ right) = .ok (loops ++
      loops'.map fun loop => (loop.1 + left.length, loop.2 + left.length)) := by
  obtain ⟨first, rfl, rfl⟩ := (Block.loops_ofInstructions_iff left loops).1 h
  obtain ⟨second, rfl, rfl⟩ := (Block.loops_ofInstructions_iff right loops').1 h'
  have hright : second.instructions ++ [] = second.instructions := List.append_nil _
  rw [ofInstructions, first.matchFrom_instructions, ← hright, second.matchFrom_instructions,
    matchFrom, ← second.loops_add, first.length_instructions]
  simp

/-! ## Moved tables -/

namespace JumpTable

/-- The table with all its jumps moved. -/
def move (table : JumpTable) (offset : Int) : JumpTable :=
  ⟨table.entries.map fun entry => (entry.1 + offset, entry.2 + offset)⟩

/-- The entries of one table and behind them those of another one. -/
def append (table other : JumpTable) : JumpTable := ⟨table.entries ++ other.entries⟩

theorem lookup_map_add (entries : List (Int × Int)) (key offset : Int) :
    (entries.map fun entry => (entry.1 + offset, entry.2 + offset)).lookup (key + offset) =
      (entries.lookup key).map (· + offset) := by
  induction entries with
  | nil => rfl
  | cons entry rest ih =>
      obtain ⟨k, t⟩ := entry
      rw [List.map_cons, List.lookup_cons, List.lookup_cons, ih]
      by_cases hkey : key = k
      · simp [hkey]
      · have hmoved : key + offset ≠ k + offset := by omega
        rw [beq_eq_false_iff_ne.2 hkey, beq_eq_false_iff_ne.2 hmoved]

theorem target?_move (table : JumpTable) (key offset : Int) :
    (table.move offset).target? (key + offset) = (table.target? key).map (· + offset) :=
  lookup_map_add table.entries key offset

theorem target?_append (table other : JumpTable) (key : Int) :
    (table.append other).target? key = (table.target? key).or (other.target? key) :=
  List.lookup_append

theorem ofLoops_append (loops loops' : List (Nat × Nat)) (offset : Nat) :
    ofLoops (loops ++ loops'.map fun loop => (loop.1 + offset, loop.2 + offset)) =
      (ofLoops loops).append ((ofLoops loops').move offset) := by
  simp [ofLoops, append, move, Loops.jumps, List.flatMap_map, List.map_flatMap]

theorem ofInstructions_append {left right : List Instruction} {table table' : JumpTable}
    (h : ofInstructions left = .ok table) (h' : ofInstructions right = .ok table') :
    ofInstructions (left ++ right) = .ok (table.append (table'.move left.length)) := by
  obtain ⟨loops, hloops, rfl⟩ := (ofInstructions_eq_ok_iff left table).1 h
  obtain ⟨loops', hloops', rfl⟩ := (ofInstructions_eq_ok_iff right table').1 h'
  exact (ofInstructions_eq_ok_iff _ _).2
    ⟨_, Loops.ofInstructions_append hloops hloops', ofLoops_append loops loops' left.length⟩

section Places

variable {code : List Instruction} {table : JumpTable} {key : Int}

/-- Only places of the instructions have targets. -/
theorem Resolves.exists_place_of_target? (h : table.Resolves code) {target : Int}
    (htarget : table.target? key = some target) :
    ∃ place : Nat, key = place ∧ place < code.length := by
  have hentry := (lookup_eq_some_iff_mem h.nodup_keys key target).1 htarget
  obtain ⟨place, hplace, hbracket⟩ := (h.mem_keys_iff key).1 (List.mem_map.2 ⟨_, hentry, rfl⟩)
  refine ⟨place, hplace, ?_⟩
  rcases hbracket with hopen | hclose
  · exact (List.getElem?_eq_some_iff.1 hopen).1
  · exact (List.getElem?_eq_some_iff.1 hclose).1

theorem Resolves.target?_eq_none (h : table.Resolves code) (hkey : (code.length : Int) ≤ key) :
    table.target? key = none := by
  cases htarget : table.target? key with
  | none => rfl
  | some target =>
      obtain ⟨place, hplace, hlt⟩ := h.exists_place_of_target? htarget
      omega

end Places

end JumpTable

/-! ## Programs put together -/

namespace Program

/-- A program and behind it another one, whose jumps are moved. -/
def append (first second : Program) : Program :=
  ⟨first.code ++ second.code, first.jumps.append (second.jumps.move first.length)⟩

instance : Append Program := ⟨append⟩

theorem instructions_append (first second : Program) :
    (first ++ second).instructions = first.instructions ++ second.instructions :=
  Array.toList_append

theorem length_append (first second : Program) :
    (first ++ second).length = first.length + second.length :=
  Array.size_append

theorem jumps_append (first second : Program) :
    (first ++ second).jumps = first.jumps.append (second.jumps.move first.length) := rfl

/-- The jumps of programs put together are those of the first one and, moved, those of the
second one. -/
theorem target?_append_iff {first second : Program}
    (h : first.jumps.Resolves first.instructions)
    (h' : second.jumps.Resolves second.instructions) (key target : Int) :
    (first ++ second).jumps.target? key = some target ↔
      first.jumps.target? key = some target ∨
        second.jumps.target? (key - first.length) = some (target - first.length) := by
  have hmoved : (second.jumps.move first.length).target? key =
      (second.jumps.target? (key - first.length)).map (· + (first.length : Int)) := by
    rw [← JumpTable.target?_move, Int.sub_add_cancel]
  rw [jumps_append, JumpTable.target?_append, hmoved]
  cases hsecond : second.jumps.target? (key - first.length) with
  | none => simp
  | some place =>
      -- A place of the second program, moved, is none of the first one.
      obtain ⟨inside, hinside, _⟩ := h'.exists_place_of_target? hsecond
      have hfirst : first.jumps.target? key = none := by
        refine h.target?_eq_none ?_
        rw [first.length_instructions]
        omega
      have hplace : place + first.length = target ↔ place = target - first.length := by omega
      simpa [hfirst] using hplace

/-- Source texts that compile, put together, compile to their programs put together. -/
theorem compile_append {left right : String} {first second : Program}
    (h : compile left = .ok first) (h' : compile right = .ok second) :
    compile (left ++ right) = .ok (first ++ second) := by
  have hlex : Instruction.lex (left ++ right) = first.instructions ++ second.instructions := by
    rw [instructions_of_compile h, instructions_of_compile h', Instruction.lex,
      String.toList_append, Instruction.lexChars_append]
    rfl
  rw [compile, ofInstructions, hlex,
    JumpTable.ofInstructions_append (jumps_of_compile h) (jumps_of_compile h'),
    length_instructions]
  have hcode : (first.instructions ++ second.instructions).toArray = first.code ++ second.code := by
    rw [← instructions_append]
    rfl
  rw [Except.map, hcode]
  rfl

/-! ## Parts of programs -/

/-- From an offset on the whole program begins with the part, and its jumps there are those
of the part. -/
structure Contains (whole : Program) (offset : Nat) (part : Program) : Prop where
  located : Located whole.instructions offset part.instructions
  target?_eq : ∀ key target, part.jumps.target? key = some target →
    whole.jumps.target? (key + offset) = some (target + offset)

theorem Contains.fetch?_of_eq_some {whole part : Program} {offset place : Nat} {x : Instruction}
    (h : whole.Contains offset part) (hfetch : part.fetch? place = some x) :
    whole.fetch? (place + offset) = some x := by
  rw [part.fetch?_natCast] at hfetch
  have hlocated := h.located place (List.getElem?_eq_some_iff.1 hfetch).1
  rwa [hfetch, Nat.add_comm, ← whole.fetch?_natCast, Int.natCast_add] at hlocated

theorem Contains.lt_length {whole part : Program} {offset place : Nat}
    (h : whole.Contains offset part) (hlt : place < part.length) :
    place + offset < whole.length := by
  rw [← part.length_instructions] at hlt
  have hlocated := h.located place hlt
  rw [List.getElem?_eq_getElem hlt] at hlocated
  have hinside := (List.getElem?_eq_some_iff.1 hlocated).1
  rwa [whole.length_instructions, Nat.add_comm] at hinside

theorem contains_append_left (first second : Program) : (first ++ second).Contains 0 first where
  located := by
    have hwhole := Located.whole (first ++ second).instructions
    rw [instructions_append] at hwhole ⊢
    exact hwhole.front
  target?_eq key target h := by
    simp only [jumps_append, JumpTable.target?_append, h, Int.ofNat_zero, Int.add_zero]
    rfl

theorem contains_append_right {first second : Program}
    (h : first.jumps.Resolves first.instructions)
    (h' : second.jumps.Resolves second.instructions) :
    (first ++ second).Contains first.length second where
  located := by
    have hwhole := Located.whole (first ++ second).instructions
    rw [instructions_append] at hwhole ⊢
    have hbehind := hwhole.behind
    rwa [Nat.zero_add, first.length_instructions] at hbehind
  target?_eq key target htarget := by
    -- The moved place lies behind all places of the first program.
    obtain ⟨place, rfl, _⟩ := h'.exists_place_of_target? htarget
    have hbehind : (first.instructions.length : Int) ≤ place + first.length := by
      rw [first.length_instructions]
      omega
    rw [jumps_append, JumpTable.target?_append, h.target?_eq_none hbehind,
      JumpTable.target?_move, htarget]
    rfl

end Program

end TapeMachine
