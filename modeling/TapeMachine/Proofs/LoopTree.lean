/-
  Loop trees.

  A block is a program whose loops are trees instead of pairs of brackets.  Main
  statements: matching the brackets of a block finds its loops in the order in which they
  end; instructions whose brackets match are those of one block and of no other.
-/
import TapeMachine.Proofs.Brackets

set_option autoImplicit false

namespace TapeMachine

/-! ## Parts of instructions -/

/-- The instructions from an offset on begin with a part. -/
def Located (code : List Instruction) (offset : Nat) (part : List Instruction) : Prop :=
  ∀ k, k < part.length → code[offset + k]? = part[k]?

namespace Located

variable {code part left right : List Instruction} {offset : Nat} {x : Instruction}

theorem whole (code : List Instruction) : Located code 0 code := by
  intro k _
  rw [Nat.zero_add]

theorem first (h : Located code offset (x :: part)) : code[offset]? = some x := by
  simpa using h 0 (by simp)

theorem front (h : Located code offset (left ++ right)) : Located code offset left := by
  intro k hk
  have hlt : k < (left ++ right).length := by
    rw [List.length_append]
    omega
  rw [h k hlt, List.getElem?_append_left hk]

theorem behind (h : Located code offset (left ++ right)) :
    Located code (offset + left.length) right := by
  intro k hk
  have hlt : left.length + k < (left ++ right).length := by
    rw [List.length_append]
    omega
  rw [Nat.add_assoc, h _ hlt, List.getElem?_append_right (Nat.le_add_right ..),
    Nat.add_sub_cancel_left]

theorem next (h : Located code offset (x :: part)) : Located code (offset + 1) part := by
  rw [← List.singleton_append] at h
  exact h.behind

theorem extract (h : Located code offset part) :
    code.extract offset (offset + part.length) = part := by
  apply List.ext_getElem?
  intro k
  rw [List.extract_eq_take_drop, Nat.add_sub_cancel_left]
  by_cases hk : k < part.length
  · rw [List.getElem?_take_of_lt hk, List.getElem?_drop, h k hk]
  · have hbeyond : part.length ≤ k := Nat.le_of_not_lt hk
    rw [List.getElem?_take_eq_none hbeyond, List.getElem?_eq_none hbeyond]

end Located

/-! ## Blocks -/

/-- An instruction other than a loop bracket. -/
inductive Basic where
  | moveRight
  | moveLeft
  | increment
  | decrement
  | output
  | input
  deriving DecidableEq, Repr, Inhabited

/-- The instruction of a basic instruction. -/
def Basic.instruction : Basic → Instruction
  | moveRight => .moveRight
  | moveLeft => .moveLeft
  | increment => .increment
  | decrement => .decrement
  | output => .output
  | input => .input

theorem Basic.instruction_injective {b b' : Basic} (h : b.instruction = b'.instruction) :
    b = b' := by
  cases b <;> cases b' <;> simp_all [Basic.instruction]

theorem Basic.instruction_ne_loopOpen (b : Basic) : b.instruction ≠ .loopOpen := by
  cases b <;> simp [Basic.instruction]

theorem Basic.instruction_ne_loopClose (b : Basic) : b.instruction ≠ .loopClose := by
  cases b <;> simp [Basic.instruction]

/-- A program as a tree: basic instructions and loops, one after another. -/
inductive Block where
  /-- Nothing is left to do. -/
  | done
  /-- A basic instruction and what follows it. -/
  | basic (operation : Basic) (rest : Block)
  /-- A loop around a body and what follows it. -/
  | loop (body rest : Block)
  deriving DecidableEq, Repr, Inhabited

namespace Block

/-- A block written out. -/
def instructions : Block → List Instruction
  | done => []
  | basic operation rest => operation.instruction :: rest.instructions
  | loop body rest => .loopOpen :: (body.instructions ++ .loopClose :: rest.instructions)

/-- The number of instructions of a block. -/
def length : Block → Nat
  | done => 0
  | basic _ rest => rest.length + 1
  | loop body rest => body.length + rest.length + 2

@[simp] theorem length_instructions (b : Block) : b.instructions.length = b.length := by
  induction b with
  | done => rfl
  | basic operation rest ih => simp [instructions, length, ih]
  | loop body rest ihBody ihRest =>
      simp only [instructions, length, List.length_cons, List.length_append, ihBody, ihRest]
      omega

/-- The loops of a block that stands at an offset, in the order in which they end. -/
def loops : Block → Nat → List (Nat × Nat)
  | done, _ => []
  | basic _ rest, offset => rest.loops (offset + 1)
  | loop body rest, offset =>
      body.loops (offset + 1) ++
        (offset, offset + 1 + body.length) :: rest.loops (offset + 1 + body.length + 1)

/-! ## Parts of blocks -/

section Parts

variable {code : List Instruction} {offset : Nat} {operation : Basic} {body rest : Block}

theorem located_rest_of_basic (h : Located code offset (basic operation rest).instructions) :
    code[offset]? = some operation.instruction ∧ Located code (offset + 1) rest.instructions :=
  ⟨h.first, h.next⟩

/-- Where the parts of a loop stand. -/
theorem located_of_loop (h : Located code offset (loop body rest).instructions) :
    code[offset]? = some .loopOpen ∧ Located code (offset + 1) body.instructions ∧
      code[offset + 1 + body.length]? = some .loopClose ∧
        Located code (offset + 1 + body.length + 1) rest.instructions := by
  have hbehind := h.next.behind
  rw [length_instructions] at hbehind
  exact ⟨h.first, h.next.front, hbehind.first, hbehind.next⟩

end Parts

/-! ## Blocks are balanced -/

theorem balanced_instructions (b : Block) : Loops.Balanced b.instructions := by
  rw [Loops.balanced_iff_height, length_instructions]
  induction b with
  | done => simp [instructions, length]
  | basic operation rest ih =>
      have hweight : Loops.weight operation.instruction = 0 := by
        cases operation <;> rfl
      refine ⟨fun place => ?_, ?_⟩
      · cases place with
        | zero => simp
        | succ place =>
            rw [instructions, Loops.height_cons, hweight]
            have := ih.1 place
            omega
      · rw [instructions, length, Loops.height_cons, hweight, ih.2]
        rfl
  | loop body rest ihBody ihRest =>
      have hcons : ∀ place, Loops.height (loop body rest).instructions (place + 1) =
          1 + (Loops.height body.instructions place +
            Loops.height (.loopClose :: rest.instructions) (place - body.length)) := by
        intro place
        rw [instructions, Loops.height_cons, Loops.height_append, length_instructions]
        rfl
      have hclose : ∀ place, Loops.height (.loopClose :: rest.instructions) (place + 1) =
          -1 + Loops.height rest.instructions place :=
        fun place => Loops.height_cons .loopClose rest.instructions place
      refine ⟨fun place => ?_, ?_⟩
      · cases place with
        | zero => simp
        | succ place =>
            rw [hcons]
            have hbody := ihBody.1 place
            cases hbehind : place - body.length with
            | zero =>
                rw [Loops.height_zero]
                omega
            | succ behind =>
                rw [hclose]
                have := ihRest.1 behind
                omega
      · have hbody : Loops.height body.instructions (body.length + rest.length + 1) = 0 := by
          rw [Loops.height_of_length_le (by simp; omega), length_instructions]
          exact ihBody.2
        have hbehind : body.length + rest.length + 1 - body.length = rest.length + 1 := by
          omega
        rw [length, hcons, hbody, hbehind, hclose, ihRest.2]
        rfl

/-! ## Matching the brackets of a block -/

/-- Matching passes over a block and notes its loops. -/
theorem matchFrom_instructions (b : Block) (index : Nat) (pending : List Nat)
    (closed : List (Nat × Nat)) (code : List Instruction) :
    Loops.matchFrom index pending closed (b.instructions ++ code) =
      Loops.matchFrom (index + b.length) pending ((b.loops index).reverse ++ closed) code := by
  induction b generalizing index pending closed code with
  | done => simp [instructions, length, loops]
  | basic operation rest ih =>
      have hskip : Loops.matchFrom index pending closed
            (operation.instruction :: (rest.instructions ++ code)) =
          Loops.matchFrom (index + 1) pending closed (rest.instructions ++ code) := by
        cases operation <;> rfl
      rw [instructions, List.cons_append, hskip, ih, length, loops]
      congr 1
      omega
  | loop body rest ihBody ihRest =>
      have hsplit : (loop body rest).instructions ++ code =
          .loopOpen :: (body.instructions ++ .loopClose :: (rest.instructions ++ code)) := by
        simp [instructions]
      have hlength : index + (loop body rest).length =
          index + 1 + body.length + 1 + rest.length := by
        rw [length]
        omega
      rw [hsplit, Loops.matchFrom, ihBody, Loops.matchFrom, ihRest, hlength, loops]
      simp

/-- What is left behind when the open loops of a scan are closed: a block, then a closing
bracket and a block for each of them. -/
def closing (first : Block) (others : List Block) : List Instruction :=
  first.instructions ++ others.flatMap fun b => .loopClose :: b.instructions

/-- Instructions whose brackets match close the loops open in front of them, and are
blocks in between. -/
theorem exists_blocks_of_matchFrom {index : Nat} {pending : List Nat}
    {closed loops : List (Nat × Nat)} {code : List Instruction}
    (h : Loops.matchFrom index pending closed code = .ok loops) :
    ∃ (first : Block) (others : List Block),
      others.length = pending.length ∧ code = closing first others := by
  induction code generalizing index pending closed with
  | nil =>
      cases pending with
      | nil => exact ⟨done, [], rfl, rfl⟩
      | cons start pending =>
          rw [Loops.matchFrom, List.getLast?_cons] at h
          simp at h
  | cons x rest ih =>
      -- A basic instruction goes in front of the first block.
      have hbasic : ∀ operation : Basic, operation.instruction = x →
          Loops.matchFrom (index + 1) pending closed rest = .ok loops →
          ∃ (first : Block) (others : List Block),
            others.length = pending.length ∧ x :: rest = closing first others := by
        intro operation hx hrest
        obtain ⟨first, others, hlength, hcode⟩ := ih hrest
        refine ⟨basic operation first, others, hlength, ?_⟩
        rw [hcode, ← hx]
        rfl
      cases x with
      | loopOpen =>
          obtain ⟨body, others, hlength, hcode⟩ := ih h
          cases others with
          | nil => simp at hlength
          | cons first others =>
              refine ⟨loop body first, others, by simpa using hlength, ?_⟩
              rw [hcode]
              simp [closing, instructions]
      | loopClose =>
          cases pending with
          | nil => simp [Loops.matchFrom] at h
          | cons start pending =>
              obtain ⟨first, others, hlength, hcode⟩ := ih h
              refine ⟨done, first :: others, by simpa using hlength, ?_⟩
              rw [hcode]
              simp [closing, instructions]
      | moveRight => exact hbasic .moveRight rfl h
      | moveLeft => exact hbasic .moveLeft rfl h
      | increment => exact hbasic .increment rfl h
      | decrement => exact hbasic .decrement rfl h
      | output => exact hbasic .output rfl h
      | input => exact hbasic .input rfl h

/-- Brackets match exactly in the instructions of a block, and matching finds its loops. -/
theorem loops_ofInstructions_iff (code : List Instruction) (loops : List (Nat × Nat)) :
    Loops.ofInstructions code = .ok loops ↔
      ∃ b : Block, b.instructions = code ∧ b.loops 0 = loops := by
  have hblock : ∀ b : Block, Loops.ofInstructions b.instructions = .ok (b.loops 0) := by
    intro b
    have h := matchFrom_instructions b 0 [] [] []
    rw [List.append_nil] at h
    rw [Loops.ofInstructions, h]
    simp [Loops.matchFrom]
  constructor
  · intro h
    obtain ⟨b, others, hlength, hcode⟩ := exists_blocks_of_matchFrom h
    obtain rfl : others = [] := List.length_eq_zero_iff.1 hlength
    have hb : b.instructions = code := by
      rw [hcode]
      simp [closing]
    rw [← hb, hblock] at h
    exact ⟨b, hb, Except.ok.inj h⟩
  · rintro ⟨b, rfl, rfl⟩
    exact hblock b

/-! ## One block -/

/-- A block ends where the instructions do or a loop around it is closed, so nothing that
follows can be taken for a part of it. -/
theorem eq_of_instructions_append {b b' : Block} {code code' : List Instruction}
    (hcode : ∀ x ∈ code.head?, x = .loopClose) (hcode' : ∀ x ∈ code'.head?, x = .loopClose)
    (h : b.instructions ++ code = b'.instructions ++ code') : b = b' ∧ code = code' := by
  induction b generalizing b' code code' with
  | done =>
      cases b' with
      | done => exact ⟨rfl, h⟩
      | basic operation rest =>
          rw [instructions, List.nil_append] at h
          exact absurd (hcode operation.instruction (by simp [h, instructions]))
            operation.instruction_ne_loopClose
      | loop body rest =>
          rw [instructions, List.nil_append] at h
          have hclash := hcode .loopOpen (by simp [h, instructions])
          simp at hclash
  | basic operation rest ih =>
      cases b' with
      | done =>
          rw [instructions, instructions, List.nil_append] at h
          exact absurd (hcode' operation.instruction (by simp [← h]))
            operation.instruction_ne_loopClose
      | basic operation' rest' =>
          simp only [instructions, List.cons_append, List.cons.injEq] at h
          obtain rfl := Basic.instruction_injective h.1
          obtain ⟨rfl, rfl⟩ := ih hcode hcode' h.2
          exact ⟨rfl, rfl⟩
      | loop body' rest' =>
          simp only [instructions, List.cons_append, List.cons.injEq] at h
          exact absurd h.1 operation.instruction_ne_loopOpen
  | loop body rest ihBody ihRest =>
      cases b' with
      | done =>
          rw [instructions, instructions, List.nil_append] at h
          have hclash := hcode' .loopOpen (by simp [← h])
          simp at hclash
      | basic operation' rest' =>
          simp only [instructions, List.cons_append, List.cons.injEq] at h
          exact absurd h.1.symm operation'.instruction_ne_loopOpen
      | loop body' rest' =>
          simp only [instructions, List.cons_append, List.append_assoc, List.cons.injEq,
            true_and] at h
          obtain ⟨rfl, hrest⟩ := ihBody (by simp) (by simp) h
          obtain ⟨rfl, rfl⟩ := ihRest hcode hcode' (List.cons.inj hrest).2
          exact ⟨rfl, rfl⟩

theorem instructions_injective {b b' : Block} (h : b.instructions = b'.instructions) :
    b = b' := by
  have happend : b.instructions ++ [] = b'.instructions ++ [] := by rw [h]
  exact (eq_of_instructions_append (by simp) (by simp) happend).1

/-! ## The loops of a block -/

section LoopPlaces

variable {code : List Instruction}

theorem loops_bounds {b : Block} {offset start stop : Nat} (h : (start, stop) ∈ b.loops offset) :
    offset ≤ start ∧ start < stop ∧ stop < offset + b.length := by
  induction b generalizing offset with
  | done => simp [loops] at h
  | basic operation rest ih =>
      have := ih h
      rw [length]
      omega
  | loop body rest ihBody ihRest =>
      rw [length]
      simp only [loops, List.mem_append, List.mem_cons, Prod.mk.injEq] at h
      rcases h with hbody | ⟨rfl, rfl⟩ | hrest
      · have := ihBody hbody
        omega
      · omega
      · have := ihRest hrest
        omega

/-- The brackets of a loop belong together. -/
theorem matched_of_mem_loops {b : Block} {offset start stop : Nat}
    (hb : Located code offset b.instructions) (h : (start, stop) ∈ b.loops offset) :
    Loops.Matched code start stop := by
  induction b generalizing offset with
  | done => simp [loops] at h
  | basic operation rest ih => exact ih (located_rest_of_basic hb).2 h
  | loop body rest ihBody ihRest =>
      obtain ⟨hopen, hbody, hclose, hrest⟩ := located_of_loop hb
      simp only [loops, List.mem_append, List.mem_cons, Prod.mk.injEq] at h
      rcases h with hinBody | ⟨rfl, rfl⟩ | hinRest
      · exact ihBody hbody hinBody
      · have hinside := hbody.extract
        rw [length_instructions] at hinside
        exact ⟨by omega, hopen, hclose, hinside ▸ body.balanced_instructions⟩
      · exact ihRest hrest hinRest

/-- Every bracket of a block is one of a loop. -/
theorem exists_loop_of_bracket {b : Block} {offset place : Nat}
    (hb : Located code offset b.instructions) (hle : offset ≤ place)
    (hlt : place < offset + b.length) :
    (code[place]? = some .loopOpen → ∃ stop, (place, stop) ∈ b.loops offset) ∧
      (code[place]? = some .loopClose → ∃ start, (start, place) ∈ b.loops offset) := by
  induction b generalizing offset with
  | done =>
      rw [length] at hlt
      omega
  | basic operation rest ih =>
      obtain ⟨hhead, hrest⟩ := located_rest_of_basic hb
      rcases Nat.eq_or_lt_of_le hle with rfl | hle
      · rw [hhead]
        simp [operation.instruction_ne_loopOpen, operation.instruction_ne_loopClose]
      · rw [length] at hlt
        exact ih hrest hle (by omega)
  | loop body rest ihBody ihRest =>
      obtain ⟨hopen, hbody, hclose, hrest⟩ := located_of_loop hb
      rw [length] at hlt
      simp only [loops, List.mem_append, List.mem_cons, Prod.mk.injEq]
      rcases Nat.eq_or_lt_of_le hle with rfl | hle
      · exact ⟨fun _ => ⟨_, Or.inr (Or.inl ⟨rfl, rfl⟩)⟩, by simp [hopen]⟩
      rcases Nat.lt_trichotomy place (offset + 1 + body.length) with hin | rfl | hbehind
      · obtain ⟨hstop, hstart⟩ := ihBody hbody hle hin
        exact ⟨fun h => (hstop h).imp fun _ hmem => Or.inl hmem,
          fun h => (hstart h).imp fun _ hmem => Or.inl hmem⟩
      · exact ⟨by simp [hclose], fun _ => ⟨_, Or.inr (Or.inl ⟨rfl, rfl⟩)⟩⟩
      · obtain ⟨hstop, hstart⟩ := ihRest hrest hbehind (by omega)
        exact ⟨fun h => (hstop h).imp fun _ hmem => Or.inr (Or.inr hmem),
          fun h => (hstart h).imp fun _ hmem => Or.inr (Or.inr hmem)⟩

/-- The loops are in the order in which they end. -/
theorem pairwise_loops (b : Block) (offset : Nat) :
    (b.loops offset).Pairwise fun l l' => l.2 < l'.2 := by
  induction b generalizing offset with
  | done => simp [loops]
  | basic operation rest ih => exact ih (offset + 1)
  | loop body rest ihBody ihRest =>
      rw [loops, List.pairwise_append, List.pairwise_cons]
      refine ⟨ihBody _, ⟨fun l hl => ?_, ihRest _⟩, fun l hl l' hl' => ?_⟩
      · have := loops_bounds hl
        omega
      · have hbody := loops_bounds hl
        rcases List.mem_cons.1 hl' with rfl | hrest
        · exact hbody.2.2
        · have := loops_bounds hrest
          omega

end LoopPlaces

end Block

end TapeMachine
