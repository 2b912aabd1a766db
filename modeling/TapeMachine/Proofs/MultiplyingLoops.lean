/-
  Multiplying loops.

  Such a loop adds fixed counts to the cells behind its own, comes back and takes one from
  its own cell.  Main statement: it ends with a zero in its own cell and that many times the
  counts added to the others, with as many turns as the cell said, and it changes nothing
  else; where the limit of the tape does not leave room for the cells, the first turn meets
  it.  The pointer never leaves the tape to the left.

  The turns are followed on the ideal tape, where adding is adding up amounts.
-/
import Mathlib.Algebra.Group.Pi.Lemmas
import Mathlib.Algebra.GroupWithZero.Nat
import Mathlib.Algebra.Ring.Int.Defs
import TapeMachine.Proofs.IdealTape
import TapeMachine.Proofs.QuietLoops

set_option autoImplicit false

namespace TapeMachine

/-! ## Amounts on the ideal tape -/

namespace IdealTape

/-- The tape with amounts added to its cells, and its pointer elsewhere. -/
def added (t : IdealTape) (amount : Nat → Int) (pointer highest : Nat) : IdealTape :=
  ⟨fun place => (t.cells place + amount place) % 256, pointer, highest⟩

/-- The tape behind a row of quiet instructions, and what is refused of them. -/
def follow (limit : Option Nat) (row : List Quiet) (t : IdealTape) : IdealTape × Option Refused :=
  performRow (perform limit) (row.map Quiet.operation) t

variable {t : IdealTape} {limit : Option Nat} {amount : Nat → Int} {pointer highest : Nat}

/-- A change by a step is an amount more in the current cell. -/
theorem put_added (step : Int) :
    (t.added amount pointer highest).put
        (((t.added amount pointer highest).cells pointer + step) % 256) =
      t.added (amount + Pi.single pointer step) pointer highest := by
  simp only [added, put, IdealTape.mk.injEq, and_true]
  funext place
  rw [Function.update_apply]
  split
  · rename_i hplace
    rw [hplace, Pi.add_apply, Pi.single_eq_same, Int.emod_add_emod, add_assoc]
  · rename_i hplace
    rw [Pi.add_apply, Pi.single_eq_of_ne hplace, add_zero]

theorem follow_increments (count : Nat) :
    (t.added amount pointer highest).follow limit (List.replicate count .increment) =
      (t.added (amount + Pi.single pointer (count : Int)) pointer highest, none) := by
  induction count generalizing amount with
  | zero =>
      rw [Nat.cast_zero, Pi.single_zero, add_zero]
      rfl
  | succ count ih =>
      have hfirst : perform limit .increment (t.added amount pointer highest) =
          (t.added (amount + Pi.single pointer 1) pointer highest, none) :=
        congrArg (·, none) (put_added 1)
      rw [List.replicate_succ, follow, List.map_cons]
      refine (performRow_cons hfirst _).trans (ih.trans ?_)
      rw [add_assoc, ← Pi.single_add, add_comm 1, Nat.cast_succ]

theorem follow_moveLefts (count : Nat) :
    (t.added amount (pointer + count) highest).follow limit (List.replicate count .moveLeft) =
      (t.added amount pointer highest, none) := by
  induction count with
  | zero => rfl
  | succ count ih =>
      have hfirst : perform limit .moveLeft (t.added amount (pointer + (count + 1)) highest) =
          (t.added amount (pointer + count) highest, none) := by
        have hplace : (t.added amount (pointer + (count + 1)) highest).pointer ≠ 0 :=
          Nat.succ_ne_zero _
        rw [perform, if_neg hplace]
        rfl
      rw [List.replicate_succ, follow, List.map_cons]
      exact (performRow_cons hfirst _).trans ih

end IdealTape

/-! ## Rows that add counts -/

/-- The row that adds a count to each of the next cells. -/
def spreadRow : List Nat → List Quiet
  | [] => []
  | count :: rest => .moveRight :: (List.replicate count .increment ++ spreadRow rest)

/-- The row of a multiplying loop: out to the cells, back again, and one less. -/
def multiplyRow (counts : List Nat) : List Quiet :=
  spreadRow counts ++ (List.replicate counts.length .moveLeft ++ [.decrement])

theorem length_spreadRow (counts : List Nat) :
    (spreadRow counts).length = counts.length + counts.sum := by
  induction counts with
  | nil => rfl
  | cons count rest ih =>
      rw [spreadRow, List.length_cons, List.length_append, List.length_replicate, ih,
        List.length_cons, List.sum_cons]
      omega

theorem length_multiplyRow (counts : List Nat) :
    (multiplyRow counts).length = 2 * counts.length + counts.sum + 1 := by
  rw [multiplyRow, List.length_append, List.length_append, length_spreadRow,
    List.length_replicate, List.length_singleton]
  omega

/-- The amounts that counts are for the cells behind a place. -/
def spread (counts : List Nat) (pointer : Nat) : Nat → Int :=
  fun place => if place ≤ pointer then 0 else (counts[place - pointer - 1]?.getD 0 : Nat)

theorem spread_cons (count : Nat) (rest : List Nat) (pointer : Nat) :
    spread (count :: rest) pointer =
      Pi.single (pointer + 1) (count : Int) + spread rest (pointer + 1) := by
  funext place
  rw [Pi.add_apply, Pi.single_apply, spread, spread]
  rcases Nat.lt_trichotomy place (pointer + 1) with hbefore | rfl | hbehind
  · rw [if_pos (by omega), if_neg hbefore.ne, if_pos hbefore.le, add_zero]
  · rw [if_neg (by omega), if_pos rfl, if_pos (Nat.le_refl _), add_zero]
    simp
  · have hplace : place - pointer - 1 = (place - (pointer + 1) - 1) + 1 := by omega
    rw [if_neg (by omega), if_neg hbehind.ne', if_neg (by omega), hplace,
      List.getElem?_cons_succ, zero_add]

namespace IdealTape

variable {t : IdealTape} {limit : Option Nat} {amount : Nat → Int} {pointer highest : Nat}

theorem follow_spreadRow {counts : List Nat} (hpointer : pointer ≤ highest)
    (hroom : ∀ bound, limit = some bound → pointer + counts.length < bound) :
    (t.added amount pointer highest).follow limit (spreadRow counts) =
      (t.added (amount + spread counts pointer) (pointer + counts.length)
        (max highest (pointer + counts.length)), none) := by
  induction counts generalizing amount pointer highest with
  | nil =>
      have hspread : spread [] pointer = 0 := by
        funext place
        simp [spread]
      rw [hspread, add_zero, List.length_nil, Nat.add_zero, Nat.max_eq_left hpointer]
      rfl
  | cons count rest ih =>
      rw [List.length_cons] at hroom
      have hmove : perform limit .moveRight (t.added amount pointer highest) =
          (t.added amount (pointer + 1) (max highest (pointer + 1)), none) := by
        have hallowed : limit ≠ some ((t.added amount pointer highest).pointer + 1) := by
          intro hlimit
          have hbound : pointer + (rest.length + 1) < pointer + 1 := hroom _ hlimit
          omega
        rw [perform, if_neg hallowed]
        rfl
      have hroom' : ∀ bound, limit = some bound → pointer + 1 + rest.length < bound := by
        intro bound hlimit
        have := hroom bound hlimit
        omega
      have hrest := @ih (amount + Pi.single (pointer + 1) (count : Int)) (pointer + 1)
        (max highest (pointer + 1)) (Nat.le_max_right highest (pointer + 1)) hroom'
      have hhighest : max (max highest (pointer + 1)) (pointer + 1 + rest.length) =
          max highest (pointer + (rest.length + 1)) := by omega
      have hplace : pointer + 1 + rest.length = pointer + (rest.length + 1) := by omega
      rw [spreadRow, follow, List.map_cons, List.map_append]
      refine (performRow_cons hmove _).trans ?_
      refine (performRow_append (follow_increments count) _).trans (hrest.trans ?_)
      rw [spread_cons, List.length_cons, hhighest, hplace, add_assoc]

/-- Without room the way out to the cells meets the limit. -/
theorem follow_spreadRow_of_full {counts : List Nat} {bound : Nat} (hlimit : limit = some bound)
    (hpointer : pointer < bound) (hfull : bound ≤ pointer + counts.length) :
    ∃ last, (t.added amount pointer highest).follow limit (spreadRow counts) =
      (last, some (.fault (.overflow bound))) := by
  induction counts generalizing amount pointer highest with
  | nil =>
      rw [List.length_nil] at hfull
      omega
  | cons count rest ih =>
      rw [List.length_cons] at hfull
      rw [spreadRow, follow, List.map_cons, List.map_append]
      rcases Nat.eq_or_lt_of_le (Nat.succ_le_of_lt hpointer) with hlast | hinside
      · have hmove : perform limit .moveRight (t.added amount pointer highest) =
            (t.added amount pointer highest, some (.fault (.overflow bound))) := by
          have hend : limit = some ((t.added amount pointer highest).pointer + 1) :=
            hlimit.trans (congrArg some hlast.symm)
          rw [perform, if_pos hend, ← hlast]
          rfl
        exact ⟨_, performRow_cons_of_refused hmove _⟩
      · have hmove : perform limit .moveRight (t.added amount pointer highest) =
            (t.added amount (pointer + 1) (max highest (pointer + 1)), none) := by
          have hallowed : limit ≠ some ((t.added amount pointer highest).pointer + 1) := by
            rw [hlimit]
            exact fun hsame => hinside.ne' (Option.some.inj hsame)
          rw [perform, if_neg hallowed]
          rfl
        obtain ⟨last, hlast⟩ := @ih (amount + Pi.single (pointer + 1) (count : Int)) (pointer + 1)
          (max highest (pointer + 1)) hinside (by omega)
        refine ⟨last, (performRow_cons hmove _).trans ?_⟩
        exact (performRow_append (follow_increments count) _).trans hlast

end IdealTape

/-- The amounts of one turn of a multiplying loop. -/
def turnAmount (counts : List Nat) (pointer : Nat) : Nat → Int :=
  spread counts pointer + Pi.single pointer (-1)

theorem IdealTape.follow_multiplyRow {t : IdealTape} {limit : Option Nat} {amount : Nat → Int}
    {pointer highest : Nat} {counts : List Nat} (hpointer : pointer ≤ highest)
    (hroom : ∀ bound, limit = some bound → pointer + counts.length < bound) :
    (t.added amount pointer highest).follow limit (multiplyRow counts) =
      (t.added (amount + turnAmount counts pointer) pointer
        (max highest (pointer + counts.length)), none) := by
  have hdecrement : ∀ amount highest, (t.added amount pointer highest).follow limit [.decrement] =
      (t.added (amount + Pi.single pointer (-1)) pointer highest, none) :=
    fun amount highest => congrArg (·, none) (put_added (-1))
  rw [multiplyRow, follow, List.map_append, List.map_append]
  refine (performRow_append (follow_spreadRow hpointer hroom) _).trans ?_
  refine (performRow_append (follow_moveLefts counts.length) _).trans ((hdecrement _ _).trans ?_)
  rw [turnAmount, add_assoc]

theorem turnAmount_self (counts : List Nat) (pointer : Nat) :
    turnAmount counts pointer pointer = -1 := by
  rw [turnAmount, Pi.add_apply, Pi.single_eq_same, spread, if_pos (Nat.le_refl pointer), zero_add]

theorem turnAmount_target {counts : List Nat} {index : Nat} (hindex : index < counts.length)
    (pointer : Nat) : turnAmount counts pointer (pointer + 1 + index) = counts[index] := by
  have hplace : pointer + 1 + index - pointer - 1 = index := by omega
  rw [turnAmount, Pi.add_apply, Pi.single_eq_of_ne (by omega), spread, if_neg (by omega), hplace,
    List.getElem?_eq_getElem hindex, Option.getD_some, add_zero]

theorem turnAmount_other {counts : List Nat} {pointer place : Nat}
    (h : place < pointer ∨ pointer + counts.length < place) :
    turnAmount counts pointer place = 0 := by
  rw [turnAmount, Pi.add_apply, Pi.single_eq_of_ne (by omega), add_zero, spread]
  split
  · rfl
  · rw [List.getElem?_eq_none (by omega)]
    rfl

/-! ## Turns on a tape -/

namespace Tape

variable {t : Tape} {counts : List Nat}

/-- The ideal tape that a tape holds. -/
def ideal (t : Tape) : IdealTape := ⟨fun place => (t.cellAt place).toNat, t.pointer, t.size - 1⟩

/-- The ideal tape after some turns of a multiplying loop. -/
def multiplied (counts : List Nat) (turns : Nat) (t : Tape) : IdealTape :=
  t.ideal.added (turns • turnAmount counts t.pointer) t.pointer
    (if turns = 0 then t.size - 1 else max (t.size - 1) (t.pointer + counts.length))

theorem cells_multiplied (t : Tape) (counts : List Nat) (turns place : Nat) :
    (t.multiplied counts turns).cells place =
      ((t.cellAt place).toNat + turns * turnAmount counts t.pointer place) % 256 := by
  rw [← nsmul_eq_mul]
  rfl

theorem holds_multiplied_zero (t : Tape) (counts : List Nat) :
    Holds t.limit t (t.multiplied counts 0) where
  pointer_eq := rfl
  size_eq := by
    have hinside : t.pointer < t.size := t.pointer_lt_size
    change t.size = t.size - 1 + 1
    omega
  cell_eq place := by
    have hbyte := (t.cellAt place).toNat_lt
    rw [cells_multiplied, Nat.cast_zero, zero_mul]
    omega
  limit_eq := rfl

theorem Holds.follow {limit : Option Nat} {ideal : IdealTape} (h : Holds limit t ideal)
    (row : List Quiet) :
    Holds limit (t.follow row).1 (ideal.follow limit row).1 ∧
      (t.follow row).2 = (ideal.follow limit row).2 :=
  performRow_related h (fun operation _ _ h => holds_perform h operation) _

theorem follow_multiplied (hroom : t.Allows (t.pointer + counts.length + 1)) (turns : Nat) :
    (t.multiplied counts turns).follow t.limit (multiplyRow counts) =
      (t.multiplied counts (turns + 1), none) := by
  have hpointer : t.pointer ≤
      if turns = 0 then t.size - 1 else max (t.size - 1) (t.pointer + counts.length) := by
    have hinside : t.pointer < t.size := t.pointer_lt_size
    split <;> omega
  refine (IdealTape.follow_multiplyRow hpointer hroom).trans ?_
  have hhighest :
      max (if turns = 0 then t.size - 1 else max (t.size - 1) (t.pointer + counts.length))
        (t.pointer + counts.length) = max (t.size - 1) (t.pointer + counts.length) := by
    split <;> omega
  rw [multiplied, succ_nsmul, hhighest, if_neg turns.succ_ne_zero]

/-- With room for the cells every turn passes, and adds the amounts of one turn. -/
theorem holds_turns (hroom : t.Allows (t.pointer + counts.length + 1)) (turns : Nat) :
    Holds t.limit ((Tape.turn (multiplyRow counts))^[turns] t) (t.multiplied counts turns) ∧
      (((Tape.turn (multiplyRow counts))^[turns] t).follow (multiplyRow counts)).2 = none := by
  induction turns with
  | zero =>
      have hholds := t.holds_multiplied_zero counts
      have hpasses := (hholds.follow (multiplyRow counts)).2
      rw [follow_multiplied hroom] at hpasses
      exact ⟨hholds, hpasses⟩
  | succ turns ih =>
      have hholds := (ih.1.follow (multiplyRow counts)).1
      rw [follow_multiplied hroom] at hholds
      have hpasses := (hholds.follow (multiplyRow counts)).2
      rw [follow_multiplied hroom] at hpasses
      rw [Function.iterate_succ_apply']
      exact ⟨hholds, hpasses⟩

/-- Every turn takes one from the cell of the loop. -/
theorem current_turns (hroom : t.Allows (t.pointer + counts.length + 1)) (turns : Nat) :
    (((Tape.turn (multiplyRow counts))^[turns] t).current.toNat : Int) =
      (t.current.toNat - turns) % 256 := by
  have hcurrent := (holds_turns hroom turns).1.current_eq
  have hpointer : (t.multiplied counts turns).pointer = t.pointer := rfl
  rw [hpointer, cells_multiplied, turnAmount_self, cellAt_pointer] at hcurrent
  rw [hcurrent, mul_neg_one, sub_eq_add_neg]

/-! ## What a multiplying loop does to a tape -/

/-- The tape after a multiplying loop: as many times the counts as its cell said are added to
the cells behind it, the cell is zero, and nothing else is another. -/
structure Multiplied (counts : List Nat) (t after : Tape) : Prop where
  pointer_eq : after.pointer = t.pointer
  current_eq : after.current = 0
  /-- A cell that the tape did not reach counts as zero. -/
  target_eq : ∀ index (h : index < counts.length),
    (after.cellAt (t.pointer + 1 + index)).toNat =
      ((t.cellAt (t.pointer + 1 + index)).toNat + counts[index] * t.current.toNat) % 256
  other_eq : ∀ place, place < t.pointer ∨ t.pointer + counts.length < place →
    after.cellAt place = t.cellAt place
  size_eq : after.size =
    if t.current = 0 then t.size else max t.size (t.pointer + counts.length + 1)
  limit_eq : after.limit = t.limit

theorem multiplied_of_zero (counts : List Nat) (hzero : t.current = 0) : Multiplied counts t t where
  pointer_eq := rfl
  current_eq := hzero
  target_eq index _ := by
    have hbyte := (t.cellAt (t.pointer + 1 + index)).toNat_lt
    rw [hzero, UInt8.toNat_zero, Nat.mul_zero, Nat.add_zero]
    omega
  other_eq _ _ := rfl
  size_eq := (if_pos hzero).symm
  limit_eq := rfl

/-- The loop has multiplied after as many turns as its cell said. -/
theorem multiplied_of_turns (hnonzero : t.current ≠ 0)
    (hroom : t.Allows (t.pointer + counts.length + 1)) :
    Multiplied counts t ((Tape.turn (multiplyRow counts))^[t.current.toNat] t) := by
  have hholds := (holds_turns hroom t.current.toNat).1
  have hturns : t.current.toNat ≠ 0 := fun h => hnonzero (UInt8.toNat_inj.1 h)
  refine ⟨hholds.pointer_eq, ?_, ?_, ?_, ?_, hholds.limit_eq⟩
  · have hcurrent := current_turns hroom t.current.toNat
    rw [Int.sub_self, Int.zero_emod] at hcurrent
    exact UInt8.toNat_inj.1 (Int.ofNat_inj.1 hcurrent)
  · intro index hindex
    have hcell := hholds.cell_eq (t.pointer + 1 + index)
    rw [cells_multiplied, turnAmount_target hindex, mul_comm] at hcell
    exact_mod_cast hcell
  · intro place hplace
    have hcell := hholds.cell_eq place
    have hbyte := (t.cellAt place).toNat_lt
    rw [cells_multiplied, turnAmount_other hplace, mul_zero] at hcell
    refine UInt8.toNat_inj.1 ?_
    omega
  · have hinside : t.pointer < t.size := t.pointer_lt_size
    have hsize := hholds.size_eq
    rw [multiplied, if_neg hturns] at hsize
    rw [if_neg hnonzero, hsize]
    change max (t.size - 1) (t.pointer + counts.length) + 1 = _
    omega

theorem exists_limit_of_not_allows {count : Nat} (h : ¬ t.Allows count) :
    ∃ bound, t.limit = some bound ∧ bound < count := by
  by_contra hnone
  refine h ?_
  intro bound hlimit
  exact Nat.le_of_not_lt fun hlt => hnone ⟨bound, hlimit, hlt⟩

/-- Without room for the cells the first turn meets the limit. -/
theorem exists_follow_of_full {bound : Nat} (hlimit : t.limit = some bound)
    (hfull : bound ≤ t.pointer + counts.length) :
    ∃ after, t.follow (multiplyRow counts) = (after, some (.fault (.overflow bound))) := by
  have hinside : t.pointer < bound :=
    Nat.lt_of_lt_of_le (Nat.lt_of_lt_of_le t.pointer_lt_size t.size_le_capacity)
      (t.capacity_le_limit bound hlimit)
  obtain ⟨last, hlast⟩ : ∃ last, (t.multiplied counts 0).follow t.limit (spreadRow counts) =
      (last, some (.fault (.overflow bound))) :=
    IdealTape.follow_spreadRow_of_full hlimit hinside hfull
  have hrow : ((t.multiplied counts 0).follow t.limit (multiplyRow counts)).2 =
      some (.fault (.overflow bound)) := by
    rw [multiplyRow, IdealTape.follow, List.map_append]
    exact congrArg Prod.snd (performRow_append_of_refused hlast _)
  rw [← ((t.holds_multiplied_zero counts).follow (multiplyRow counts)).2] at hrow
  exact ⟨_, Prod.ext rfl hrow⟩

end Tape

/-! ## Multiplying loops -/

/-- The text of a multiplying loop. -/
def multiplySource (counts : List Nat) : String :=
  String.ofList ('[' :: (counts.flatMap fun count => '>' :: List.replicate count '+') ++
    List.replicate counts.length '<' ++ ['-', ']'])

example : multiplySource [2, 3] = "[>++>+++<<-]" := by decide

theorem multiplySource_eq_render (counts : List Nat) :
    multiplySource counts =
      Instruction.render (Block.around (multiplyRow counts)).instructions := by
  have hspread : (counts.flatMap fun count => '>' :: List.replicate count '+') =
      (spreadRow counts).map fun quiet => quiet.basic.instruction.symbol := by
    induction counts with
    | nil => rfl
    | cons count rest ih =>
        rw [List.flatMap_cons, ih, spreadRow, List.map_cons, List.map_append, List.map_replicate]
        rfl
  rw [multiplySource, hspread, Instruction.render, Block.instructions_around, multiplyRow]
  congr 1
  simp only [List.map_append, List.map_cons, List.map_map, List.map_replicate, List.map_nil,
    List.append_assoc, List.cons_append]
  rfl

namespace Machine

variable {π : Type} [Port π]

/-- What a machine does in front of a loop that adds multiples of its cell to the next ones. -/
structure MultipliesBy (counts : List Nat) (m : Machine π) : Prop where
  endsWith_of_room : m.tape.current = 0 ∨ m.tape.Allows (m.tape.pointer + counts.length + 1) →
    ∃ after, m.tape.Multiplied counts after ∧
      m.EndsWith (.ended after m.port (if m.tape.current = 0 then 1
        else m.tape.current.toNat * (2 * counts.length + 3 + counts.sum)))
  endsWith_of_full : ∀ bound, m.tape.limit = some bound → m.tape.current ≠ 0 →
    bound ≤ m.tape.pointer + counts.length →
      ∃ place after n, m.EndsWith (.raised (.fault (.overflow bound)) place after m.port n)
  not_underflow : ∀ n after, Driven m n after → ∀ index, after.fault ≠ some (.underflow index)
  port_eq : ∀ n after, Driven m n after → after.port = m.port

section Loops

variable {counts : List Nat} {program : Program} {tape : Tape}

/-- With room for the cells the loop ends after as many turns as its cell said. -/
theorem endsWith_of_allows (hloop : program.IsLoop (multiplyRow counts))
    (hnonzero : tape.current ≠ 0) (hallows : tape.Allows (tape.pointer + counts.length + 1))
    (port : π) :
    (start program port tape).EndsWith
      (.ended ((Tape.turn (multiplyRow counts))^[tape.current.toNat] tape) port
        (tape.current.toNat * (2 * counts.length + 3 + counts.sum))) := by
  have hturns : tape.current.toNat ≠ 0 := fun h => hnonzero (UInt8.toNat_inj.1 h)
  have hearlier : ∀ k, k < tape.current.toNat →
      ((Tape.turn (multiplyRow counts))^[k] tape).current ≠ 0 := by
    intro k hk hcell
    have hcurrent := Tape.current_turns hallows k
    have hbyte := tape.current.toNat_lt
    rw [hcell, UInt8.toNat_zero] at hcurrent
    omega
  have hzero := (Tape.multiplied_of_turns hnonzero hallows).current_eq
  have hends := hloop.endsWith_of_turns hturns (fun k _ => (Tape.holds_turns hallows k).2)
    hearlier hzero port
  have hlength : (multiplyRow counts).length + 2 = 2 * counts.length + 3 + counts.sum := by
    rw [length_multiplyRow]
    omega
  rw [hlength] at hends
  exact hends

theorem exists_endsWith_of_room (hloop : program.IsLoop (multiplyRow counts))
    (hroom : tape.current = 0 ∨ tape.Allows (tape.pointer + counts.length + 1)) (port : π) :
    ∃ after, tape.Multiplied counts after ∧ (start program port tape).EndsWith
      (.ended after port (if tape.current = 0 then 1
        else tape.current.toNat * (2 * counts.length + 3 + counts.sum))) := by
  rcases eq_or_ne tape.current 0 with hzero | hnonzero
  · rw [if_pos hzero]
    exact ⟨tape, Tape.multiplied_of_zero counts hzero, hloop.endsWith_of_zero hzero port⟩
  · have hallows := hroom.resolve_left hnonzero
    rw [if_neg hnonzero]
    exact ⟨_, Tape.multiplied_of_turns hnonzero hallows,
      endsWith_of_allows hloop hnonzero hallows port⟩

theorem exists_endsWith_of_full (hloop : program.IsLoop (multiplyRow counts)) {bound : Nat}
    (hlimit : tape.limit = some bound) (hnonzero : tape.current ≠ 0)
    (hfull : bound ≤ tape.pointer + counts.length) (port : π) :
    ∃ place after n, (start program port tape).EndsWith
      (.raised (.fault (.overflow bound)) place after port n) := by
  obtain ⟨after, hfollow⟩ := Tape.exists_follow_of_full hlimit hfull
  obtain ⟨place, n, hends⟩ := hloop.endsWith_of_overflow hnonzero hfollow port
  exact ⟨place, after, n, hends⟩

end Loops

/-- Whatever the counts and the tape, a multiplying loop multiplies. -/
theorem multipliesBy_counts (counts : List Nat) (tape : Tape) (port : π) :
    ∃ program, Program.compile (multiplySource counts) = .ok program ∧
      MultipliesBy counts (start program port tape) := by
  obtain ⟨program, hcompile, hloop⟩ := Program.exists_isLoop_of_lex
    ((congrArg _ (multiplySource_eq_render counts)).trans (Instruction.lex_render _))
  refine ⟨program, hcompile, ?_, ?_, ?_, ?_⟩
  · intro hroom
    exact exists_endsWith_of_room hloop hroom port
  · intro bound hlimit hnonzero hfull
    exact exists_endsWith_of_full hloop hlimit hnonzero hfull port
  · intro n after hafter index hfault
    rcases em (tape.current = 0 ∨ tape.Allows (tape.pointer + counts.length + 1)) with
      hroom | hnone
    · obtain ⟨last, _, hends⟩ := exists_endsWith_of_room hloop hroom port
      rw [hends.eq_of_fault (by simp [Outcome.report, state]) hafter hfault] at hfault
      cases hfault
    · obtain ⟨hnonzero, hallows⟩ := not_or.1 hnone
      obtain ⟨bound, hlimit, hfull⟩ := Tape.exists_limit_of_not_allows hallows
      obtain ⟨place, last, steps, hends⟩ :=
        exists_endsWith_of_full hloop hlimit hnonzero (Nat.le_of_lt_succ hfull) port
      rw [hends.eq_of_fault (by simp [Outcome.report, Raised.fault?, state]) hafter hfault]
        at hfault
      cases hfault
  · intro n after hafter
    exact hloop.port_of_driven hafter

end Machine

end TapeMachine
