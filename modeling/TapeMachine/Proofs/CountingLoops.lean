/-
  Counting loops.

  The body of a counting loop only adds to the current cell and takes from it.  A cell holds
  a byte, so such a loop may come past zero and go round again.  Main statement: it ends
  exactly when the greatest common divisor of its change and 256 divides the cell, after the
  least number of turns that bring the cell to zero, and it changes nothing else; otherwise
  it goes on forever.
-/
import Mathlib.Data.Int.GCD
import Mathlib.Order.Lattice.Nat
import Mathlib.Tactic.Linarith
import Mathlib.Tactic.Ring
import TapeMachine.Proofs.IdealTape
import TapeMachine.Proofs.QuietLoops

set_option autoImplicit false

namespace TapeMachine

/-! ## Numbers of turns -/

/-- The numbers of turns, at least one, that bring a cell back to zero when each of them
changes it by the same amount. -/
def turnsToZero (value : Nat) (change : Int) : Set Nat :=
  {n | 0 < n ∧ (256 : Int) ∣ value + n * change}

/-- Whether a cell comes to zero is a question of solving a congruence. -/
theorem turnsToZero_nonempty_iff (value : Nat) (change : Int) :
    (turnsToZero value change).Nonempty ↔ Int.gcd change 256 ∣ value := by
  rw [Int.gcd_dvd_iff]
  constructor
  · rintro ⟨n, _, total, htotal⟩
    refine ⟨-n, total, ?_⟩
    linarith
  · rintro ⟨x, y, hvalue⟩
    -- the solution `-x` counted up to a positive number
    have hpos : 0 < -x % 256 + 256 := by omega
    refine ⟨(-x % 256 + 256).toNat, by omega, y - -x / 256 * change + change, ?_⟩
    have hrest : -x % 256 = -x - 256 * (-x / 256) := Int.emod_def (-x) 256
    rw [Int.toNat_of_nonneg hpos.le, hvalue, hrest]
    ring

theorem exists_isLeast_turnsToZero {value : Nat} {change : Int}
    (h : Int.gcd change 256 ∣ value) : ∃ n, IsLeast (turnsToZero value change) n := by
  have hnonempty := (turnsToZero_nonempty_iff value change).2 h
  exact ⟨sInf (turnsToZero value change), Nat.sInf_mem hnonempty, fun _ hn => Nat.sInf_le hn⟩

/-! ## Cells -/

namespace Tape

theorem put_current (t : Tape) : t.put t.current = t := by
  obtain ⟨cells, capacity, pointer, limit, hpointer, hsize, hlimit⟩ := t
  simp [put, current]

theorem put_put (t : Tape) (cell cell' : UInt8) : (t.put cell).put cell' = t.put cell' := by
  simp [put]

theorem current_put (t : Tape) (cell : UInt8) : (t.put cell).current = cell := by
  simp [put, current]

end Tape

/-! ## Rows of signs -/

/-- The instruction of a sign. -/
def Quiet.ofSign (sign : Char) : Quiet := if sign = '+' then .increment else .decrement

/-- The row of instructions of some signs. -/
def rowOfSigns (signs : String) : List Quiet := signs.toList.map Quiet.ofSign

/-- By how much signs change a cell. -/
def netChange (signs : List Char) : Int := signs.count '+' - signs.count '-'

theorem follow_signs {signs : List Char} (h : ∀ c ∈ signs, c = '+' ∨ c = '-') (t : Tape) :
    ∃ cell, t.follow (signs.map Quiet.ofSign) = (t.put cell, none) ∧
      (cell.toNat : Int) = (t.current.toNat + netChange signs) % 256 := by
  induction signs generalizing t with
  | nil =>
      refine ⟨t.current, ?_, ?_⟩
      · rw [t.put_current]
        rfl
      · have := t.current.toNat_lt
        rw [netChange, List.count_nil, List.count_nil]
        omega
  | cons sign rest ih =>
      obtain ⟨hsign, hrest⟩ := List.forall_mem_cons.1 h
      rcases hsign with rfl | rfl
      · obtain ⟨cell, hfollow, hcell⟩ := ih hrest (t.put (t.current + 1))
        rw [t.put_put] at hfollow
        rw [t.current_put, Tape.toNat_add_one] at hcell
        refine ⟨cell, hfollow, ?_⟩
        rw [hcell, netChange, netChange, List.count_cons_self, List.count_cons_of_ne (by decide)]
        omega
      · obtain ⟨cell, hfollow, hcell⟩ := ih hrest (t.put (t.current - 1))
        rw [t.put_put] at hfollow
        rw [t.current_put, Tape.toNat_sub_one] at hcell
        refine ⟨cell, hfollow, ?_⟩
        rw [hcell, netChange, netChange, List.count_cons_self, List.count_cons_of_ne (by decide)]
        omega

/-- After any number of turns only the current cell is another one. -/
theorem turns_signs {signs : List Char} (h : ∀ c ∈ signs, c = '+' ∨ c = '-') (t : Tape) (n : Nat) :
    ∃ cell, (Tape.turn (signs.map Quiet.ofSign))^[n] t = t.put cell ∧
      (cell.toNat : Int) = (t.current.toNat + n * netChange signs) % 256 := by
  induction n with
  | zero =>
      refine ⟨t.current, t.put_current.symm, ?_⟩
      have := t.current.toNat_lt
      omega
  | succ n ih =>
      obtain ⟨middle, hmiddle, hvalue⟩ := ih
      obtain ⟨cell, hfollow, hcell⟩ := follow_signs h (t.put middle)
      rw [t.put_put] at hfollow
      rw [t.current_put, hvalue] at hcell
      refine ⟨cell, ?_, ?_⟩
      · rw [Function.iterate_succ_apply', hmiddle, Tape.turn, hfollow]
      · rw [hcell, Int.emod_add_emod]
        congr 1
        push_cast
        ring

theorem lex_loop_of_signs {signs : String} (h : ∀ c ∈ signs.toList, c = '+' ∨ c = '-') :
    Instruction.lex ("[" ++ signs ++ "]") = (Block.around (rowOfSigns signs)).instructions := by
  have hrow : ∀ {chars : List Char}, (∀ c ∈ chars, c = '+' ∨ c = '-') →
      Instruction.lexChars chars =
        (chars.map Quiet.ofSign).map fun quiet => quiet.basic.instruction := by
    intro chars hchars
    induction chars with
    | nil => rfl
    | cons c rest ih =>
        obtain ⟨hc, hrest⟩ := List.forall_mem_cons.1 hchars
        rcases hc with rfl | rfl
        · exact congrArg (Instruction.increment :: ·) (ih hrest)
        · exact congrArg (Instruction.decrement :: ·) (ih hrest)
  rw [Block.instructions_around, rowOfSigns, ← hrow h, Instruction.lex, String.toList_append,
    String.toList_append, Instruction.lexChars_append, Instruction.lexChars_append]
  rfl

/-! ## Counting loops -/

namespace Machine

variable {π : Type} [Port π]

/-- What a machine does in front of a loop that changes its cell by an amount in each turn,
with a number of instructions. -/
structure CountsBy (change : Int) (length : Nat) (m : Machine π) : Prop where
  halts_iff : (∃ fuel result, (m.run fuel).2 = .halted result) ↔
    Int.gcd change 256 ∣ m.tape.current.toNat
  /-- Where the machine halts, the cell is zero and all else is as it was.  A cell that is
  zero at first is passed over in one step. -/
  endsWith_of_dvd : Int.gcd change 256 ∣ m.tape.current.toNat →
    ∃ n, IsLeast (turnsToZero m.tape.current.toNat change) n ∧
      m.EndsWith (.ended (m.tape.put 0) m.port
        (if m.tape.current = 0 then 1 else n * (length + 2)))
  running_of_not_dvd : ¬ Int.gcd change 256 ∣ m.tape.current.toNat →
    ∀ n, (m.stepTimes n).state = .running
  port_eq : ∀ n after, Driven m n after → after.port = m.port

section Loops

variable {signs : String} {program : Program} {tape : Tape}

theorem current_turns_eq_zero_iff {signs : List Char} (h : ∀ c ∈ signs, c = '+' ∨ c = '-')
    (t : Tape) (n : Nat) :
    ((Tape.turn (signs.map Quiet.ofSign))^[n] t).current = 0 ↔
      (256 : Int) ∣ t.current.toNat + n * netChange signs := by
  obtain ⟨cell, hturns, hcell⟩ := turns_signs h t n
  rw [hturns, t.current_put, ← UInt8.toNat_inj, Int.dvd_iff_emod_eq_zero, ← hcell]
  exact Int.natCast_eq_zero.symm

theorem follow_turns_signs {signs : List Char} (h : ∀ c ∈ signs, c = '+' ∨ c = '-') (t : Tape)
    (n : Nat) :
    (((Tape.turn (signs.map Quiet.ofSign))^[n] t).follow (signs.map Quiet.ofSign)).2 = none := by
  obtain ⟨cell, hfollow, _⟩ := follow_signs h ((Tape.turn (signs.map Quiet.ofSign))^[n] t)
  rw [hfollow]

theorem endsWith_of_isLeast (hsigns : ∀ c ∈ signs.toList, c = '+' ∨ c = '-')
    (hloop : program.IsLoop (rowOfSigns signs)) (hcurrent : tape.current ≠ 0) {n : Nat}
    (hn : IsLeast (turnsToZero tape.current.toNat (netChange signs.toList)) n) (port : π) :
    (start program port tape).EndsWith (.ended (tape.put 0) port (n * (signs.length + 2))) := by
  obtain ⟨⟨hpos, hdvd⟩, hleast⟩ := hn
  have hzero := (current_turns_eq_zero_iff hsigns tape n).2 hdvd
  have hlength : (rowOfSigns signs).length = signs.length := by
    rw [rowOfSigns, List.length_map, String.length_toList]
  have hends := hloop.endsWith_of_turns hpos.ne' (fun k _ => follow_turns_signs hsigns tape k)
    ?_ hzero port
  · obtain ⟨cell, hturns, _⟩ := turns_signs hsigns tape n
    rw [hturns, tape.current_put] at hzero
    obtain rfl := hzero
    rw [rowOfSigns] at hends
    rw [← hlength, ← hturns]
    exact hends
  · intro k hk hcell
    rcases Nat.eq_zero_or_pos k with rfl | hk'
    · exact hcurrent hcell
    · exact Nat.not_le.2 hk (hleast ⟨hk', (current_turns_eq_zero_iff hsigns tape k).1 hcell⟩)

theorem not_zero_of_not_dvd (hsigns : ∀ c ∈ signs.toList, c = '+' ∨ c = '-')
    (h : ¬ Int.gcd (netChange signs.toList) 256 ∣ tape.current.toNat) (n : Nat) :
    ((Tape.turn (rowOfSigns signs))^[n] tape).current ≠ 0 := by
  intro hzero
  have hdvd := (current_turns_eq_zero_iff hsigns tape n).1 hzero
  rcases Nat.eq_zero_or_pos n with rfl | hn
  · have hcurrent : tape.current = 0 := hzero
    rw [hcurrent] at h
    exact h (dvd_zero _)
  · exact h ((turnsToZero_nonempty_iff _ _).1 ⟨n, hn, hdvd⟩)

end Loops

/-- A loop of additions to its cell and subtractions from it ends exactly when they can bring
the cell to zero. -/
theorem countsBy_of_signs {signs : String} (h : ∀ c ∈ signs.toList, c = '+' ∨ c = '-')
    (tape : Tape) (port : π) :
    ∃ program, Program.compile ("[" ++ signs ++ "]") = .ok program ∧
      CountsBy (netChange signs.toList) signs.length (start program port tape) := by
  obtain ⟨program, hcompile, hloop⟩ := Program.exists_isLoop_of_lex (lex_loop_of_signs h)
  have hends : Int.gcd (netChange signs.toList) 256 ∣ tape.current.toNat →
      ∃ n, IsLeast (turnsToZero tape.current.toNat (netChange signs.toList)) n ∧
        (start program port tape).EndsWith (.ended (tape.put 0) port
          (if tape.current = 0 then 1 else n * (signs.length + 2))) := by
    intro hdvd
    obtain ⟨n, hn⟩ := exists_isLeast_turnsToZero hdvd
    refine ⟨n, hn, ?_⟩
    split
    · rename_i hzero
      have hsame : tape.put 0 = tape := by rw [← hzero, tape.put_current]
      rw [hsame]
      exact hloop.endsWith_of_zero hzero port
    · rename_i hnonzero
      exact endsWith_of_isLeast h hloop hnonzero hn port
  have hnone : ¬ Int.gcd (netChange signs.toList) 256 ∣ tape.current.toNat →
      ¬ ∃ outcome, (Block.around (rowOfSigns signs)).Runs 0 tape port outcome :=
    fun hdvd => Program.IsLoop.no_outcome_of_turns (follow_turns_signs h tape)
      (not_zero_of_not_dvd h hdvd) port
  refine ⟨program, hcompile, ?_, hends, ?_, ?_⟩
  · constructor
    · rintro ⟨fuel, result, hhalted⟩
      by_contra hdvd
      have hunfinished := unfinished_of_no_outcome hloop.realizes (hnone hdvd) fuel
      rw [hhalted] at hunfinished
      cases hunfinished
    · intro hdvd
      obtain ⟨n, _, fuel, hfuel⟩ := hends hdvd
      exact ⟨fuel, _, congrArg Prod.snd hfuel⟩
  · intro hdvd
    exact hloop.running_of_no_outcome (hnone hdvd)
  · intro n after hafter
    exact hloop.port_of_driven hafter

/-- A cell that goes up by two comes to zero from six, and from seven never. -/
theorem countsBy_of_signs_two : ∃ program, Program.compile "[+-++]" = .ok program ∧
    (∀ c ∈ "+-++".toList, c = '+' ∨ c = '-') ∧
    CountsBy 2 4 (start program (BufferPort.ofInput []) (Tape.single.put 6)) ∧
    (∃ fuel result, ((start program (BufferPort.ofInput []) (Tape.single.put 6)).run fuel).2 =
      .halted result) ∧
    ∀ n, ((start program (BufferPort.ofInput []) (Tape.single.put 7)).stepTimes n).state =
      .running := by
  have hsigns : ∀ c ∈ "+-++".toList, c = '+' ∨ c = '-' := by simp
  obtain ⟨program, hcompile, hcounts⟩ :=
    countsBy_of_signs hsigns (Tape.single.put 6) (BufferPort.ofInput [])
  obtain ⟨program', hcompile', hcounts'⟩ :=
    countsBy_of_signs hsigns (Tape.single.put 7) (BufferPort.ofInput [])
  obtain rfl := Except.ok.inj (hcompile.symm.trans hcompile')
  have hsix : Int.gcd 2 256 ∣ (Tape.single.put 6).current.toNat := by decide
  have hseven : ¬ Int.gcd 2 256 ∣ (Tape.single.put 7).current.toNat := by decide
  exact ⟨program, hcompile, hsigns, hcounts, hcounts.halts_iff.2 hsix,
    hcounts'.running_of_not_dvd hseven⟩

end Machine

end TapeMachine
