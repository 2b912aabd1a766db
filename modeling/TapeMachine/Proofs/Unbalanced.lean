/-
  Unbalanced brackets.

  Instructions are unbalanced when some prefix closes more loops than it opens, or when
  a loop is never closed.  The first excess closing bracket is reported in any case, and
  without one the first opening bracket that nothing closes.  Main statement: a source text
  with unbalanced brackets is refused with that bracket, whose index counts the command
  symbols in front of it, before a run touches its port or makes a tape.
-/
import TapeMachine.Interpreter
import TapeMachine.Proofs.Matching

set_option autoImplicit false

namespace TapeMachine

namespace Loops

/-! ## Brackets without a partner -/

/-- The instructions up to and including a place close more loops than they open. -/
def Excess (code : List Instruction) (place : Nat) : Prop :=
  (code.take (place + 1)).count .loopOpen < (code.take (place + 1)).count .loopClose

theorem excess_iff_height (code : List Instruction) (place : Nat) :
    Excess code place ↔ height code (place + 1) < 0 := by
  simp only [Excess, height]
  omega

theorem eq_loopClose_of_weight_neg {x : Instruction} (h : weight x < 0) : x = .loopClose := by
  cases x <;> simp_all [weight]

/-- The bracket at a place opens a loop that no bracket behind it closes. -/
structure Unclosed (code : List Instruction) (place : Nat) : Prop where
  opens : code[place]? = some .loopOpen
  not_matched : ∀ stop, ¬ Matched code place stop

/-- The bracket at a place is the one to be reported, with the fault that reports it: the
first excess closing bracket, or when there is none the first unclosed opening one. -/
inductive Offends (code : List Instruction) : Nat → Instruction → Fault → Prop
  | excess (place : Nat) (hexcess : Excess code place)
      (hfirst : ∀ earlier < place, ¬ Excess code earlier) :
      Offends code place .loopClose (.unmatchedClose place)
  | unclosed (place : Nat) (hnone : ∀ other, ¬ Excess code other)
      (hunclosed : Unclosed code place) (hfirst : ∀ earlier < place, ¬ Unclosed code earlier) :
      Offends code place .loopOpen (.unmatchedOpen place)

/-- The reported bracket is one of the instructions. -/
theorem Offends.getElem?_eq {code : List Instruction} {place : Nat} {bracket : Instruction}
    {fault : Fault} (h : Offends code place bracket fault) : code[place]? = some bracket := by
  cases h with
  | unclosed _ hunclosed _ => exact hunclosed.opens
  | excess hexcess hfirst =>
      rw [excess_iff_height] at hexcess
      -- One instruction takes the height from zero or more to below zero.
      have hbefore : 0 ≤ height code place := by
        cases place with
        | zero => simp
        | succ earlier =>
            have := hfirst earlier (Nat.lt_succ_self earlier)
            rw [excess_iff_height] at this
            omega
      have hlt : place < code.length := by
        by_contra hbeyond
        rw [height_of_length_le (by omega)] at hexcess hbefore
        omega
      have hx := List.getElem?_eq_getElem hlt
      have hsucc := height_succ hx
      rw [hx, eq_loopClose_of_weight_neg (x := code[place]) (by omega)]

/-! ## Opening brackets in front of height zero -/

theorem Matched.of_take {code : List Instruction} {length start stop : Nat}
    (h : Matched (code.take length) start stop) : Matched code start stop := by
  have hstop := h.stop_lt_length
  have hstart := h.start_lt_stop
  rw [List.length_take] at hstop
  have hinside : (code.take length).extract (start + 1) stop = code.extract (start + 1) stop := by
    rw [List.extract_eq_take_drop, List.extract_eq_take_drop, List.drop_take, List.take_take,
      Nat.min_eq_left (by omega)]
  refine ⟨hstart, ?_, ?_, ?_⟩
  · rw [← h.opens, List.getElem?_take_of_lt (by omega)]
  · rw [← h.closes, List.getElem?_take_of_lt (by omega)]
  · rw [← hinside]
    exact h.balanced

/-- In front of a place that the height comes down to zero at, every loop is closed. -/
theorem exists_matched_of_height_eq_zero {code : List Instruction} {place earlier : Nat}
    (hnonneg : ∀ other ≤ place, 0 ≤ height code other) (hzero : height code place = 0)
    (hle : place ≤ code.length) (hearlier : earlier < place)
    (hopens : code[earlier]? = some .loopOpen) : ∃ stop, Matched code earlier stop := by
  have hbalanced : Balanced (code.extract 0 place) := by
    rw [balanced_extract_iff (Nat.zero_le place) hle, height_zero]
    exact ⟨fun other _ => hnonneg other, hzero⟩
  rw [List.extract_eq_take_drop, List.drop_zero, Nat.sub_zero] at hbalanced
  obtain ⟨loops, hloops⟩ := (exists_ofInstructions_iff _).2 hbalanced
  have hfront : (code.take place)[earlier]? = some .loopOpen := by
    rw [List.getElem?_take_of_lt hearlier, hopens]
  obtain ⟨stop, hmem⟩ := (complete_of_ofInstructions hloops).exists_stop earlier hfront
  exact ⟨stop, ((complete_of_ofInstructions hloops).matched _ hmem).of_take⟩

/-! ## Matching up to the offending bracket -/

/-- What is known in the middle of matching: the height counts the open loops, nothing has
been closed in excess, and the height has stayed above the outermost of the open loops. -/
structure Scanned (code : List Instruction) (index : Nat) (pending : List Nat) : Prop where
  height_eq : height code index = pending.length
  height_nonneg : ∀ place ≤ index, 0 ≤ height code place
  outermost : ∀ start, pending.getLast? = some start →
    code[start]? = some .loopOpen ∧ height code start = 0 ∧
      ∀ place, start < place → place ≤ index → 0 < height code place

namespace Scanned

variable {code rest : List Instruction} {index start : Nat} {pending : List Nat}

/-- One more instruction is passed.  The outermost open loop is an old one, or it has just
been opened. -/
theorem next (h : Scanned code index pending) {pending' : List Nat}
    (hheight : height code (index + 1) = pending'.length)
    (hlast : ∀ start, pending'.getLast? = some start →
      pending.getLast? = some start ∨
        start = index ∧ pending = [] ∧ code[index]? = some .loopOpen) :
    Scanned code (index + 1) pending' where
  height_eq := hheight
  height_nonneg place hplace := by
    rcases Nat.lt_or_ge index place with hnew | hold
    · obtain rfl : place = index + 1 := by omega
      omega
    · exact h.height_nonneg place hold
  outermost start hstart := by
    have hpending : 0 < pending'.length := by
      cases pending' with
      | nil => simp at hstart
      | cons => simp
    rcases hlast start hstart with hold | ⟨rfl, rfl, hopens⟩
    · obtain ⟨hopens, hzero, habove⟩ := h.outermost start hold
      refine ⟨hopens, hzero, fun place hplace hle => ?_⟩
      rcases Nat.lt_or_ge index place with hnew | hinside
      · obtain rfl : place = index + 1 := by omega
        omega
      · exact habove place hplace hinside
    · refine ⟨hopens, by simpa using h.height_eq, fun place hplace hle => ?_⟩
      obtain rfl : place = start + 1 := by omega
      omega

theorem opens (h : Scanned code index pending) (hx : code[index]? = some .loopOpen) :
    Scanned code (index + 1) (index :: pending) := by
  refine h.next ?_ fun start hstart => ?_
  · rw [height_succ hx, h.height_eq, weight, List.length_cons]
    rfl
  · cases pending with
    | nil => exact Or.inr ⟨(Option.some.inj hstart).symm, rfl, hx⟩
    | cons inner outer =>
        rw [List.getLast?_cons_cons] at hstart
        exact Or.inl hstart

theorem closes (h : Scanned code index (start :: pending))
    (hx : code[index]? = some .loopClose) : Scanned code (index + 1) pending := by
  refine h.next ?_ fun outermost houtermost => ?_
  · rw [height_succ hx, h.height_eq, weight, List.length_cons]
    omega
  · cases pending with
    | nil => simp at houtermost
    | cons inner outer =>
        rw [List.getLast?_cons_cons]
        exact Or.inl houtermost

theorem passes (h : Scanned code index pending) {x : Instruction} (hx : code[index]? = some x)
    (hweight : weight x = 0) : Scanned code (index + 1) pending := by
  refine h.next ?_ fun start hstart => Or.inl hstart
  rw [height_succ hx, h.height_eq, hweight, Int.add_zero]

/-- A closing bracket that finds no open loop is the first one in excess. -/
theorem offends_close (h : Scanned code index []) (hx : code[index]? = some .loopClose) :
    Offends code index .loopClose (.unmatchedClose index) := by
  refine .excess index ?_ fun earlier hearlier => ?_
  · rw [excess_iff_height, height_succ hx, h.height_eq]
    simp [weight]
  · have := h.height_nonneg (earlier + 1) hearlier
    rw [excess_iff_height]
    omega

/-- When all instructions are passed, the outermost open loop is the first unclosed one. -/
theorem offends_open (h : Scanned code code.length pending)
    (hstart : pending.getLast? = some start) :
    Offends code start .loopOpen (.unmatchedOpen start) := by
  obtain ⟨hopens, hzero, habove⟩ := h.outermost start hstart
  have hlt : start < code.length := (List.getElem?_eq_some_iff.1 hopens).1
  refine .unclosed start (fun other => ?_) ⟨hopens, fun stop hmatched => ?_⟩
    fun earlier hearlier hunclosed => ?_
  · rw [excess_iff_height]
    rcases Nat.lt_or_ge code.length (other + 1) with hbeyond | hinside
    · have := h.height_nonneg code.length (Nat.le_refl _)
      rw [height_of_length_le (Nat.le_of_lt hbeyond)]
      omega
    · have := h.height_nonneg (other + 1) hinside
      omega
  · -- Behind its partner the height would be back to where it started.
    have hback := hmatched.height_succ_stop
    have := hmatched.start_lt_stop
    have := habove (stop + 1) (by omega) hmatched.stop_lt_length
    omega
  · obtain ⟨stop, hmatched⟩ := exists_matched_of_height_eq_zero
      (fun other hother => h.height_nonneg other (by omega)) hzero (Nat.le_of_lt hlt) hearlier
      hunclosed.opens
    exact hunclosed.not_matched stop hmatched

end Scanned

/-- When matching fails, it reports the offending bracket. -/
theorem exists_offends_of_matchFrom {code rest : List Instruction} {index : Nat}
    {pending : List Nat} {closed : List (Nat × Nat)} {fault : Fault}
    (hrest : Located code index rest) (hlength : code.length = index + rest.length)
    (hscanned : Scanned code index pending)
    (h : matchFrom index pending closed rest = .error fault) :
    ∃ place bracket, Offends code place bracket fault := by
  induction rest generalizing index pending closed with
  | nil =>
      rw [List.length_nil, Nat.add_zero] at hlength
      subst hlength
      rw [matchFrom] at h
      split at h
      · simp at h
      · rename_i outermost houtermost
        obtain rfl := Except.error.inj h
        exact ⟨_, _, hscanned.offends_open houtermost⟩
  | cons x rest ih =>
      have hx := hrest.first
      have hbehind : code.length = index + 1 + rest.length := by
        rw [hlength, List.length_cons]
        omega
      cases x with
      | loopOpen => exact ih hrest.next hbehind (hscanned.opens hx) h
      | loopClose =>
          cases pending with
          | nil =>
              obtain rfl := Except.error.inj h
              exact ⟨_, _, hscanned.offends_close hx⟩
          | cons start pending => exact ih hrest.next hbehind (hscanned.closes hx) h
      | moveRight | moveLeft | increment | decrement | output | input =>
          exact ih hrest.next hbehind (hscanned.passes hx rfl) h

/-- Matching unbalanced instructions fails and reports the offending bracket. -/
theorem exists_offends_of_not_balanced {code : List Instruction} (h : ¬ Balanced code) :
    ∃ place bracket fault, Offends code place bracket fault ∧
      ofInstructions code = .error fault := by
  have hstart : Scanned code 0 [] := by
    refine ⟨height_zero code, fun place hplace => ?_, by simp⟩
    rw [Nat.le_zero.1 hplace, height_zero]
  cases hmatch : ofInstructions code with
  | ok loops => exact absurd ((exists_ofInstructions_iff code).1 ⟨loops, hmatch⟩) h
  | error fault =>
      obtain ⟨place, bracket, hoffends⟩ := exists_offends_of_matchFrom (Located.whole code)
        (Nat.zero_add _).symm hstart hmatch
      exact ⟨place, bracket, fault, hoffends, rfl⟩

end Loops

/-! ## Places in the source text -/

/-- The index of an instruction counts the command symbols in front of its own. -/
theorem Instruction.exists_symbol_of_getElem? {source : List Char} {place : Nat}
    {x : Instruction} (h : (lexChars source)[place]? = some x) :
    ∃ before after, source = before ++ x.symbol :: after ∧ before.countP isSymbol = place := by
  induction source generalizing place with
  | nil => simp [lexChars] at h
  | cons c rest ih =>
      cases hc : ofSymbol? c with
      | none =>
          rw [lexChars, List.filterMap_cons_none hc] at h
          obtain ⟨before, after, rfl, hcount⟩ := ih h
          exact ⟨c :: before, after, rfl, by simp [isSymbol, hc, ← hcount]⟩
      | some i =>
          rw [lexChars, List.filterMap_cons_some hc, ← lexChars] at h
          cases place with
          | zero =>
              obtain rfl : i = x := by simpa using h
              exact ⟨[], rest, by rw [symbol_of_ofSymbol? hc]; rfl, rfl⟩
          | succ place =>
              obtain ⟨before, after, rfl, hcount⟩ := ih (by simpa using h)
              exact ⟨c :: before, after, rfl, by simp [isSymbol, hc, ← hcount]⟩

/-! ## Refused source texts -/

theorem Program.compile_of_error {source : String} {fault : Fault}
    (h : Loops.ofInstructions (Instruction.lex source) = .error fault) :
    compile source = .error fault := by
  rw [compile, ofInstructions, JumpTable.ofInstructions, h]
  rfl

/-- A source text that does not compile is not run: the port is left alone, nothing is
recorded, and whether the settings allow a tape does not matter. -/
theorem Interpreter.run_of_compile_error {source : String} {fault : Fault}
    (h : Program.compile source = .error fault) {π : Type} [Port π] (fuel : Nat) (port : π)
    (settings : Settings) :
    run fuel source port settings = ⟨port, [], .raised (.fault fault)⟩ := by
  rw [run, start, h]
  rfl

/-- A source text with unbalanced brackets is refused with the offending bracket, whose index
counts the command symbols in front of it.  On every kind of port, one that counts the
operations on it among them, a run of the text leaves the port as it was, and settings
that allow no tape make no difference. -/
theorem Program.compile_of_not_balanced {source : String}
    (h : ¬ Loops.Balanced (Instruction.lex source)) :
    ∃ (place : Nat) (bracket : Instruction) (fault : Fault),
      Loops.Offends (Instruction.lex source) place bracket fault ∧
      compile source = .error fault ∧
      (∃ before after, source.toList = before ++ bracket.symbol :: after ∧
        before.countP Instruction.isSymbol = place) ∧
      ∀ {π : Type} [Port π] (fuel : Nat) (port : π) (settings : Settings),
        Interpreter.run fuel source port settings = ⟨port, [], .raised (.fault fault)⟩ := by
  obtain ⟨place, bracket, fault, hoffends, hmatch⟩ := Loops.exists_offends_of_not_balanced h
  have hcompile := compile_of_error hmatch
  exact ⟨place, bracket, fault, hoffends, hcompile,
    Instruction.exists_symbol_of_getElem? hoffends.getElem?_eq,
    fun fuel port settings => Interpreter.run_of_compile_error hcompile fuel port settings⟩

/-- An excess closing bracket is reported though a loop is left open as well. -/
theorem Program.compile_of_not_balanced_mixed :
    ¬ Loops.Balanced (Instruction.lex "a[+] ] b[") ∧ ∃ place bracket,
      Loops.Offends (Instruction.lex "a[+] ] b[") place bracket (.unmatchedClose 3) := by
  have hunbalanced : ¬ Loops.Balanced (Instruction.lex "a[+] ] b[") := by
    intro h
    exact absurd (h.closed_le_opened 4) (by decide)
  obtain ⟨place, bracket, fault, hoffends, hcompile, _⟩ := compile_of_not_balanced hunbalanced
  have hreported : compile "a[+] ] b[" = .error (.unmatchedClose 3) := rfl
  obtain rfl := Except.error.inj (hcompile.symm.trans hreported)
  exact ⟨hunbalanced, place, bracket, hoffends⟩

end TapeMachine
