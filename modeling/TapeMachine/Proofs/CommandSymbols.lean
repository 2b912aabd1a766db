/-
  Programs and their command symbols.

  A source text is its command symbols with comments between them.  Main statement: the
  command symbols alone decide which program a source text compiles to, or which bracket is
  wrong in it; equal programs have the same command symbols; and the text of a program is its
  command symbols, which compile to the program again.
-/
import Mathlib.Data.List.Perm.Subperm
import TapeMachine.Proofs.Safety
import TapeMachine.Proofs.Unbalanced

set_option autoImplicit false

namespace TapeMachine

/-! ## Command symbols -/

namespace Instruction

/-- The characters that stand for instructions. -/
def commands : List Char := ['>', '<', '+', '-', '.', ',', '[', ']']

/-- A source text without its comments. -/
def commandText (source : String) : String :=
  String.ofList (source.toList.filter fun c => decide (c ∈ commands))

theorem isSymbol_eq (c : Char) : isSymbol c = decide (c ∈ commands) := by
  rw [isSymbol, Bool.eq_iff_iff, Option.isSome_iff_exists, decide_eq_true_iff]
  constructor
  · rintro ⟨i, hi⟩
    rw [← symbol_of_ofSymbol? hi]
    cases i <;> decide
  · intro hc
    simp only [commands, List.mem_cons, List.not_mem_nil, or_false] at hc
    rcases hc with rfl | rfl | rfl | rfl | rfl | rfl | rfl | rfl <;> exact ⟨_, rfl⟩

theorem render_lex (source : String) : render (lex source) = commandText source := by
  have hfilter : isSymbol = fun c => decide (c ∈ commands) := funext isSymbol_eq
  rw [render, lex, map_symbol_lexChars, hfilter, commandText]

theorem lex_commandText (source : String) : lex (commandText source) = lex source := by
  rw [← render_lex, lex_render]

theorem lex_eq_lex_iff (left right : String) :
    lex left = lex right ↔ commandText left = commandText right := by
  constructor
  · intro h
    rw [← render_lex, ← render_lex, h]
  · intro h
    rw [← lex_commandText left, h, lex_commandText]

end Instruction

/-! ## Tables as mappings -/

namespace JumpTable

/-- Tables without repeated keys agree when they lead from the same places to the same
targets, whatever the order of their keys. -/
theorem agrees_iff {left right : JumpTable} (h : left.keys.Nodup) (h' : right.keys.Nodup) :
    left.agrees right = true ↔ ∀ key, left.target? key = right.target? key := by
  have hmem : ∀ key target, left.target? key = some target ↔ (key, target) ∈ left.entries :=
    lookup_eq_some_iff_mem h
  have hmem' : ∀ key target, right.target? key = some target ↔ (key, target) ∈ right.entries :=
    lookup_eq_some_iff_mem h'
  have hnodup : left.entries.Nodup := h.of_map
  have hnodup' : right.entries.Nodup := h'.of_map
  simp only [agrees, Bool.and_eq_true, beq_iff_eq, List.all_eq_true, decide_eq_true_eq]
  constructor
  · rintro ⟨hsize, hall⟩ key
    -- As many entries as in the other table, all of them there: they are its entries.
    have hsubset : left.entries ⊆ right.entries := fun entry hentry =>
      (hmem' entry.1 entry.2).1 (hall entry hentry)
    have hperm : left.entries.Perm right.entries :=
      (hnodup.subperm hsubset).perm_of_length_le (Nat.le_of_eq hsize.symm)
    ext target
    rw [hmem, hmem', hperm.mem_iff]
  · intro htargets
    have hperm : left.entries.Perm right.entries := by
      rw [List.perm_ext_iff_of_nodup hnodup hnodup']
      intro entry
      rw [← hmem, ← hmem', htargets]
    refine ⟨hperm.length_eq, fun entry hentry => ?_⟩
    rw [← htargets, hmem]
    exact hentry

end JumpTable

/-! ## What compiling comes to -/

namespace Program

/-- Two compilations come to the same: to equal programs, or to the fault of one bracket. -/
inductive Alike : Except Fault Program → Except Fault Program → Prop
  | compiled {first second : Program} (h : first.agrees second = true) :
      Alike (.ok first) (.ok second)
  | unmatchedOpen (index : Nat) :
      Alike (.error (.unmatchedOpen index)) (.error (.unmatchedOpen index))
  | unmatchedClose (index : Nat) :
      Alike (.error (.unmatchedClose index)) (.error (.unmatchedClose index))

theorem compile_of_lex_eq {left right : String} (h : Instruction.lex left = Instruction.lex right) :
    compile left = compile right := by
  rw [compile, compile, h]

section Compiled

variable {source source' : String} {program program' : Program}

theorem agrees_iff_of_compile (h : compile source = .ok program)
    (h' : compile source' = .ok program') :
    program.agrees program' = true ↔ program.instructions = program'.instructions ∧
      ∀ key, program.jumps.target? key = program'.jumps.target? key := by
  have htables := JumpTable.agrees_iff (resolves_of_compile h).nodup_keys
    (resolves_of_compile h').nodup_keys
  rw [agrees, Bool.and_eq_true, decide_eq_true_iff, htables]
  refine and_congr_left fun _ => ?_
  rw [instructions, instructions, Array.toList_inj]

theorem agrees_self_of_compile (h : compile source = .ok program) :
    program.agrees program = true :=
  (agrees_iff_of_compile h h).2 ⟨rfl, fun _ => rfl⟩

/-- Equal programs come from the same instructions. -/
theorem agrees_iff_lex_eq (h : compile source = .ok program)
    (h' : compile source' = .ok program') :
    program.agrees program' = true ↔ Instruction.lex source = Instruction.lex source' := by
  constructor
  · intro hagrees
    rw [← instructions_of_compile h, ← instructions_of_compile h']
    exact ((agrees_iff_of_compile h h').1 hagrees).1
  · intro hlex
    obtain rfl : program = program' := by
      rw [compile_of_lex_eq hlex, h'] at h
      exact (Except.ok.inj h).symm
    exact agrees_self_of_compile h

/-- A source text that does not compile has a bracket without a partner. -/
theorem exists_offends_of_compile {fault : Fault} (h : compile source = .error fault) :
    ∃ place bracket, Loops.Offends (Instruction.lex source) place bracket fault := by
  have hunbalanced : ¬ Loops.Balanced (Instruction.lex source) := by
    intro hbalanced
    obtain ⟨table, htable⟩ := (JumpTable.ofInstructions_resolves _).1.2 hbalanced
    rw [compile, ofInstructions, htable] at h
    cases h
  obtain ⟨place, bracket, fault', hoffends, hmatch⟩ :=
    Loops.exists_offends_of_not_balanced hunbalanced
  obtain rfl := Except.error.inj ((compile_of_error hmatch).symm.trans h)
  exact ⟨place, bracket, hoffends⟩

/-- Source texts of the same instructions compile alike. -/
theorem alike_of_lex_eq (h : Instruction.lex source = Instruction.lex source') :
    Alike (compile source) (compile source') := by
  rw [← compile_of_lex_eq h]
  cases hcompile : compile source with
  | ok program => exact .compiled (agrees_self_of_compile hcompile)
  | error fault =>
      obtain ⟨place, bracket, hoffends⟩ := exists_offends_of_compile hcompile
      cases hoffends with
      | excess => exact .unmatchedClose place
      | unclosed => exact .unmatchedOpen place

theorem text_of_compile (h : compile source = .ok program) :
    program.text = Instruction.commandText source := by
  rw [text, instructions_of_compile h, Instruction.render_lex]

theorem compile_text_of_compile (h : compile source = .ok program) :
    compile program.text = .ok program := by
  rw [text_of_compile h, compile_of_lex_eq (Instruction.lex_commandText source), h]

end Compiled

/-! ## Compiling by command symbols -/

/-- What two source texts compile to is told by their command symbols. -/
structure ToldBySymbols (source source' : String) : Prop where
  alike : Instruction.commandText source = Instruction.commandText source' →
    Alike (compile source) (compile source')
  /-- Equal programs have the same instructions and the same jumps. -/
  agrees_iff : ∀ program program', compile source = .ok program →
    compile source' = .ok program' →
      (program.agrees program' = true ↔ program.instructions = program'.instructions ∧
        ∀ key, program.jumps.target? key = program'.jumps.target? key)
  agrees_iff_commandText : ∀ program program', compile source = .ok program →
    compile source' = .ok program' →
      (program.agrees program' = true ↔
        Instruction.commandText source = Instruction.commandText source')
  text_eq : ∀ program, compile source = .ok program →
    program.text = Instruction.commandText source
  compile_text : ∀ program, compile source = .ok program → compile program.text = .ok program

/-- Comments do not matter, the command symbols do, and they are written and read without
loss. -/
theorem toldBySymbols_compile (source source' : String) :
    ToldBySymbols source source' ∧
      ∀ code : List Instruction, Instruction.lex (Instruction.render code) = code := by
  refine ⟨?_, Instruction.lex_render⟩
  constructor
  · intro htext
    exact alike_of_lex_eq ((Instruction.lex_eq_lex_iff source source').2 htext)
  · exact fun _ _ => agrees_iff_of_compile
  · intro program program' h h'
    rw [agrees_iff_lex_eq h h', Instruction.lex_eq_lex_iff]
  · exact fun _ => text_of_compile
  · exact fun _ => compile_text_of_compile

/-- Comments around a loop and in it, and brackets that are wrong in spite of them. -/
theorem toldBySymbols_compile_comments :
    Instruction.commandText "clear [it: - ] done" = Instruction.commandText "[-]" ∧
      Alike (compile "clear [it: - ] done") (compile "[-]") ∧
      Instruction.commandText "a] b[" = Instruction.commandText "][" ∧
      Alike (compile "a] b[") (compile "][") := by
  have hclear : Instruction.commandText "clear [it: - ] done" = Instruction.commandText "[-]" :=
    by decide
  have hwrong : Instruction.commandText "a] b[" = Instruction.commandText "][" := by decide
  exact ⟨hclear, (toldBySymbols_compile _ _).1.alike hclear, hwrong,
    (toldBySymbols_compile _ _).1.alike hwrong⟩

end Program

end TapeMachine
