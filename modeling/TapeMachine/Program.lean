/-
  Programs.

  A program is a list of instructions together with the jump table of its loops.
  Compiling reads the instructions of a source text and pairs every loop bracket
  with its partner.
-/
import TapeMachine.Fault
import TapeMachine.Instruction
import TapeMachine.JumpTable

set_option autoImplicit false

namespace TapeMachine

/-! ## Matching brackets -/

namespace Loops

/-- The loops of the instructions from an index on, each as the indexes of its two
brackets, in the order in which the loops are closed.  `pending` holds the loops
that are open, the innermost first, and `closed` the loops closed so far, the last
one first. -/
def matchFrom (index : Nat) (pending : List Nat) (closed : List (Nat × Nat)) :
    List Instruction → Except Fault (List (Nat × Nat))
  | [] =>
      match pending.getLast? with
      | none => .ok closed.reverse
      | some outermost => .error (.unmatchedOpen outermost)
  | .loopOpen :: rest => matchFrom (index + 1) (index :: pending) closed rest
  | .loopClose :: rest =>
      match pending with
      | [] => .error (.unmatchedClose index)
      | start :: pending => matchFrom (index + 1) pending ((start, index) :: closed) rest
  | _ :: rest => matchFrom (index + 1) pending closed rest

/-- The loops of a list of instructions, in the order in which they are closed. -/
def ofInstructions (instructions : List Instruction) : Except Fault (List (Nat × Nat)) :=
  matchFrom 0 [] [] instructions

/-- The two jumps of a loop: from its start to its end and back. -/
def jumps (loop : Nat × Nat) : List (Int × Int) :=
  [((loop.1 : Int), (loop.2 : Int)), ((loop.2 : Int), (loop.1 : Int))]

end Loops

/-- The table that leads from every loop bracket to its partner. -/
def JumpTable.ofInstructions (instructions : List Instruction) : Except Fault JumpTable :=
  (Loops.ofInstructions instructions).map fun loops => ⟨loops.flatMap Loops.jumps⟩

/-! ## Programs -/

/-- A compiled program. -/
structure Program where
  code : Array Instruction
  jumps : JumpTable
  deriving Repr, Inhabited

namespace Program

/-- The instructions of a program. -/
def instructions (program : Program) : List Instruction :=
  program.code.toList

/-- The number of instructions. -/
def length (program : Program) : Nat :=
  program.code.size

/-- The command symbols of a program. -/
def text (program : Program) : String :=
  Instruction.render program.instructions

/-- The program of a list of instructions. -/
def ofInstructions (instructions : List Instruction) : Except Fault Program :=
  (JumpTable.ofInstructions instructions).map fun jumps => ⟨instructions.toArray, jumps⟩

/-- Compiles a source text. -/
def compile (source : String) : Except Fault Program :=
  ofInstructions (Instruction.lex source)

/-- Whether two programs have the same instructions and agreeing jumps. -/
def agrees (left right : Program) : Bool :=
  decide (left.code = right.code) && left.jumps.agrees right.jumps

/-- The instruction at an index.  A negative index counts from the end. -/
def fetch? (program : Program) (index : Int) : Option Instruction :=
  if 0 ≤ index then program.code[index.toNat]?
  else if 0 ≤ index + program.code.size then program.code[(index + program.code.size).toNat]?
  else none

theorem instructions_of_compile {source : String} {program : Program}
    (h : compile source = .ok program) : program.instructions = Instruction.lex source := by
  unfold compile ofInstructions at h
  cases htable : JumpTable.ofInstructions (Instruction.lex source) with
  | error e => simp [htable, Except.map] at h
  | ok jumps =>
      simp only [htable, Except.map, Except.ok.injEq] at h
      subst h
      simp [instructions]

end Program

end TapeMachine
