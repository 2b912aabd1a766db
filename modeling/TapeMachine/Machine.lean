/-
  The machine.

  A machine holds a program, a port, a tape and the index of the next instruction.
  One step executes one instruction; a run takes steps until the program ends or
  something is raised.  A fault stops the machine for good; any other error leaves it
  where it was, so that the instruction can be tried again.
-/
import TapeMachine.Port
import TapeMachine.Program
import TapeMachine.Tape

set_option autoImplicit false

namespace TapeMachine

/-! ## What can be raised -/

/-- What a step or a run may raise. -/
inductive Raised where
  /-- A fault of the machine. -/
  | fault (fault : Fault)
  /-- The jump table has no target for a loop bracket. -/
  | noTarget (index : Int)
  /-- A jump led in front of the program. -/
  | noInstruction (index : Int)
  /-- An error of the port that is passed on. -/
  | foreign (error : ForeignError)
  deriving DecidableEq, Repr, Inhabited

/-- What the machine raises for an error of its port. -/
def Raised.ofPort : PortError → Raised
  | .failure failure => .fault (.port failure)
  | .fault own => .fault own
  | .foreign error => .foreign error

/-! ## One instruction -/

/-- What an instruction leaves behind: the tape, the port, and the next index or what
is raised instead. -/
structure Effect (π : Type) where
  tape : Tape
  port : π
  next : Except Raised Int

namespace Instruction

variable {π : Type} [Port π]

/-- Executes an instruction at an index.  Whatever is raised, the tape stays as it
was. -/
def execute (jumps : JumpTable) (index : Int) (tape : Tape) (port : π) : Instruction → Effect π
  | moveRight =>
      match tape.moveRight with
      | (tape, none) => ⟨tape, port, .ok (index + 1)⟩
      | (tape, some fault) => ⟨tape, port, .error (.fault fault)⟩
  | moveLeft =>
      match tape.moveLeft with
      | (tape, none) => ⟨tape, port, .ok (index + 1)⟩
      | (tape, some _) => ⟨tape, port, .error (.fault (.underflow (some index)))⟩
  | increment => ⟨tape.increment, port, .ok (index + 1)⟩
  | decrement => ⟨tape.decrement, port, .ok (index + 1)⟩
  | output =>
      match Port.write port tape.current.toNat with
      | (port, .ok ()) => ⟨tape, port, .ok (index + 1)⟩
      | (port, .error error) => ⟨tape, port, .error (.ofPort error)⟩
  | input =>
      match Port.read port with
      | (port, .ok value) =>
          match Tape.cellOf (value.getD 0) with
          | .ok cell => ⟨tape.put cell, port, .ok (index + 1)⟩
          | .error failure => ⟨tape, port, .error (.fault (.port failure))⟩
      | (port, .error error) => ⟨tape, port, .error (.ofPort error)⟩
  | loopOpen =>
      if tape.current = 0 then
        match jumps.target? index with
        | some target => ⟨tape, port, .ok (target + 1)⟩
        | none => ⟨tape, port, .error (.noTarget index)⟩
      else ⟨tape, port, .ok (index + 1)⟩
  | loopClose =>
      if tape.current = 0 then ⟨tape, port, .ok (index + 1)⟩
      else
        match jumps.target? index with
        | some target => ⟨tape, port, .ok target⟩
        | none => ⟨tape, port, .error (.noTarget index)⟩

end Instruction

/-! ## Machines -/

/-- The states of a machine. -/
inductive State where
  /-- An instruction is next. -/
  | running
  /-- The program has ended. -/
  | halted
  /-- A fault has stopped the machine. -/
  | failed
  deriving DecidableEq, Repr, Inhabited

/-- What a run leaves behind. -/
structure RunResult where
  state : State
  steps : Nat
  pointer : Nat
  cells : List UInt8
  deriving DecidableEq, Repr, Inhabited

/-- A machine in the middle of a program. -/
structure Machine (π : Type) where
  program : Program
  port : π
  tape : Tape
  /-- The index of the next instruction. -/
  index : Int
  /-- The number of instructions completed. -/
  steps : Nat
  /-- The fault that stopped the machine. -/
  fault : Option Fault

/-- How a run of bounded length ends. -/
inductive Verdict where
  /-- The program ended. -/
  | halted (result : RunResult)
  /-- Something was raised. -/
  | raised (raised : Raised)
  /-- The machine is still running. -/
  | unfinished
  deriving DecidableEq, Repr, Inhabited

namespace Machine

variable {π : Type} [Port π]

/-- The machine in front of a program. -/
def start (program : Program) (port : π) (tape : Tape) : Machine π :=
  ⟨program, port, tape, 0, 0, none⟩

/-- The state of a machine. -/
def state (m : Machine π) : State :=
  if m.fault.isSome then .failed
  else if m.program.length ≤ m.index then .halted
  else .running

/-- What a run of the machine would leave behind now. -/
def result (m : Machine π) : RunResult :=
  ⟨m.state, m.steps, m.tape.pointer, m.tape.cells.toList⟩

/-- The machine after an instruction with the given effect, from the index and the
number of steps before it. -/
def settle (program : Program) (index : Int) (steps : Nat) (effect : Effect π) :
    Machine π × Option Raised :=
  match effect.next with
  | .ok next => (⟨program, effect.port, effect.tape, next, steps + 1, none⟩, none)
  | .error (.fault own) =>
      (⟨program, effect.port, effect.tape, index, steps, some own⟩, some (.fault own))
  | .error raised => (⟨program, effect.port, effect.tape, index, steps, none⟩, some raised)

/-- Executes one instruction.  A machine that has halted or failed does nothing. -/
def step (m : Machine π) : Machine π × Option Raised :=
  if m.state = .running then
    match m.program.fetch? m.index with
    | none => (m, some (.noInstruction m.index))
    | some instruction =>
        settle m.program m.index m.steps
          (instruction.execute m.program.jumps m.index m.tape m.port)
  else (m, none)

/-- Takes steps until the program ends or something is raised, at most `fuel`
steps. -/
def runFor : (fuel : Nat) → Machine π → Machine π × Verdict
  | 0, m => (m, .unfinished)
  | fuel + 1, m =>
      match m.step with
      | (m, some raised) => (m, .raised raised)
      | (m, none) => if m.state = .running then runFor fuel m else (m, .halted m.result)

/-- Runs the machine for at most `fuel` steps.  A machine that has failed raises its
fault again. -/
def run (fuel : Nat) (m : Machine π) : Machine π × Verdict :=
  match m.fault with
  | some fault => (m, .raised (.fault fault))
  | none => runFor fuel m

end Machine

end TapeMachine
