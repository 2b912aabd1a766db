/-
  Journal.

  Compiling and running leave records: one for each program compiled, one for each
  fault that stops a machine, and one for each run that reaches the end of its
  program.
-/
import TapeMachine.Level
import TapeMachine.Machine

set_option autoImplicit false

namespace TapeMachine

/-! ## Records -/

/-- A log record: its level, the logger it goes to and its message. -/
structure Record where
  level : Level
  logger : String
  message : String
  deriving DecidableEq, Repr, Inhabited

namespace Record

/-- A program was compiled. -/
def compiled (program : Program) : Record :=
  ⟨.debug, "bytetape.program",
    s!"compiled {program.length} instructions, {program.jumps.loopCount} loops"⟩

/-- A fault stopped a machine at an index after a number of steps. -/
def failed (index : Int) (steps : Nat) (fault : Fault) : Record :=
  ⟨.warning, "bytetape.executor",
    s!"execution failed at instruction {index} after {steps} steps: {fault.message}"⟩

/-- A run reached the end of its program with a tape of the given size. -/
def halted (steps size : Nat) : Record :=
  ⟨.debug, "bytetape.executor", s!"halted after {steps} steps, tape has {size} cells"⟩

end Record

/-! ## What is recorded -/

namespace Program

/-- The records of a compilation. -/
def compileRecords (outcome : Except Fault Program) : List Record :=
  match outcome with
  | .ok program => [.compiled program]
  | .error _ => []

end Program

namespace Machine

variable {π : Type}

/-- The record of a call that turned a machine from sound to failed. -/
def faultRecords (before after : Machine π) : List Record :=
  match before.fault, after.fault with
  | none, some fault => [.failed after.index after.steps fault]
  | _, _ => []

/-- The records of a run with the given verdict. -/
def runRecords (before after : Machine π) (verdict : Verdict) : List Record :=
  match verdict with
  | .halted _ => [.halted after.steps after.tape.size]
  | _ => faultRecords before after

end Machine

end TapeMachine
