/-
  Faults.

  A fault is a failure that the machine itself reports: unbalanced loops before a
  run, and during a run a pointer that leaves the tape or a port that fails.  A port
  may also raise errors that are none of the machine's business; these are kept
  apart and passed on.
-/
import TapeMachine.SystemError

set_option autoImplicit false

namespace TapeMachine

/-! ## Failures of ports -/

/-- A failure to read or write a byte that the machine reports as its own fault. -/
inductive PortFailure where
  /-- The device failed. -/
  | system (error : SystemError)
  /-- A cell cannot hold the value. -/
  | notByte (value : Int)
  /-- A buffer does not take the value. -/
  | bufferRange
  /-- A stream does not take the value. -/
  | streamRange
  /-- There is nowhere to write to. -/
  | noOutput
  /-- The stream is closed. -/
  | closed
  /-- The device refused the value, under a name and with a text of its own. -/
  | refused (name text : String)
  deriving DecidableEq, Repr, Inhabited

/-- The wording of a failed read or write. -/
def PortFailure.message : PortFailure → String
  | .system error => error.message
  | .notByte value => s!"cell value must be a byte, got {value}"
  | .bufferRange => "byte must be in range(0, 256)"
  | .streamRange => "bytes must be in range(0, 256)"
  | .noOutput => "port has no output stream"
  | .closed => "I/O operation on closed file."
  | .refused _ text => text

/-! ## Faults -/

/-- A failure that the machine reports. -/
inductive Fault where
  /-- A failure described by its text alone. -/
  | general (text : String)
  /-- A loop bracket is wrong, for the reason in the text. -/
  | bracket (index : Int) (text : String)
  /-- A loop is opened and never closed. -/
  | unmatchedOpen (index : Int)
  /-- A loop is closed and was never opened. -/
  | unmatchedClose (index : Int)
  /-- The pointer would move left of the first cell; the instruction is named when it
  is known. -/
  | underflow (index : Option Int)
  /-- The tape would grow past its limit. -/
  | overflow (limit : Int)
  /-- The port failed. -/
  | port (cause : PortFailure)
  deriving DecidableEq, Repr, Inhabited

/-- The wording of a fault. -/
def Fault.message : Fault → String
  | .general text => text
  | .bracket _ text => text
  | .unmatchedOpen index => s!"loop that starts at instruction {index} has no ending"
  | .unmatchedClose index => s!"loop ending at instruction {index} has no beginning"
  | .underflow none => "cell pointer moved left of cell 0"
  | .underflow (some index) => s!"cell pointer moved left of cell 0 (instruction {index})"
  | .overflow limit => s!"tape grew past the configured limit of {limit} cells"
  | .port cause => "I/O port failed: " ++ cause.message

/-! ## Errors of ports -/

/-- An error that the machine does not interpret: its name and its text. -/
structure ForeignError where
  name : String
  text : String
  deriving DecidableEq, Repr, Inhabited

/-- What a port raises instead of reading or writing. -/
inductive PortError where
  /-- A failure that the machine reports as a fault. -/
  | failure (failure : PortFailure)
  /-- A fault of the port's own, which stops the machine as it stands. -/
  | fault (fault : Fault)
  /-- An error that passes through the machine. -/
  | foreign (error : ForeignError)
  deriving DecidableEq, Repr, Inhabited

end TapeMachine
