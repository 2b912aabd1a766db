/-
  A port with prescribed answers.

  The answers to reads and writes are given beforehand, one for each operation.
  When they are used up, reads are at the end of the input and writes succeed.
-/
import TapeMachine.Port

set_option autoImplicit false

namespace TapeMachine

/-- A port that gives prescribed answers; an answer of none accepts a write. -/
structure ScriptPort where
  reads : List (Except PortError (Option Int))
  writes : List (Option PortError)
  output : Array UInt8
  deriving Repr, Inhabited

namespace ScriptPort

/-- The port at the start of its answers. -/
def ofAnswers (reads : List (Except PortError (Option Int))) (writes : List (Option PortError)) :
    ScriptPort :=
  ⟨reads, writes, #[]⟩

/-- The next prescribed answer to a read. -/
def read (port : ScriptPort) : ScriptPort × Except PortError (Option Int) :=
  match port.reads with
  | [] => (port, .ok none)
  | answer :: rest => ({ port with reads := rest }, answer)

/-- Collects an accepted value. -/
def accept (port : ScriptPort) (value : Int) : ScriptPort × Except PortError Unit :=
  if 0 ≤ value ∧ value ≤ 255 then
    ({ port with output := port.output.push (UInt8.ofNat value.toNat) }, .ok ())
  else (port, .error (.failure .bufferRange))

/-- The next prescribed answer to a write. -/
def write (port : ScriptPort) (value : Int) : ScriptPort × Except PortError Unit :=
  match port.writes with
  | [] => port.accept value
  | some error :: rest => ({ port with writes := rest }, .error error)
  | none :: rest => { port with writes := rest }.accept value

instance : Port ScriptPort := ⟨read, write⟩

end ScriptPort

end TapeMachine
