/-
  Ports.

  The machine reads and writes bytes through a port, one at a time.  A port is a
  state with two operations.  A read gives a value, or none at the end of the input,
  or an error; a write takes a value or gives an error.  The state may change even
  when an operation gives an error.  Nothing forces a port to deliver bytes, so
  values are integers.
-/
import TapeMachine.Fault

set_option autoImplicit false

namespace TapeMachine

/-- A kind of port with its states. -/
class Port (π : Type) where
  /-- The next value of the input; none at its end. -/
  read : π → π × Except PortError (Option Int)
  /-- Writes a value to the output. -/
  write : π → Int → π × Except PortError Unit

end TapeMachine
