/-
  A port of any of the kinds in memory.
-/
import TapeMachine.Port.Buffer
import TapeMachine.Port.Script
import TapeMachine.Port.Stream

set_option autoImplicit false

namespace TapeMachine

/-- A port of one of the kinds in memory. -/
inductive DevicePort where
  /-- A port over bytes. -/
  | buffer (port : BufferPort)
  /-- A port over streams. -/
  | stream (port : StreamPort)
  /-- A port with prescribed answers. -/
  | script (port : ScriptPort)
  deriving Repr, Inhabited

namespace DevicePort

/-- The next value of the input. -/
def read : DevicePort → DevicePort × Except PortError (Option Int)
  | .buffer port => port.read.map .buffer id
  | .stream port => port.read.map .stream id
  | .script port => port.read.map .script id

/-- Writes a value to the output. -/
def write (port : DevicePort) (value : Int) : DevicePort × Except PortError Unit :=
  match port with
  | .buffer port => (port.write value).map .buffer id
  | .stream port => (port.write value).map .stream id
  | .script port => (port.write value).map .script id

/-- The port with its input stream closed; only streams can be closed. -/
def closeInput : DevicePort → DevicePort
  | .stream port => .stream port.closeInput
  | port => port

/-- The port with its output stream closed; only streams can be closed. -/
def closeOutput : DevicePort → DevicePort
  | .stream port => .stream port.closeOutput
  | port => port

instance : Port DevicePort := ⟨read, write⟩

end DevicePort

end TapeMachine
