/-
  A port in memory.

  The input is a list of bytes, and the output is collected.  Main statements: what
  a read and a write do to the input that is left and to the output.
-/
import TapeMachine.Port

set_option autoImplicit false

namespace TapeMachine

/-- A port over bytes in memory: the input that is left, the number of bytes read and
the output written. -/
structure BufferPort where
  remaining : List UInt8
  reads : Nat
  output : Array UInt8
  deriving DecidableEq, Repr, Inhabited

namespace BufferPort

/-- The port at the start of an input. -/
def ofInput (input : List UInt8) : BufferPort := ⟨input, 0, #[]⟩

/-- The number of bytes written. -/
def writes (port : BufferPort) : Nat := port.output.size

/-- The next byte of the input.  Reading at the end changes nothing. -/
def read (port : BufferPort) : BufferPort × Except PortError (Option Int) :=
  match port.remaining with
  | [] => (port, .ok none)
  | byte :: rest =>
      ({ port with remaining := rest, reads := port.reads + 1 }, .ok (some byte.toNat))

/-- Appends a byte to the output; other values are refused. -/
def write (port : BufferPort) (value : Int) : BufferPort × Except PortError Unit :=
  if 0 ≤ value ∧ value ≤ 255 then
    ({ port with output := port.output.push (UInt8.ofNat value.toNat) }, .ok ())
  else (port, .error (.failure .bufferRange))

instance : Port BufferPort := ⟨read, write⟩

theorem read_nil {port : BufferPort} (h : port.remaining = []) : port.read = (port, .ok none) := by
  unfold read
  simp [h]

theorem read_cons {port : BufferPort} {byte : UInt8} {rest : List UInt8}
    (h : port.remaining = byte :: rest) :
    port.read =
      ({ port with remaining := rest, reads := port.reads + 1 }, .ok (some byte.toNat)) := by
  unfold read
  simp [h]

theorem write_byte (port : BufferPort) (byte : UInt8) :
    port.write byte.toNat = ({ port with output := port.output.push byte }, .ok ()) := by
  have h : (byte.toNat : Int) ≤ 255 := by
    have := byte.toNat_lt
    omega
  unfold write
  simp [h]

end BufferPort

end TapeMachine
