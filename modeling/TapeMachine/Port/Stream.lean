/-
  A port over streams.

  The input and the output are streams that may be missing and may be closed.
  Without an input stream every read is at the end of the input.  A closed stream
  and a missing output stream are failures.
-/
import TapeMachine.Port

set_option autoImplicit false

namespace TapeMachine

/-- A stream: open with its contents, or closed. -/
inductive Stream (α : Type) where
  /-- The stream is open. -/
  | opened (contents : α)
  /-- The stream is closed. -/
  | closed
  deriving DecidableEq, Repr, Inhabited

/-- A port over an input stream and an output stream. -/
structure StreamPort where
  input : Option (Stream (List UInt8))
  output : Option (Stream (Array UInt8))
  deriving DecidableEq, Repr, Inhabited

namespace StreamPort

/-- The port over open streams; without input bytes there is no input stream. -/
def ofInput (input : Option (List UInt8)) : StreamPort :=
  ⟨input.map .opened, some (.opened #[])⟩

/-- The bytes written, while the output stream is open. -/
def written? (port : StreamPort) : Option (Array UInt8) :=
  match port.output with
  | some (.opened bytes) => some bytes
  | _ => none

/-- The port with its input stream closed. -/
def closeInput (port : StreamPort) : StreamPort :=
  { port with input := port.input.map fun _ => .closed }

/-- The port with its output stream closed. -/
def closeOutput (port : StreamPort) : StreamPort :=
  { port with output := port.output.map fun _ => .closed }

/-- The next byte of the input stream. -/
def read (port : StreamPort) : StreamPort × Except PortError (Option Int) :=
  match port.input with
  | none => (port, .ok none)
  | some .closed => (port, .error (.failure .closed))
  | some (.opened []) => (port, .ok none)
  | some (.opened (byte :: rest)) =>
      ({ port with input := some (.opened rest) }, .ok (some byte.toNat))

/-- Appends a byte to the output stream.  A value that is no byte is refused before
the stream is looked at, unless there is none. -/
def write (port : StreamPort) (value : Int) : StreamPort × Except PortError Unit :=
  match port.output with
  | none => (port, .error (.failure .noOutput))
  | some stream =>
      if 0 ≤ value ∧ value ≤ 255 then
        match stream with
        | .closed => (port, .error (.failure .closed))
        | .opened bytes =>
            ({ port with output := some (.opened (bytes.push (UInt8.ofNat value.toNat))) }, .ok ())
      else (port, .error (.failure .streamRange))

instance : Port StreamPort := ⟨read, write⟩

end StreamPort

end TapeMachine
