/-
  Encodings with one byte for each character.

  Latin-1 gives byte n the code point n, and ASCII does so for the first half only.
-/
import TapeMachine.Encoding.DecodeError

set_option autoImplicit false

namespace TapeMachine.Encoding.SingleByte

/-! ## Latin-1 -/

/-- The text of Latin-1 bytes. -/
def decodeLatin1 (bytes : List UInt8) : List Char :=
  bytes.map fun byte => Char.ofNat byte.toNat

/-- The number of leading characters that Latin-1 lacks. -/
def outsideRun : List Char → Nat
  | [] => 0
  | c :: rest => if c.toNat < 256 then 0 else outsideRun rest + 1

/-- The Latin-1 bytes of a text from a position on. -/
def encodeLatin1From (done : List UInt8) (position : Nat) :
    List Char → Except EncodeError (List UInt8)
  | [] => .ok done.reverse
  | c :: rest =>
      if c.toNat < 256 then encodeLatin1From (UInt8.ofNat c.toNat :: done) (position + 1) rest
      else .error ⟨"latin-1", c.toNat, position, position + 1 + outsideRun rest, .notLatin1⟩

/-- The Latin-1 bytes of a text. -/
def encodeLatin1 (text : List Char) : Except EncodeError (List UInt8) :=
  encodeLatin1From [] 0 text

/-! ## ASCII -/

/-- Decodes ASCII from a position on. -/
def decodeAsciiFrom (done : List Char) (position : Nat) :
    List UInt8 → Except DecodeError (List Char)
  | [] => .ok done.reverse
  | byte :: rest =>
      if byte.toNat < 128 then
        decodeAsciiFrom (Char.ofNat byte.toNat :: done) (position + 1) rest
      else .error ⟨"ascii", byte, position, position + 1, .notAscii⟩

/-- The text of ASCII bytes. -/
def decodeAscii (bytes : List UInt8) : Except DecodeError (List Char) :=
  decodeAsciiFrom [] 0 bytes

end TapeMachine.Encoding.SingleByte
