/-
  Code pages.

  A code page is an encoding with one byte for each character.  Most of them have ASCII
  in the first half.
-/
import TapeMachine.Encoding.DecodeError

set_option autoImplicit false

namespace TapeMachine.Encoding

/-- The characters of ASCII. -/
def asciiHalf : String :=
  String.ofList ((List.range 128).map Char.ofNat)

/-- A code page: its name, other names of it, and the characters of the bytes below 0x80
and from there on.  The replacement character stands for a byte without one. -/
structure CodePage where
  name : String
  aliases : List String
  lowerHalf : String := asciiHalf
  upperHalf : String
  deriving DecidableEq, Repr

namespace CodePage

/-! ## Decoding -/

/-- The character that stands for a byte without one. -/
def missing : Char := '\ufffd'

/-- The characters of all bytes. -/
def chars (page : CodePage) : Array Char :=
  (page.lowerHalf ++ page.upperHalf).toList.toArray

/-- The character of a byte, given the characters of all bytes. -/
def char? (chars : Array Char) (byte : UInt8) : Option Char :=
  chars[byte.toNat]?.filter (· ≠ missing)

/-- Decodes bytes from a position on, given the characters of all bytes. -/
def decodeFrom (chars : Array Char) (done : List Char) (position : Nat) :
    List UInt8 → Except DecodeError (List Char)
  | [] => .ok done.reverse
  | byte :: rest =>
      match char? chars byte with
      | some c => decodeFrom chars (c :: done) (position + 1) rest
      | none => .error ⟨"charmap", byte, position, position + 1, .undefinedByte⟩

/-- The text of the bytes. -/
def decode (page : CodePage) (bytes : List UInt8) : Except DecodeError (List Char) :=
  decodeFrom page.chars [] 0 bytes

/-! ## Parts of tables -/

/-- The control characters from 0x80 on, which many code pages keep. -/
def controls : String :=
  String.ofList ((List.range 32).map fun i => Char.ofNat (0x80 + i))

end CodePage

end TapeMachine.Encoding
