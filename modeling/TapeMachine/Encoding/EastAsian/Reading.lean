/-
  Reading bytes character by character.

  A reader looks at the beginning of the bytes and tells what stands there.
-/
import TapeMachine.Encoding.DecodeError

set_option autoImplicit false

namespace TapeMachine.Encoding.EastAsian

/-- What stands at the beginning of bytes. -/
inductive Reading (σ : Type) where
  /-- Some bytes stand for a text and leave the reader in a state. -/
  | text (text : List Char) (length : Nat) (state : σ)
  /-- Some bytes stand for nothing. -/
  | illegal (length : Nat)
  /-- The bytes end too early. -/
  | incomplete
  deriving DecidableEq, Repr

/-- A reader: told its state, the first byte and the bytes behind it. -/
abbrev Reader (σ : Type) := σ → UInt8 → List UInt8 → Reading σ

namespace Reading

/-- A byte that stands for a character. -/
def single (c : Char) : Reading Unit := .text [c] 1 ()

/-- A byte that stands for the character of its number. -/
def ascii (byte : UInt8) : Reading Unit := single (Char.ofNat byte.toNat)

/-- Some bytes that stand for a text, if there is one. -/
def several (length : Nat) : Option (List Char) → Reading Unit
  | some chars => .text chars length ()
  | none => .illegal 1

/-- A byte together with the next one. -/
def pair (rest : List UInt8) (read : UInt8 → Reading Unit) : Reading Unit :=
  match rest with
  | second :: _ => read second
  | [] => .incomplete

end Reading

namespace Reader

/-- Decodes bytes from a position on, in a state. -/
def decodeFrom {σ : Type} (read : Reader σ) (codec : String) :
    (fuel : Nat) → (done : List Char) → (position : Nat) → σ → List UInt8 →
      Except DecodeError (List Char)
  | 0, done, _, _, _ => .ok done.reverse
  | _ + 1, done, _, _, [] => .ok done.reverse
  | fuel + 1, done, position, state, byte :: rest =>
      match read state byte rest with
      | .text text length state =>
          decodeFrom read codec fuel (text.reverse ++ done) (position + length) state
            ((byte :: rest).drop length)
      | .illegal length =>
          .error ⟨codec, byte, position, position + length, .illegalSequence⟩
      | .incomplete =>
          .error ⟨codec, byte, position, position + rest.length + 1, .incompleteSequence⟩

/-- The text of bytes for a reader that starts in a state. -/
def decode {σ : Type} (read : Reader σ) (codec : String) (start : σ) (bytes : List UInt8) :
    Except DecodeError (List Char) :=
  decodeFrom read codec (bytes.length + 1) [] 0 start bytes

end Reader

end TapeMachine.Encoding.EastAsian
