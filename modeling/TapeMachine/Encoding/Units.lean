/-
  UTF-16 and UTF-32.

  Text is a sequence of code units of two or four bytes, in either byte order.  A
  byte order mark in front settles the order; without one the lesser byte comes
  first.
-/
import TapeMachine.Encoding.DecodeError

set_option autoImplicit false

namespace TapeMachine.Encoding.Units

/-! ## Byte order -/

/-- The order of the bytes of a code unit. -/
inductive ByteOrder where
  /-- The least significant byte comes first. -/
  | little
  /-- The most significant byte comes first. -/
  | big
  deriving DecidableEq, Repr

/-- The code unit of two bytes. -/
def unit16 (order : ByteOrder) (a b : UInt8) : Nat :=
  match order with
  | .little => a.toNat + b.toNat * 256
  | .big => a.toNat * 256 + b.toNat

/-- The code unit of four bytes. -/
def unit32 (order : ByteOrder) (a b c d : UInt8) : Nat :=
  match order with
  | .little => unit16 .little a b + unit16 .little c d * 65536
  | .big => unit16 .big a b * 65536 + unit16 .big c d

/-- The name under which failures of UTF-16 are reported. -/
def ByteOrder.name16 : ByteOrder → String
  | .little => "utf-16-le"
  | .big => "utf-16-be"

/-- The name under which failures of UTF-32 are reported. -/
def ByteOrder.name32 : ByteOrder → String
  | .little => "utf-32-le"
  | .big => "utf-32-be"

/-! ## Decoding -/

/-- Whether a code unit is a high surrogate. -/
def isHigh (unit : Nat) : Bool := 0xD800 ≤ unit && unit ≤ 0xDBFF

/-- Whether a code unit is a low surrogate. -/
def isLow (unit : Nat) : Bool := 0xDC00 ≤ unit && unit ≤ 0xDFFF

/-- Decodes UTF-16 from a position on. -/
def decode16From (order : ByteOrder) (done : List Char) (position : Nat) :
    List UInt8 → Except DecodeError (List Char)
  | [] => .ok done.reverse
  | [a] => .error ⟨order.name16, a, position, position + 1, .truncated⟩
  | a :: b :: rest =>
      let unit := unit16 order a b
      if isHigh unit then
        match rest with
        | c :: d :: rest =>
            let second := unit16 order c d
            if isLow second then
              let code := 0x10000 + (unit - 0xD800) * 0x400 + (second - 0xDC00)
              decode16From order (Char.ofNat code :: done) (position + 4) rest
            else .error ⟨order.name16, a, position, position + 2, .loneHighSurrogate⟩
        | [_] => .error ⟨order.name16, a, position, position + 3, .unexpectedEnd⟩
        | [] => .error ⟨order.name16, a, position, position + 2, .unexpectedEnd⟩
      else if isLow unit then
        .error ⟨order.name16, a, position, position + 2, .loneLowSurrogate⟩
      else decode16From order (Char.ofNat unit :: done) (position + 2) rest

/-- Decodes UTF-32 from a position on. -/
def decode32From (order : ByteOrder) (done : List Char) (position : Nat) :
    List UInt8 → Except DecodeError (List Char)
  | [] => .ok done.reverse
  | a :: b :: c :: d :: rest =>
      let unit := unit32 order a b c d
      if 0x110000 ≤ unit then
        .error ⟨order.name32, a, position, position + 4, .beyondUnicode⟩
      else if isHigh unit || isLow unit then
        .error ⟨order.name32, a, position, position + 4, .surrogateUnit⟩
      else decode32From order (Char.ofNat unit :: done) (position + 4) rest
  | a :: rest => .error ⟨order.name32, a, position, position + 1 + rest.length, .truncated⟩

/-! ## Byte order marks -/

/-- The byte order that a mark of UTF-16 settles. -/
def mark16? : List UInt8 → Option ByteOrder
  | 0xFF :: 0xFE :: _ => some .little
  | 0xFE :: 0xFF :: _ => some .big
  | _ => none

/-- The byte order that a mark of UTF-32 settles. -/
def mark32? : List UInt8 → Option ByteOrder
  | 0xFF :: 0xFE :: 0 :: 0 :: _ => some .little
  | 0 :: 0 :: 0xFE :: 0xFF :: _ => some .big
  | _ => none

/-- The text of UTF-16 bytes behind an optional byte order mark. -/
def decode16Marked (bytes : List UInt8) : Except DecodeError (List Char) :=
  match mark16? bytes with
  | some order => decode16From order [] 2 (bytes.drop 2)
  | none => decode16From .little [] 0 bytes

/-- The text of UTF-32 bytes behind an optional byte order mark. -/
def decode32Marked (bytes : List UInt8) : Except DecodeError (List Char) :=
  match mark32? bytes with
  | some order => decode32From order [] 4 (bytes.drop 4)
  | none => decode32From .little [] 0 bytes

end TapeMachine.Encoding.Units
