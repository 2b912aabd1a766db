/-
  UTF-7.

  ASCII characters stand for themselves, but for the plus sign: it begins a shift
  sequence, in which the code units of UTF-16 are written in base 64.  Any character
  outside base 64 ends the sequence; a hyphen does nothing else.
-/
import TapeMachine.Encoding.DecodeError

set_option autoImplicit false

namespace TapeMachine.Encoding.Utf7

open Text (CodePoint)

/-! ## Base 64 -/

/-- The six bits of a character of base 64. -/
def sextet? (byte : UInt8) : Option Nat :=
  let c := Char.ofNat byte.toNat
  if 'A' ≤ c ∧ c ≤ 'Z' then some (byte.toNat - 65)
  else if 'a' ≤ c ∧ c ≤ 'z' then some (byte.toNat - 71)
  else if '0' ≤ c ∧ c ≤ '9' then some (byte.toNat + 4)
  else if c = '+' then some 62
  else if c = '\x2f' then some 63
  else none

/-! ## Shift sequences -/

/-- A shift sequence that has begun: where, the bits that make no code unit yet and their
number, and a high surrogate that waits for a low one. -/
structure Shift where
  start : Nat
  bits : Nat
  count : Nat
  high : Option Nat
  deriving DecidableEq, Repr

namespace Shift

/-- The characters that a code unit completes, the last one first. -/
def complete (high : Option Nat) (unit : Nat) : List Char × Option Nat :=
  let isHigh := 0xD800 ≤ unit && unit ≤ 0xDBFF
  let isLow := 0xDC00 ≤ unit && unit ≤ 0xDFFF
  let alone := fun code : Nat => (CodePoint.ofNat code).standIn
  match high with
  | some first =>
      if isLow then
        ([Char.ofNat (0x10000 + (first - 0xD800) * 0x400 + (unit - 0xDC00))], none)
      else if isHigh then ([alone first], some unit)
      else ([alone unit, alone first], none)
  | none => if isHigh then ([], some unit) else ([alone unit], none)

/-- Adds six bits: the characters that they complete, the last one first. -/
def add (s : Shift) (sextet : Nat) : List Char × Shift :=
  let bits := s.bits * 64 + sextet
  let count := s.count + 6
  if count < 16 then ([], { s with bits, count })
  else
    let left := count - 16
    let (text, high) := complete s.high (bits / Nat.pow 2 left)
    (text, { s with bits := bits % Nat.pow 2 left, count := left, high })

/-- What is wrong when the sequence is left. -/
def leaveProblem? (s : Shift) : Option DecodeReason :=
  if 6 ≤ s.count then some .partialShift
  else if s.bits ≠ 0 then some .shiftPadding
  else none

/-- Whether the text may not end inside the sequence. -/
def isOpen (s : Shift) : Bool :=
  s.high.isSome || decide (6 ≤ s.count) || decide (s.bits ≠ 0)

end Shift

/-! ## Decoding -/

/-- The failure between two positions. -/
def failure (byte : UInt8) (start stop : Nat) (reason : DecodeReason) : DecodeError :=
  ⟨"utf7", byte, start, stop, reason⟩

/-- The byte of the plus sign. -/
def plus : UInt8 := 0x2B

/-- The byte of the hyphen. -/
def hyphen : UInt8 := 0x2D

/-- Decodes bytes from a position on, inside a shift sequence or outside. -/
def decodeFrom : (fuel : Nat) → (done : List Char) → (position : Nat) → Option Shift →
    List UInt8 → Except DecodeError (List Char)
  | 0, done, _, _, _ => .ok done.reverse
  | _ + 1, done, _, none, [] => .ok done.reverse
  | _ + 1, done, position, some shift, [] =>
      if shift.isOpen then .error (failure plus shift.start position .unterminatedShift)
      else .ok done.reverse
  | fuel + 1, done, position, some shift, byte :: rest =>
      match sextet? byte with
      | some sextet =>
          let (text, shift) := shift.add sextet
          decodeFrom fuel (text ++ done) (position + 1) (some shift) rest
      | none =>
          match shift.leaveProblem? with
          | some reason => .error (failure plus shift.start (position + 1) reason)
          | none =>
              let done :=
                match shift.high with
                | some high =>
                    if byte.toNat < 128 then (CodePoint.ofNat high).standIn :: done else done
                | none => done
              if byte = hyphen then decodeFrom fuel done (position + 1) none rest
              else decodeFrom fuel done position none (byte :: rest)
  | fuel + 1, done, position, none, byte :: rest =>
      if byte = plus then
        match rest with
        | next :: behind =>
            if next = hyphen then decodeFrom fuel ('+' :: done) (position + 2) none behind
            else if (sextet? next).isNone then
              .error (failure plus position (position + 2) .illFormedShift)
            else decodeFrom fuel done (position + 1) (some ⟨position, 0, 0, none⟩) rest
        | [] => decodeFrom fuel done (position + 1) (some ⟨position, 0, 0, none⟩) rest
      else if byte.toNat < 128 then
        decodeFrom fuel (Char.ofNat byte.toNat :: done) (position + 1) none rest
      else .error (failure byte position (position + 1) .specialByte)

/-- The text of UTF-7 bytes. -/
def decode (bytes : List UInt8) : Except DecodeError (List Char) :=
  decodeFrom (2 * bytes.length + 2) [] 0 none bytes

end TapeMachine.Encoding.Utf7
