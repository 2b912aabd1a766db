/-
  Base 64.

  Four characters carry three bytes.  Characters outside the alphabet are skipped, and
  equals signs fill up the last group.
-/
set_option autoImplicit false

namespace TapeMachine.Yaml.Base64

/-- The six bits that a character carries. -/
def sextet? (c : Char) : Option Nat :=
  if 'A' ≤ c ∧ c ≤ 'Z' then some (c.toNat - 65)
  else if 'a' ≤ c ∧ c ≤ 'z' then some (c.toNat - 71)
  else if '0' ≤ c ∧ c ≤ '9' then some (c.toNat + 4)
  else if c = '+' then some 62
  else if c = '/' then some 63
  else none

/-- Decodes from a place inside a group on: `place` characters of the group have been
read, `left` holds the bits of the last one that have not been used, and `pads` counts
the equals signs behind it.  `done` holds the bytes read so far, the last one first. -/
def decodeFrom (place left pads : Nat) (done : List UInt8) : List Char → Option (List UInt8)
  | [] => if place = 0 then some done.reverse else none
  | c :: rest =>
      if c = '=' then
        if 2 ≤ place then
          if 4 ≤ place + pads + 1 then some done.reverse
          else decodeFrom place left (pads + 1) done rest
        else decodeFrom place left pads done rest
      else
        match sextet? c with
        | none => decodeFrom place left pads done rest
        | some bits =>
            match place with
            | 0 => decodeFrom 1 bits 0 done rest
            | 1 => decodeFrom 2 (bits % 16) 0 (UInt8.ofNat (left * 4 + bits / 16) :: done) rest
            | 2 => decodeFrom 3 (bits % 4) 0 (UInt8.ofNat (left * 16 + bits / 4) :: done) rest
            | _ => decodeFrom 0 0 0 (UInt8.ofNat (left * 64 + bits) :: done) rest

/-- The bytes of a text in base 64; none when the last group is incomplete. -/
def decode (text : List Char) : Option (List UInt8) :=
  decodeFrom 0 0 0 [] text

end TapeMachine.Yaml.Base64
