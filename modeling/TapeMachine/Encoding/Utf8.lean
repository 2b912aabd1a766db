/-
  UTF-8.

  A character is one lead byte and up to three continuation bytes.  The second byte
  has a narrower range after four of the lead bytes, so that every character has one
  spelling and surrogates have none.  A failure spans the longest part that could
  have started a character.

  Where bytes need not be a text, a byte that belongs to no character stands for a half
  of a pair.  Main statements: bytes that are a text stand for the characters of it; and a
  text can be written when it is made of characters, or else the first halves in it are
  named.
-/
import TapeMachine.Encoding.DecodeError

set_option autoImplicit false

namespace TapeMachine.Encoding.Utf8

open Text (CodePoint Codes)

/-! ## Lead bytes -/

/-- What a lead byte of several announces: the number of continuation bytes, the
range of the first of them, and the bits that the lead byte itself gives. -/
structure Lead where
  missing : Nat
  low : Nat
  high : Nat
  bits : Nat
  deriving DecidableEq, Repr

/-- The meaning of a lead byte from 0x80 on. -/
def lead? (byte : Nat) : Option Lead :=
  if 0xC2 ≤ byte ∧ byte ≤ 0xDF then some ⟨1, 0x80, 0xBF, byte - 0xC0⟩
  else if byte = 0xE0 then some ⟨2, 0xA0, 0xBF, 0⟩
  else if byte = 0xED then some ⟨2, 0x80, 0x9F, 0xD⟩
  else if 0xE1 ≤ byte ∧ byte ≤ 0xEF then some ⟨2, 0x80, 0xBF, byte - 0xE0⟩
  else if byte = 0xF0 then some ⟨3, 0x90, 0xBF, 0⟩
  else if 0xF1 ≤ byte ∧ byte ≤ 0xF3 then some ⟨3, 0x80, 0xBF, byte - 0xF0⟩
  else if byte = 0xF4 then some ⟨3, 0x80, 0x8F, 4⟩
  else none

/-! ## Decoding -/

/-- A character that has begun: where, with which byte, and what is still owed. -/
structure Pending where
  start : Nat
  byte : UInt8
  lead : Lead
  deriving DecidableEq, Repr

/-- The failure that spans a pending character up to a position. -/
def Pending.error (p : Pending) (stop : Nat) (reason : DecodeReason) : DecodeError :=
  ⟨"utf-8", p.byte, p.start, stop, reason⟩

/-- What a byte between characters does: it is a character, it begins one, or it
is refused. -/
inductive Opening where
  /-- A whole character. -/
  | whole (c : Char)
  /-- The beginning of a character. -/
  | begins (lead : Lead)
  /-- No character starts so. -/
  | refused
  deriving DecidableEq, Repr

/-- Reads a byte between characters. -/
def openWith (byte : UInt8) : Opening :=
  if byte.toNat < 0x80 then .whole (Char.ofNat byte.toNat)
  else
    match lead? byte.toNat with
    | some lead => .begins lead
    | none => .refused

/-- Reads a byte behind a lead byte: it completes the character, the character needs
more, or the byte is refused. -/
def Lead.continueWith (lead : Lead) (byte : UInt8) : Opening :=
  if lead.low ≤ byte.toNat ∧ byte.toNat ≤ lead.high then
    let bits := lead.bits * 64 + (byte.toNat - 0x80)
    if lead.missing ≤ 1 then .whole (Char.ofNat bits)
    else .begins ⟨lead.missing - 1, 0x80, 0xBF, bits⟩
  else .refused

/-- Decodes the bytes from a position on.  `done` holds the characters read so far,
the last one first. -/
def decodeFrom (done : List Char) (position : Nat) (pending : Option Pending) :
    List UInt8 → Except DecodeError (List Char)
  | [] =>
      match pending with
      | none => .ok done.reverse
      | some p => .error (p.error position .unexpectedEnd)
  | byte :: rest =>
      match pending with
      | none =>
          match openWith byte with
          | .whole c => decodeFrom (c :: done) (position + 1) none rest
          | .begins lead => decodeFrom done (position + 1) (some ⟨position, byte, lead⟩) rest
          | .refused => .error ⟨"utf-8", byte, position, position + 1, .invalidStart⟩
      | some p =>
          match p.lead.continueWith byte with
          | .whole c => decodeFrom (c :: done) (position + 1) none rest
          | .begins lead => decodeFrom done (position + 1) (some { p with lead }) rest
          | .refused => .error (p.error position .invalidContinuation)

/-- The text of UTF-8 bytes. -/
def decode (bytes : List UInt8) : Except DecodeError (List Char) :=
  decodeFrom [] 0 none bytes

/-- The byte order mark. -/
def mark : List UInt8 := [0xEF, 0xBB, 0xBF]

/-- The text of UTF-8 bytes behind an optional byte order mark. -/
def decodeMarked (bytes : List UInt8) : Except DecodeError (List Char) :=
  if mark.isPrefixOf bytes then decode (bytes.drop 3) else decode bytes

/-! ## Bytes that need not be a text -/

/-- The half of a pair that stands for a byte from 0x80 on. -/
def escapedByte (byte : UInt8) : CodePoint := .ofNat (0xDC00 + byte.toNat)

/-- A character that has begun, with its bytes, the last one first. -/
structure Begun where
  bytes : List UInt8
  lead : Lead
  deriving DecidableEq, Repr

/-- The code points of the bytes of a character that is given up. -/
def Begun.escaped (begun : Begun) : Codes := begun.bytes.reverse.map escapedByte

/-- Reads a byte between characters: the code points that it gives, and the character
that it begins. -/
def openEscaped (byte : UInt8) : Codes × Option Begun :=
  match openWith byte with
  | .whole c => ([.char c], none)
  | .begins lead => ([], some ⟨[byte], lead⟩)
  | .refused => ([escapedByte byte], none)

/-- Reads a byte behind a character that has begun.  When the byte does not continue it,
the character is given up. -/
def Begun.continueEscaped (begun : Begun) (byte : UInt8) : Codes × Option Begun :=
  match begun.lead.continueWith byte with
  | .whole c => ([.char c], none)
  | .begins lead => ([], some ⟨byte :: begun.bytes, lead⟩)
  | .refused =>
      let (codes, next) := openEscaped byte
      (begun.escaped ++ codes, next)

/-- The code points of bytes behind a character that may have begun. -/
def decodeEscapedFrom (begun : Option Begun) : List UInt8 → Codes
  | [] => (begun.map Begun.escaped).getD []
  | byte :: rest =>
      let (codes, next) :=
        match begun with
        | none => openEscaped byte
        | some begun => begun.continueEscaped byte
      codes ++ decodeEscapedFrom next rest

/-- The code points of bytes. -/
def decodeEscaped (bytes : List UInt8) : Codes := decodeEscapedFrom none bytes

theorem decodeEscapedFrom_of_decodeFrom {done : List Char} {position : Nat}
    {pending : Option Pending} {begun : Option Begun} {bytes : List UInt8} {text : List Char}
    (hlead : begun.map Begun.lead = pending.map Pending.lead)
    (h : decodeFrom done position pending bytes = .ok text) :
    done.reverse.map .char ++ decodeEscapedFrom begun bytes = text.map .char := by
  have hnone : (none : Option Begun).map Begun.lead = (none : Option Pending).map Pending.lead :=
    rfl
  induction bytes generalizing done position pending begun with
  | nil =>
      cases pending with
      | some p => cases h
      | none =>
          obtain rfl : done.reverse = text := Except.ok.inj h
          rw [Option.map_none, Option.map_eq_none_iff] at hlead
          simp [decodeEscapedFrom, hlead]
  | cons byte rest ih =>
      cases pending with
      | none =>
          rw [Option.map_none, Option.map_eq_none_iff] at hlead
          subst hlead
          simp only [decodeFrom] at h
          simp only [decodeEscapedFrom, openEscaped]
          cases hopen : openWith byte with
          | whole c =>
              rw [hopen] at h
              simpa using ih hnone h
          | begins lead =>
              rw [hopen] at h
              exact ih rfl h
          | refused =>
              rw [hopen] at h
              cases h
      | some p =>
          obtain ⟨b, rfl, hb⟩ := Option.map_eq_some_iff.1 hlead
          simp only [decodeFrom] at h
          simp only [decodeEscapedFrom, Begun.continueEscaped, hb]
          cases hcontinue : p.lead.continueWith byte with
          | whole c =>
              rw [hcontinue] at h
              simpa using ih hnone h
          | begins lead =>
              rw [hcontinue] at h
              exact ih rfl h
          | refused =>
              rw [hcontinue] at h
              cases h

/-- Bytes that are a text stand for its characters. -/
theorem decodeEscaped_of_decode {bytes : List UInt8} {text : List Char}
    (h : decode bytes = .ok text) : decodeEscaped bytes = text.map .char :=
  decodeEscapedFrom_of_decodeFrom rfl h

/-- A lead byte alone is no character. -/
example : decodeEscaped [0x6C, 0xC3, 0xA9, 0xC3] =
    [.char 'l', .char '\u00e9', .half 0xDCC3 rfl] := rfl

/-! ## Writing -/

/-- The UTF-8 bytes of a text. -/
def encode (text : List Char) : List UInt8 := text.flatMap String.utf8EncodeChar

/-- The number of leading halves of pairs. -/
def halvesRun : Codes → Nat
  | .half .. :: rest => halvesRun rest + 1
  | _ => 0

/-- The byte that a half of a pair stands for. -/
def unescapedByte? (code : Nat) : Option UInt8 :=
  if 0xDC80 ≤ code ∧ code ≤ 0xDCFF then some (UInt8.ofNat (code - 0xDC00)) else none

/-- The bytes of a text from a position on.  Halves of pairs stand for bytes, and those that
stand for none cannot be written. -/
def encodeEscapedFrom (done : List UInt8) (position : Nat) :
    Codes → Except EncodeError (List UInt8)
  | [] => .ok done
  | .char c :: rest => encodeEscapedFrom (done ++ String.utf8EncodeChar c) (position + 1) rest
  | .half code _ :: rest =>
      match unescapedByte? code with
      | some byte => encodeEscapedFrom (done ++ [byte]) (position + 1) rest
      | none => .error ⟨"utf-8", code, position, position + 1 + halvesRun rest, .halves⟩

/-- The bytes of a text in which halves of pairs may stand for bytes. -/
def encodeEscaped (codes : Codes) : Except EncodeError (List UInt8) :=
  encodeEscapedFrom [] 0 codes

/-- The characters of a text from a position on: halves of pairs cannot be written. -/
def writableFrom (done : List Char) (position : Nat) : Codes → Except EncodeError (List Char)
  | [] => .ok done.reverse
  | .char c :: rest => writableFrom (c :: done) (position + 1) rest
  | .half code _ :: rest =>
      .error ⟨"utf-8", code, position, position + 1 + halvesRun rest, .halves⟩

/-- The characters of a text that can be written. -/
def writable (codes : Codes) : Except EncodeError (List Char) :=
  writableFrom [] 0 codes

theorem writableFrom_map_append (done text : List Char) (position : Nat) (behind : Codes) :
    writableFrom done position (text.map .char ++ behind) =
      writableFrom (text.reverse ++ done) (position + text.length) behind := by
  induction text generalizing done position with
  | nil => rfl
  | cons c rest ih => simp [writableFrom, ih, Nat.add_assoc, Nat.add_comm 1]

/-- A text of characters can be written. -/
theorem writable_map_char (text : List Char) : writable (text.map .char) = .ok text := by
  have h := writableFrom_map_append [] text 0 []
  rw [List.append_nil] at h
  unfold writable
  rw [h]
  simp [writableFrom]

/-- Of any other text the first halves of pairs are named. -/
theorem writable_append_half (before : List Char) (code : Nat)
    (hcode : CodePoint.isHalf code = true) (rest : Codes) :
    writable (before.map .char ++ .half code hcode :: rest) =
      .error ⟨"utf-8", code, before.length, before.length + 1 + halvesRun rest, .halves⟩ := by
  unfold writable
  rw [writableFrom_map_append, Nat.zero_add]
  rfl

end TapeMachine.Encoding.Utf8
