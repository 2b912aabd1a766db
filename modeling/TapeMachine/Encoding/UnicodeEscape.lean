/-
  Text with escapes.

  Every byte is the Latin-1 character of its number, but for escapes behind a backslash.
  One notation has escapes by letter, by number and by name; a simpler one has only
  escapes by code point of four and of eight hexadecimal digits.
-/
import TapeMachine.Encoding.CharacterData
import TapeMachine.Encoding.DecodeError

set_option autoImplicit false

namespace TapeMachine.Encoding.UnicodeEscape

open Text (CodePoint)

/-! ## Parts of escapes -/

/-- The Latin-1 character of a byte. -/
def latin (byte : UInt8) : Char := Char.ofNat byte.toNat

/-- Reads a number of hexadecimal digits behind a value: the value with them, and what
follows.  A failure tells how many there are. -/
def hexDigits : (count value found : Nat) → List UInt8 → Except Nat (Nat × List UInt8)
  | 0, value, _, rest => .ok (value, rest)
  | _ + 1, _, found, [] => .error found
  | count + 1, value, found, byte :: rest =>
      match Text.hexValue? (latin byte) with
      | some digit => hexDigits count (value * 16 + digit) (found + 1) rest
      | none => .error found

/-- Reads up to some octal digits behind a value: the value with them, and what
follows. -/
def octalDigits : (count value : Nat) → List UInt8 → Nat × List UInt8
  | 0, value, rest => (value, rest)
  | _ + 1, value, [] => (value, [])
  | count + 1, value, byte :: rest =>
      if '0' ≤ latin byte ∧ latin byte ≤ '7' then
        octalDigits count (value * 8 + (byte.toNat - 48)) rest
      else (value, byte :: rest)

/-- The character that a letter stands for behind a backslash. -/
def letter? (c : Char) : Option Char :=
  [('\\', '\\'), ('\x27', '\x27'), ('\x22', '\x22'), ('b', '\x08'), ('f', '\x0c'), ('t', '\t'),
   ('n', '\n'), ('r', '\r'), ('v', '\x0b'), ('a', '\x07')].lookup c

/-- The number of hexadecimal digits that a letter asks for. -/
def width? (c : Char) : Option Nat :=
  [('x', 2), ('u', 4), ('U', 8)].lookup c

/-! ## Decoding -/

/-- The failure of an escape that begins at a position. -/
def failure (codec : String) (position length : Nat) (reason : DecodeReason) : DecodeError :=
  ⟨codec, 0x5C, position, position + length, reason⟩

/-- Reads an escape by code point, behind its letter. -/
def byCode (codec : String) (position width : Nat) (beyond : DecodeReason) (rest : List UInt8) :
    Except DecodeError (Char × List UInt8) :=
  match hexDigits width 0 0 rest with
  | .error found => .error (failure codec position (2 + found) (.shortEscape width))
  | .ok (code, rest) =>
      if 0x10FFFF < code then .error (failure codec position (2 + width) beyond)
      else .ok ((CodePoint.ofNat code).standIn, rest)

/-- Reads an escape by name, behind its letter. -/
def byName (data : CharacterData) (codec : String) (position : Nat) (rest : List UInt8) :
    Except DecodeError (Char × List UInt8) :=
  match rest with
  | 0x7B :: inside =>
      let name := inside.takeWhile (· ≠ 0x7D)
      match inside.dropWhile (· ≠ 0x7D) with
      | [] => .error (failure codec position (3 + name.length) .malformedName)
      | _ :: rest =>
          if name.isEmpty then .error (failure codec position 3 .malformedName)
          else
            match data.named? (String.ofList (name.map latin)) with
            | some c => .ok (c, rest)
            | none => .error (failure codec position (4 + name.length) .unknownName)
  | _ => .error (failure codec position 2 .malformedName)

/-- The name under which failures of escapes are reported. -/
def codecName : String := "unicodeescape"

/-- Reads an escape behind its backslash: the characters that it stands for, and what
follows.  A backslash in front of anything else stands for itself. -/
def escape (data : CharacterData) (position : Nat) (rest : List UInt8) :
    Except DecodeError (List Char × List UInt8) :=
  match rest with
  | [] => .error (failure codecName position 1 .loneBackslash)
  | byte :: behind =>
      let c := latin byte
      if c = '\n' then .ok ([], behind)
      else
        match letter? c, width? c with
        | some replacement, _ => .ok ([replacement], behind)
        | none, some width =>
            (byCode codecName position width .escapeBeyondUnicode behind).map fun (c, rest) =>
              ([c], rest)
        | none, none =>
            if c = 'N' then
              (byName data codecName position behind).map fun (c, rest) => ([c], rest)
            else if '0' ≤ c ∧ c ≤ '7' then
              let (code, rest) := octalDigits 3 0 rest
              .ok ([Char.ofNat code], rest)
            else .ok (['\\', c], behind)

/-- Decodes text with escapes from a position on. -/
def decodeFrom (data : CharacterData) : (fuel : Nat) → (done : List Char) → (position : Nat) →
    List UInt8 → Except DecodeError (List Char)
  | 0, done, _, _ => .ok done.reverse
  | _ + 1, done, _, [] => .ok done.reverse
  | fuel + 1, done, position, byte :: rest =>
      if byte = 0x5C then
        match escape data position rest with
        | .error e => .error e
        | .ok (text, behind) =>
            decodeFrom data fuel (text.reverse ++ done)
              (position + 1 + (rest.length - behind.length)) behind
      else decodeFrom data fuel (latin byte :: done) (position + 1) rest

/-- The text of bytes with escapes. -/
def decode (data : CharacterData) (bytes : List UInt8) : Except DecodeError (List Char) :=
  decodeFrom data (bytes.length + 1) [] 0 bytes

/-! ## The simpler notation -/

/-- The name under which failures of the simpler notation are reported. -/
def rawCodecName : String := "rawunicodeescape"

/-- Decodes text with escapes of the simpler notation from a position on.  The character
behind a backslash begins no escape of its own. -/
def decodeRawFrom : (fuel : Nat) → (done : List Char) → (position : Nat) → List UInt8 →
    Except DecodeError (List Char)
  | 0, done, _, _ => .ok done.reverse
  | _ + 1, done, _, [] => .ok done.reverse
  | fuel + 1, done, position, byte :: rest =>
      match byte, rest with
      | 0x5C, mark :: behind =>
          if mark = 0x75 ∨ mark = 0x55 then
            let width := if mark = 0x75 then 4 else 8
            match byCode rawCodecName position width .rawBeyondUnicode behind with
            | .error e => .error e
            | .ok (c, rest) => decodeRawFrom fuel (c :: done) (position + 2 + width) rest
          else decodeRawFrom fuel (latin mark :: '\\' :: done) (position + 2) behind
      | byte, rest => decodeRawFrom fuel (latin byte :: done) (position + 1) rest

/-- The text of bytes with escapes of the simpler notation. -/
def decodeRaw (bytes : List UInt8) : Except DecodeError (List Char) :=
  decodeRawFrom (bytes.length + 1) [] 0 bytes

end TapeMachine.Encoding.UnicodeEscape
