/-
  Failures to turn bytes into text and text into bytes.
-/
import TapeMachine.Text.Hex
import TapeMachine.Text.Quoted

set_option autoImplicit false

namespace TapeMachine.Encoding

/-! ## Decoding -/

/-- Why bytes are not the text of an encoding. -/
inductive DecodeReason where
  /-- No character starts with the byte. -/
  | invalidStart
  /-- A byte that should continue a character does not. -/
  | invalidContinuation
  /-- The bytes end inside a character. -/
  | unexpectedEnd
  /-- The bytes end inside a code unit. -/
  | truncated
  /-- A low surrogate stands without a high one before it. -/
  | loneLowSurrogate
  /-- A high surrogate stands without a low one behind it. -/
  | loneHighSurrogate
  /-- The code unit is above every code point. -/
  | beyondUnicode
  /-- The code unit is a surrogate. -/
  | surrogateUnit
  /-- The byte is not an ASCII one. -/
  | notAscii
  /-- The code page gives the byte no character. -/
  | undefinedByte
  /-- A backslash ends the text. -/
  | loneBackslash
  /-- The name of a character has no braces around it, or no letters. -/
  | malformedName
  /-- No character has the name. -/
  | unknownName
  /-- An escape has fewer hexadecimal digits than it needs. -/
  | shortEscape (width : Nat)
  /-- An escape is above every code point. -/
  | escapeBeyondUnicode
  /-- An escape of the simpler kind is above every code point. -/
  | rawBeyondUnicode
  /-- A plus sign begins nothing. -/
  | illFormedShift
  /-- A shift sequence does not end. -/
  | unterminatedShift
  /-- A shift sequence ends inside a code unit. -/
  | partialShift
  /-- The bits left over at the end of a shift sequence are not zero. -/
  | shiftPadding
  /-- The byte stands for no character outside shift sequences. -/
  | specialByte
  /-- Bytes of an encoding with several bytes for a character stand for nothing. -/
  | illegalSequence
  /-- The bytes end inside a character of several bytes. -/
  | incompleteSequence
  deriving DecidableEq, Repr

/-- The wording of a reason. -/
def DecodeReason.message : DecodeReason → String
  | .invalidStart => "invalid start byte"
  | .invalidContinuation => "invalid continuation byte"
  | .unexpectedEnd => "unexpected end of data"
  | .truncated => "truncated data"
  | .loneLowSurrogate => "illegal encoding"
  | .loneHighSurrogate => "illegal UTF-16 surrogate"
  | .beyondUnicode => "code point not in range(0x110000)"
  | .surrogateUnit => "code point in surrogate code point range(0xd800, 0xe000)"
  | .notAscii => "ordinal not in range(128)"
  | .undefinedByte => "character maps to <undefined>"
  | .loneBackslash => "\\ at end of string"
  | .malformedName => "malformed \\N character escape"
  | .unknownName => "unknown Unicode character name"
  | .shortEscape width =>
      let mark := if width = 2 then 'x' else if width = 4 then 'u' else 'U'
      "truncated " ++ String.ofList ('\\' :: mark :: List.replicate width 'X') ++ " escape"
  | .escapeBeyondUnicode => "illegal Unicode character"
  | .rawBeyondUnicode => "\\Uxxxxxxxx out of range"
  | .illFormedShift => "ill-formed sequence"
  | .unterminatedShift => "unterminated shift sequence"
  | .partialShift => "partial character in shift sequence"
  | .shiftPadding => "non-zero padding bits in shift sequence"
  | .specialByte => "unexpected special character"
  | .illegalSequence => "illegal multibyte sequence"
  | .incompleteSequence => "incomplete multibyte sequence"

/-- Bytes `start` up to but not including `stop` are not the text of the encoding
called `codec`; `byte` is the first of them. -/
structure DecodeError where
  codec : String
  byte : UInt8
  start : Nat
  stop : Nat
  reason : DecodeReason
  deriving DecidableEq, Repr

/-- The wording of a failed decoding: one byte is named by its value and several
by their positions. -/
def DecodeError.message (e : DecodeError) : String :=
  if e.stop = e.start + 1 then
    let digits := String.ofList (Text.hexPadded 2 e.byte.toNat)
    s!"'{e.codec}' codec can't decode byte 0x{digits} in position {e.start}: {e.reason.message}"
  else
    let last := e.stop - 1
    s!"'{e.codec}' codec can't decode bytes in position {e.start}-{last}: {e.reason.message}"

/-! ## Encoding -/

/-- Why code points have no bytes in an encoding. -/
inductive EncodeReason where
  /-- They lie outside Latin-1. -/
  | notLatin1
  /-- They are halves of pairs. -/
  | halves
  deriving DecidableEq, Repr

/-- The wording of a reason. -/
def EncodeReason.message : EncodeReason → String
  | .notLatin1 => "ordinal not in range(256)"
  | .halves => "surrogates not allowed"

/-- The code points `start` up to but not including `stop` have no bytes in the encoding
called `codec`; `code` is the first of them. -/
structure EncodeError where
  codec : String
  code : Nat
  start : Nat
  stop : Nat
  reason : EncodeReason
  deriving DecidableEq, Repr

/-- The wording of a failed encoding: one code point is shown and several are named by
their positions. -/
def EncodeError.message (e : EncodeError) : String :=
  if e.stop = e.start + 1 then
    let shown := String.ofList (Text.escapeCode e.code)
    s!"'{e.codec}' codec can't encode character '{shown}' in position {e.start}: " ++
      e.reason.message
  else
    let last := e.stop - 1
    s!"'{e.codec}' codec can't encode characters in position {e.start}-{last}: " ++
      e.reason.message

end TapeMachine.Encoding
