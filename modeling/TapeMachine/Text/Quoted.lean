/-
  Quoted text.

  Messages show a text between quotes.  The single quote is used unless the text
  holds a single quote and no double quote.  The quote itself and the backslash
  are escaped, so are tab, line feed and carriage return, and a character that is
  not printable is written by its code point.
-/
import TapeMachine.Text.CodePoint
import TapeMachine.Text.Hex
import TapeMachine.Text.Printable

set_option autoImplicit false

namespace TapeMachine.Text

/-! ## The quote -/

/-- The quote chosen for a text. -/
def quoteFor (text : List Char) : Char :=
  if text.contains '\x27' && !text.contains '\x22' then '\x22' else '\x27'

/-! ## Escaping -/

/-- A code point as an escape of two, four or eight hexadecimal digits. -/
def escapeCode (code : Nat) : List Char :=
  if code ≤ 0xFF then '\\' :: 'x' :: hexPadded 2 code
  else if code ≤ 0xFFFF then '\\' :: 'u' :: hexPadded 4 code
  else '\\' :: 'U' :: hexPadded 8 code

/-- One character between the given quotes. -/
def escapeChar (quote c : Char) : List Char :=
  if c = quote ∨ c = '\\' then ['\\', c]
  else if c = '\t' then ['\\', 't']
  else if c = '\n' then ['\\', 'n']
  else if c = '\r' then ['\\', 'r']
  else if isPrintable c then [c]
  else escapeCode c.toNat

/-- A text between quotes. -/
def quotedChars (text : List Char) : List Char :=
  let quote := quoteFor text
  quote :: (text.flatMap (escapeChar quote) ++ [quote])

/-- A text between quotes. -/
def quoted (text : String) : String :=
  String.ofList (quotedChars text.toList)

/-! ## Code points -/

/-- One code point between the given quotes: a half of a pair is never printable. -/
def escapeCodePoint (quote : Char) : CodePoint → List Char
  | .char c => escapeChar quote c
  | .half code _ => escapeCode code

/-- A text of code points between quotes. -/
def quotedCodes (text : Codes) : String :=
  let quote := quoteFor (text.map CodePoint.standIn)
  String.ofList (quote :: (text.flatMap (escapeCodePoint quote) ++ [quote]))

/-- One code point as it is written where halves of pairs have no bytes. -/
def writtenCodePoint : CodePoint → List Char
  | .char c => [c]
  | .half code _ => escapeCode code

/-- A text as it is written to standard error: halves of pairs stand as escapes. -/
def Codes.written (text : Codes) : String := String.ofList (text.flatMap writtenCodePoint)

/-! ## Bytes -/

/-- One byte between the given quotes: outside the printable ASCII range bytes are
written by their value. -/
def escapeByte (quote : Char) (byte : UInt8) : List Char :=
  let c := Char.ofNat byte.toNat
  if byte.toNat < 0x7F then escapeChar quote c else escapeCode byte.toNat

/-- A list of bytes between quotes, marked by a leading `b`. -/
def quotedBytes (bytes : List UInt8) : String :=
  let quote := quoteFor (bytes.map fun byte => Char.ofNat byte.toNat)
  String.ofList ('b' :: quote :: (bytes.flatMap (escapeByte quote) ++ [quote]))

end TapeMachine.Text
