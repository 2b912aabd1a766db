/-
  Failures to read a YAML document.

  A document is malformed, or a value in it has an explicit tag that does not suit
  it.  Some unsuitable values are told apart from malformed documents.
-/
import TapeMachine.Calendar
import TapeMachine.Encoding.DecodeError
import TapeMachine.Text.Integer

set_option autoImplicit false

namespace TapeMachine.Yaml

/-- Why a text is not read as a document. -/
inductive Error where
  /-- The document is malformed. -/
  | malformed
  /-- The bytes that follow are no text. -/
  | undecodable (error : Encoding.DecodeError)
  /-- An escape names a code point that does not exist. -/
  | characterCode (code : Nat)
  /-- A number has no characters. -/
  | emptyNumber
  /-- A text is not an integer. -/
  | integer (error : Text.Integer.Error)
  /-- A text is not a binary number. -/
  | real (text : Text.Codes)
  /-- A place of a number to base sixty is greater than all binary numbers. -/
  | realPlace
  /-- A text is not a truth value. -/
  | boolean (text : Text.Codes)
  /-- A text is neither a date nor a moment. -/
  | timestamp
  /-- A mapping stands for a date or a moment. -/
  | timestampMapping
  /-- A date or a moment does not exist. -/
  | calendar (error : Calendar.Error)
  /-- A mapping stands for its own default value. -/
  | endlessDefault
  deriving DecidableEq, Repr

/-- The greatest number that a code point can be looked up by. -/
def greatestCode : Nat := 0x7FFFFFFF

/-- The wording of a failed reading.  A malformed document has no wording of its
own. -/
def Error.message : Error → String
  | .malformed => ""
  | .undecodable error => error.message
  | .characterCode code =>
      if code ≤ greatestCode then "chr() arg not in range(0x110000)"
      else "Python int too large to convert to C int"
  | .emptyNumber => "string index out of range"
  | .integer error => error.message
  | .real text => "could not convert string to float: " ++ Text.quotedCodes text
  | .realPlace => "int too large to convert to float"
  | .boolean text => Text.quotedCodes text
  | .timestamp => "'NoneType' object has no attribute 'groupdict'"
  | .timestampMapping => "expected string or bytes-like object, got 'list'"
  | .calendar error => error.message
  | .endlessDefault => "maximum recursion depth exceeded"

end TapeMachine.Yaml
