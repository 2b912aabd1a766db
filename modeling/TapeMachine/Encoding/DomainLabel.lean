/-
  Internationalized domain names.

  A name consists of labels with dots between them.  A label is ASCII; one that starts
  with a certain prefix is in Punycode, and it must be the one label that stands for its
  text.
-/
import TapeMachine.Encoding.CharacterData
import TapeMachine.Encoding.Punycode

set_option autoImplicit false

namespace TapeMachine.Encoding.DomainLabel

open Text (CodePoint Codes)

/-- Why bytes are not a domain name. -/
inductive Error where
  /-- A label is not in Punycode, or is not ASCII. -/
  | punycode (error : Punycode.Error)
  /-- The text of a label has no form in which labels are compared. -/
  | unprepared (reason : String)
  /-- The text of a label starts with the prefix itself. -/
  | prefixed
  /-- The label of a text is empty or too long. -/
  | length
  /-- Another label stands for the text of a label. -/
  | changed (label other : List UInt8)
  deriving DecidableEq, Repr

/-- The wording of a failed decoding. -/
def Error.message : Error → String
  | .punycode error => s!"decoding with 'punycode' codec failed (UnicodeError: {error.message})"
  | .unprepared reason => reason
  | .prefixed => "Label starts with ACE prefix"
  | .length => "label empty or too long"
  | .changed label other =>
      s!"('IDNA does not round-trip', {Text.quotedBytes label}, {Text.quotedBytes other})"

/-! ## Labels of texts -/

/-- The prefix of labels in Punycode. -/
def codePrefix : List UInt8 := "xn--".toUTF8.toList

/-- The bytes of ASCII characters. -/
def asciiBytes? (text : Codes) : Option (List UInt8) :=
  if text.all CharacterData.isAscii then
    some (text.map fun code => UInt8.ofNat code.standIn.toNat)
  else none

/-- A label that is neither empty nor too long. -/
def sized (label : List UInt8) : Except Error (List UInt8) :=
  if 0 < label.length ∧ label.length < 64 then .ok label else .error .length

/-- The label of a text that is prepared. -/
def ofPrepared (text : List Char) : Except Error (List UInt8) :=
  match asciiBytes? (text.map .char) with
  | some label => sized label
  | none =>
      if "xn--".toList.isPrefixOf text then .error .prefixed
      else sized (codePrefix ++ Punycode.encode text)

/-- The label of a text.  An ASCII text is not prepared. -/
def ofText (data : CharacterData) (text : Codes) : Except Error (List UInt8) :=
  match asciiBytes? text with
  | some label => sized label
  | none => (data.prepared text).mapError .unprepared >>= ofPrepared

/-! ## Decoding -/

/-- The byte of the dot. -/
def dot : UInt8 := 0x2E

/-- An ASCII byte in lower case. -/
def lower (byte : UInt8) : UInt8 := if 0x41 ≤ byte ∧ byte ≤ 0x5A then byte + 0x20 else byte

/-- The text of a label. -/
def label (data : CharacterData) (bytes : List UInt8) : Except Error (List Char) :=
  if codePrefix.isPrefixOf bytes then do
    let text ← (Punycode.decode (bytes.drop codePrefix.length)).mapError .punycode
    let other ← ofText data text
    if bytes.map lower = other then return text.map CodePoint.standIn
    else throw (.changed bytes other)
  else (Punycode.ascii bytes).mapError .punycode

/-- The text of a domain name, label by label. -/
def labels (data : CharacterData) (bytes : List UInt8) : Except Error (List Char) :=
  (['.'].intercalate) <$> (bytes.splitOn dot).mapM (label data)

/-- The text of a domain name that must be ASCII as a whole. -/
def decodeWhole (data : CharacterData) (bytes : List UInt8) : Except Error (List Char) := do
  let _ ← (Punycode.ascii bytes).mapError Error.punycode
  labels data bytes

/-- Whether the prefix stands anywhere. -/
def holdsPrefix : List UInt8 → Bool
  | [] => false
  | byte :: rest => codePrefix.isPrefixOf (byte :: rest) || holdsPrefix rest

/-- The text of a domain name.  Labels are looked at one by one only when one of them may
be in Punycode or is not ASCII. -/
def decode (data : CharacterData) (bytes : List UInt8) : Except Error (List Char) :=
  match Punycode.ascii bytes with
  | .ok text => if holdsPrefix bytes then labels data bytes else .ok text
  | .error _ => labels data bytes

end TapeMachine.Encoding.DomainLabel
