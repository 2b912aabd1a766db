/-
  Tables of characters.

  Two encodings depend on more than the codes of characters: text with escapes gives a
  character by its name, and a label of a domain name is compared in a form that depends on
  the case, the parts and the direction of its characters.  What is known of that belongs to
  the host.
-/
import TapeMachine.Text.Quoted

set_option autoImplicit false

namespace TapeMachine.Encoding

/-- What is known of characters beyond their codes. -/
structure CharacterData where
  /-- The character of a name. -/
  named? : String → Option Char
  /-- A label in the form in which labels are compared, or what keeps it from having one. -/
  prepared : Text.Codes → Except String (List Char)

namespace CharacterData

/-! ## ASCII -/

/-- The names of the ASCII characters that are neither letters nor digits. -/
def markNames : List (Char × String) :=
  [
    (' ', "SPACE"), ('!', "EXCLAMATION MARK"), ('\x22', "QUOTATION MARK"), ('#', "NUMBER SIGN"),
    ('$', "DOLLAR SIGN"), ('%', "PERCENT SIGN"), ('&', "AMPERSAND"), ('\x27', "APOSTROPHE"),
    ('(', "LEFT PARENTHESIS"), (')', "RIGHT PARENTHESIS"), ('*', "ASTERISK"),
    ('+', "PLUS SIGN"), (',', "COMMA"), ('-', "HYPHEN-MINUS"), ('.', "FULL STOP"),
    ('\x2f', "SOLIDUS"), (':', "COLON"), (';', "SEMICOLON"), ('<', "LESS-THAN SIGN"),
    ('=', "EQUALS SIGN"), ('>', "GREATER-THAN SIGN"), ('?', "QUESTION MARK"),
    ('@', "COMMERCIAL AT"), ('[', "LEFT SQUARE BRACKET"), ('\x5c', "REVERSE SOLIDUS"),
    (']', "RIGHT SQUARE BRACKET"), ('^', "CIRCUMFLEX ACCENT"), ('_', "LOW LINE"),
    ('\x60', "GRAVE ACCENT"), ('\x7b', "LEFT CURLY BRACKET"), ('|', "VERTICAL LINE"),
    ('\x7d', "RIGHT CURLY BRACKET"), ('~', "TILDE")]

/-- The names of the digits. -/
def digitNames : List String :=
  ["ZERO", "ONE", "TWO", "THREE", "FOUR", "FIVE", "SIX", "SEVEN", "EIGHT", "NINE"]

/-- The letter behind a part of a name. -/
def letterBehind? (start name : String) (first : Char) : Option Char :=
  match (name.toList.drop start.length) with
  | [c] =>
      if start.toList.isPrefixOf name.toList ∧ 'A' ≤ c ∧ c ≤ 'Z' then
        some (Char.ofNat (c.toNat - 65 + first.toNat))
      else none
  | _ => none

/-- The ASCII character of a name in upper case. -/
def asciiNamed? (name : String) : Option Char :=
  match markNames.find? fun entry => entry.2 == name with
  | some entry => some entry.1
  | none =>
      match digitNames.findIdx? fun digit => "DIGIT " ++ digit == name with
      | some digit => some (Char.ofNat (48 + digit))
      | none =>
          match letterBehind? "LATIN SMALL LETTER " name 'a' with
          | some c => some c
          | none => letterBehind? "LATIN CAPITAL LETTER " name 'A'

/-- Whether a code point is an ASCII character. -/
def isAscii : Text.CodePoint → Bool
  | .char c => c.toNat < 128
  | .half .. => false

/-- What is known where ASCII alone is: the case of a name does not matter, and a label has
no other characters. -/
def ascii : CharacterData where
  named? name := asciiNamed? (name.map Char.toUpper)
  prepared label :=
    match label.find? fun code => !isAscii code with
    | some code => .error ("Invalid character " ++ Text.quotedCodes [code])
    | none => .ok (label.map fun code => code.standIn.toLower)

end CharacterData

end TapeMachine.Encoding
