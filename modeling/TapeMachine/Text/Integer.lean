/-
  Integers written as text.

  An integer may stand between blanks and carry one sign.  Its digits are decimal
  digits of any script, or Latin letters for the digits from ten on; single
  underscores may separate digits.  In base two, eight or sixteen the digits may
  follow a base mark such as `0x`.
-/
import TapeMachine.Text.Blank
import TapeMachine.Text.DecimalDigit
import TapeMachine.Text.Quoted

set_option autoImplicit false

namespace TapeMachine.Text.Integer

/-! ## Errors -/

/-- Why a text is not read as an integer. -/
inductive Error where
  /-- The text is not an integer of the base. -/
  | invalid (base : Nat) (text : Codes)
  /-- The text has more digits than a decimal integer may have. -/
  | tooLong (digits : Nat)
  deriving DecidableEq, Repr

/-- The greatest number of digits of an integer whose base is not a power of two. -/
def digitLimit : Nat := 4300

/-- The greatest number of characters of a quoted text that a failed reading shows. -/
def shownLimit : Nat := 200

/-- The wording of a failed reading. -/
def Error.message : Error → String
  | .invalid base text =>
      s!"invalid literal for int() with base {base}: " ++
        String.ofList ((Text.quotedCodes text).toList.take shownLimit)
  | .tooLong digits =>
      s!"Exceeds the limit ({digitLimit} digits) for integer string conversion: value has " ++
        s!"{digits} digits; use sys.set_int_max_str_digits() to increase the limit"

/-! ## Digits -/

/-- Blanks around an integer: white space without the four ASCII separators. -/
def isMargin (c : Char) : Bool :=
  isBlank c && !(0x1C ≤ c.toNat && c.toNat ≤ 0x1F)

/-- The value of a digit or of a letter used as one. -/
def anyDigit? (c : Char) : Option Nat :=
  match digitValue? c with
  | some value => some value
  | none =>
      if 'a' ≤ c ∧ c ≤ 'z' then some (c.toNat - 87)
      else if 'A' ≤ c ∧ c ≤ 'Z' then some (c.toNat - 55)
      else none

/-- The value of a digit of the base. -/
def digit? (base : Nat) (c : Char) : Option Nat :=
  (anyDigit? c).filter (· < base)

/-- Reads digits with single underscores between them, after the given value.
`afterDigit` tells whether an underscore or the end may follow. -/
def digitsFrom (base : Nat) : (value : Nat) → (afterDigit : Bool) → List Char → Option Nat
  | value, afterDigit, [] => if afterDigit then some value else none
  | value, afterDigit, c :: rest =>
      if c = '_' then
        if afterDigit then digitsFrom base value false rest else none
      else
        match digit? base c with
        | some d => digitsFrom base (value * base + d) true rest
        | none => none

/-- The letter that marks a base after a leading zero. -/
def baseMark? : Nat → Option Char
  | 2 => some 'b'
  | 8 => some 'o'
  | 16 => some 'x'
  | _ => none

/-- The digits after an optional base mark; one underscore may follow the mark. -/
def unmarked (base : Nat) (text : List Char) : List Char :=
  match baseMark? base, text with
  | some mark, z :: m :: rest =>
      if digitValue? z = some 0 ∧ (m = mark ∨ m.toNat + 32 = mark.toNat) then
        match rest with
        | '_' :: digits => digits
        | digits => digits
      else text
  | _, _ => text

/-! ## Reading -/

/-- Splits a sign off. -/
def signed (text : List Char) : Bool × List Char :=
  match text with
  | '-' :: rest => (true, rest)
  | '+' :: rest => (false, rest)
  | rest => (false, rest)

/-- A number with its sign. -/
def withSign (negative : Bool) (value : Nat) : Int :=
  if negative then -(value : Int) else value

/-- The integer of the base that a text writes. -/
def parse (base : Nat) (text : Codes) : Except Error Int :=
  let (negative, digits) := signed (trim isMargin (text.map CodePoint.standIn))
  match digitsFrom base 0 false (unmarked base digits) with
  | none => .error (.invalid base text)
  | some value =>
      let count := (digits.filter (· ≠ '_')).length
      if base = 10 ∧ digitLimit < count then .error (.tooLong count)
      else .ok (withSign negative value)

/-- The decimal integer that a text writes. -/
def parseDecimal (text : String) : Except Error Int := parse 10 (.ofString text)

end TapeMachine.Text.Integer
