/-
  What scalars of YAML mean.

  A scalar is turned into a value as its tag says.  Its text must be written as the tag
  asks for; a line feed at its end does no harm.
-/
import TapeMachine.Text.LowerCase
import TapeMachine.Value
import TapeMachine.Yaml.Base64
import TapeMachine.Yaml.Error
import TapeMachine.Yaml.Plain

set_option autoImplicit false

namespace TapeMachine.Yaml.Scalar

open Text (CodePoint Codes)

/-! ## Integers -/

/-- The code points of a short text. -/
def codes (text : String) : Codes := .ofString text

/-- The parts of a text between colons. -/
def parts (text : Codes) : List Codes :=
  Plain.splitColons (· = .char ':') text

/-- Whether a number is negative, and its text without underscores and sign. -/
def signedDigits (text : Codes) : Except Error (Bool × Codes) :=
  match text.filter (· ≠ .char '_') with
  | [] => .error .emptyNumber
  | .char '-' :: rest => .ok (true, rest)
  | .char '+' :: rest => .ok (false, rest)
  | rest => .ok (false, rest)

/-- The integer of a base that a text writes. -/
def integerOf (base : Nat) (digits : Codes) : Except Error Int :=
  match Text.Integer.parse base digits with
  | .ok value => .ok value
  | .error e => .error (.integer e)

/-- The value of parts to base sixty, the greatest first. -/
def sexagesimal (parts : List Int) : Int :=
  parts.foldl (fun value part => value * 60 + part) 0

/-- An integer: binary, hexadecimal, octal with a leading zero, to base sixty with
colons, or decimal. -/
def integer (text : Codes) : Except Error Int := do
  let (negative, digits) ← signedDigits text
  let magnitude ←
    match digits with
    | [] => throw .emptyNumber
    | [.char '0'] => pure 0
    | .char '0' :: .char 'b' :: rest => integerOf 2 rest
    | .char '0' :: .char 'x' :: rest => integerOf 16 rest
    | .char '0' :: _ => integerOf 8 digits
    | _ =>
        if digits.contains (.char ':') then
          (sexagesimal <$> (parts digits).mapM (integerOf 10))
        else integerOf 10 digits
  return if negative then -magnitude else magnitude

/-! ## Binary numbers -/

/-- The binary number that a text writes. -/
def realOf (digits : Codes) : Except Error Binary64 :=
  match Binary64.ofText? (String.ofList (digits.map CodePoint.standIn)) with
  | some value => .ok value
  | none => .error (.real digits)

/-- The binary number nearest to an integer, unless that is too great. -/
def realPlace (value : Int) : Except Error Binary64 :=
  match Binary64.ofInt value with
  | .infinite _ => .error .realPlace
  | place => .ok place

/-- The sum of parts to base sixty, the least first, each multiplied and added with
rounding. -/
def sexagesimalReal : (base : Int) → (total : Binary64) → List Binary64 → Except Error Binary64
  | _, total, [] => .ok total
  | base, total, part :: rest => do
      let place ← realPlace base
      sexagesimalReal (base * 60) (total.add (part.mul place)) rest

/-- What a binary number is written as. -/
inductive Real where
  /-- A number, or what a computation with no result comes to. -/
  | computed (value : Binary64)
  /-- The word for what is no number. -/
  | named
  deriving DecidableEq, Repr

/-- A binary number: an infinity, not-a-number, to base sixty with colons, or
decimal. -/
def real (text : Codes) : Except Error Real := do
  let (negative, digits) ← signedDigits (Text.lower (text.filter (· ≠ .char '_')))
  if digits = codes ".inf" then return .computed (.infinite negative)
  if digits = codes ".nan" then return .named
  let magnitude ←
    if digits.contains (.char ':') then do
      let parts ← (parts digits).mapM realOf
      sexagesimalReal 1 (.zero false) parts.reverse
    else realOf digits
  return .computed (if negative then magnitude.negate else magnitude)

/-! ## Other values -/

/-- A truth value. -/
def boolean (text : Codes) : Except Error Bool :=
  let word := Text.lower text
  let isOneOf := fun words : List String => words.any fun other => codes other == word
  if isOneOf ["yes", "true", "on"] then .ok true
  else if isOneOf ["no", "false", "off"] then .ok false
  else .error (.boolean word)

/-- A date or a moment. -/
def timestamp (text : Codes) : Except Error Value :=
  match Plain.stamp? (Text.withoutLineFeed (text.map CodePoint.standIn)) with
  | none => .error .timestamp
  | some stamp =>
      match stamp.time with
      | none =>
          match Calendar.date stamp.year stamp.month stamp.day with
          | .ok date => .ok (.date date)
          | .error e => .error (.calendar e)
      | some (hour, minute, second, microsecond) =>
          match Calendar.moment stamp.year stamp.month stamp.day hour minute second microsecond
              stamp.offset with
          | .ok moment => .ok (.moment moment)
          | .error e => .error (.calendar e)

/-- Bytes in base 64, written in ASCII. -/
def binary (text : Codes) : Except Error Value :=
  let chars := text.map CodePoint.standIn
  if chars.all fun c => c.toNat < 128 then
    match Base64.decode chars with
    | some bytes => .ok (.bytes bytes)
    | none => .error .malformed
  else .error .malformed

end TapeMachine.Yaml.Scalar
