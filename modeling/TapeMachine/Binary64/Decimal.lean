/-
  Decimal text of binary numbers.

  Reading rounds the decimal once.  Writing takes the fewest digits that read back
  as the same number, of these the ones nearest to it, and shows them positionally
  from 0.0001 up to below 10^16 and with an exponent elsewhere.
-/
import TapeMachine.Binary64
import TapeMachine.Text.Blank
import TapeMachine.Text.DecimalDigit

set_option autoImplicit false

namespace TapeMachine.Binary64

/-! ## Reading -/

/-- The number nearest to `digits * 10 ^ exponent`.  Decimals beyond the range of
the format are settled by their size alone. -/
def ofDecimal (negative : Bool) (digits : Nat) (exponent : Int) : Binary64 :=
  if digits = 0 then zero negative
  else
    let size : Int := (Nat.log2 digits : Int) * 3 / 10 + exponent
    if 400 < size then .infinite negative
    else if size < -500 then
      let length : Int := ((Nat.toDigits 10 digits).length : Int)
      if length + exponent ≤ -324 then zero negative
      else ofRatio negative digits (Nat.pow 10 (-exponent).toNat)
    else if 0 ≤ exponent then ofRatio negative (digits * Nat.pow 10 exponent.toNat) 1
    else ofRatio negative digits (Nat.pow 10 (-exponent).toNat)

/-- Splits the longest run of decimal digits, with single underscores between
them, off a text; gives the value and the number of its digits. -/
def digitRun : (value count : Nat) → List Char → Nat × Nat × List Char
  | value, count, '_' :: c :: rest =>
      match Text.digitValue? c with
      | some d =>
          if count = 0 then (value, count, '_' :: c :: rest)
          else digitRun (value * 10 + d) (count + 1) rest
      | none => (value, count, '_' :: c :: rest)
  | value, count, c :: rest =>
      match Text.digitValue? c with
      | some d => digitRun (value * 10 + d) (count + 1) rest
      | none => (value, count, c :: rest)
  | value, count, [] => (value, count, [])

/-- The exponent at the end of a decimal: `e`, a sign or none, and digits. -/
def exponentOf? (text : List Char) : Option Int :=
  match text with
  | [] => some 0
  | mark :: rest =>
      if mark = 'e' ∨ mark = 'E' then
        let (negative, digits) :=
          match rest with
          | '-' :: digits => (true, digits)
          | '+' :: digits => (false, digits)
          | digits => (false, digits)
        match digitRun 0 0 digits with
        | (value, count, []) =>
            if count = 0 then none else some (if negative then -(value : Int) else value)
        | _ => none
      else none

/-- The decimal that a text without sign writes. -/
def unsignedOf? (negative : Bool) (text : List Char) : Option Binary64 :=
  let lower := text.map fun c => if 'A' ≤ c ∧ c ≤ 'Z' then Char.ofNat (c.toNat + 32) else c
  if lower = "inf".toList ∨ lower = "infinity".toList then some (.infinite negative)
  else if lower = "nan".toList then some .nan
  else
    let (whole, wholeCount, rest) := digitRun 0 0 text
    let (value, fractionCount, rest) :=
      match rest with
      | '.' :: tail =>
          let (fraction, count, rest) := digitRun 0 0 tail
          (whole * Nat.pow 10 count + fraction, count, rest)
      | rest => (whole, 0, rest)
    if wholeCount + fractionCount = 0 then none
    else (exponentOf? rest).map fun exponent => ofDecimal negative value (exponent - fractionCount)

/-- The number that a text writes: a decimal, an infinity or not-a-number, with a
sign or none, between blanks. -/
def ofText? (text : String) : Option Binary64 :=
  let isMargin := fun c => Text.isBlank c && !(0x1C ≤ c.toNat && c.toNat ≤ 0x1F)
  match Text.trim isMargin text.toList with
  | '-' :: rest => unsignedOf? true rest
  | '+' :: rest => unsignedOf? false rest
  | rest => unsignedOf? false rest

/-! ## Shortest decimals -/

/-- The fraction of a positive finite number. -/
def ratio (mantissa : Nat) (exponent : Int) : Nat × Nat :=
  if 0 ≤ exponent then (mantissa * Nat.pow 2 exponent.toNat, 1)
  else (mantissa, Nat.pow 2 (-exponent).toNat)

/-- Whether `num / den` is at least `10 ^ power`. -/
def reachesPower (num den : Nat) (power : Int) : Bool :=
  if 0 ≤ power then den * Nat.pow 10 power.toNat ≤ num
  else den ≤ num * Nat.pow 10 (-power).toNat

/-- The place of the leading digit: the power with
`10 ^ (power - 1) ≤ num / den < 10 ^ power`, searched upward from a lower bound. -/
def leadingPlace (num den : Nat) : (fuel : Nat) → Int → Int
  | 0, power => power
  | fuel + 1, power =>
      if reachesPower num den power then leadingPlace num den fuel (power + 1) else power

/-- The multiple of `10 ^ place` next to `num / den` from below, and what is left
of it, as a fraction of that unit. -/
def onGrid (num den : Nat) (place : Int) : Nat × Nat × Nat :=
  let (n, d) :=
    if 0 ≤ place then (num, den * Nat.pow 10 place.toNat)
    else (num * Nat.pow 10 (-place).toNat, den)
  (n / d, n % d, d)

/-- The nearer of the two neighbours on the grid of `10 ^ place` that read back as
the number. -/
def neighbour? (number : Binary64) (num den : Nat) (place : Int) : Option Nat :=
  let (below, rest, unit) := onGrid num den place
  let lowFits := ofDecimal false below place == number
  let highFits := ofDecimal false (below + 1) place == number
  if lowFits && highFits then
    some (if 2 * rest < unit then below
      else if unit < 2 * rest then below + 1
      else below + below % 2)
  else if lowFits then some below
  else if highFits then some (below + 1)
  else none

/-- The first grid, from the coarsest on, with a neighbour that reads back. -/
def firstGrid (number : Binary64) (num den : Nat) : (fuel : Nat) → Int → Nat × Int
  | 0, place => ((onGrid num den place).1, place)
  | fuel + 1, place =>
      match neighbour? number num den place with
      | some digits => (digits, place)
      | none => firstGrid number num den fuel (place - 1)

/-- The shortest decimal of a positive finite number: its digits and the place of
the last one. -/
def shortest (mantissa : Nat) (exponent : Int) : Nat × Int :=
  let (num, den) := ratio mantissa exponent
  let bound : Int := ((Nat.log2 num : Int) - (Nat.log2 den : Int)) * 3 / 10 - 3
  let lead := leadingPlace num den 1000 bound
  firstGrid (.finite false mantissa exponent) num den 20 (lead - 1)

/-! ## Writing -/

/-- Digits without the zeros at their end, with the place of the last one left. -/
def stripZeros : (fuel : Nat) → Nat → Int → Nat × Int
  | 0, digits, place => (digits, place)
  | fuel + 1, digits, place =>
      if digits % 10 = 0 ∧ digits ≠ 0 then stripZeros fuel (digits / 10) (place + 1)
      else (digits, place)

/-- Lays out digits whose last one stands at the given place. -/
def layout (digits : Nat) (place : Int) : String :=
  let text := Nat.toDigits 10 digits
  let point : Int := place + text.length
  if -4 < point ∧ point ≤ 16 then
    if point ≤ 0 then
      "0." ++ String.ofList (List.replicate (-point).toNat '0' ++ text)
    else if 0 ≤ place then
      String.ofList (text ++ List.replicate place.toNat '0') ++ ".0"
    else
      String.ofList (text.take point.toNat ++ '.' :: text.drop point.toNat)
  else
    let power := point - 1
    let sign := if power < 0 then "-" else "+"
    let size := Nat.toDigits 10 power.natAbs
    let padded := if size.length < 2 then '0' :: size else size
    let fraction :=
      match text with
      | lead :: [] => [lead]
      | lead :: rest => lead :: '.' :: rest
      | [] => []
    String.ofList fraction ++ "e" ++ sign ++ String.ofList padded

/-- A number as text. -/
def toText : Binary64 → String
  | .nan => "nan"
  | .infinite negative => if negative then "-inf" else "inf"
  | .finite negative mantissa exponent =>
      let sign := if negative then "-" else ""
      if mantissa = 0 then sign ++ "0.0"
      else
        let (digits, place) := shortest mantissa exponent
        let (digits, place) := stripZeros 20 digits place
        sign ++ layout digits place

end TapeMachine.Binary64
