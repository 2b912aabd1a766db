/-
  Numbers of the binary format with 53 significant bits.

  A finite number is a sign, a mantissa below 2^53 and a power of two.  All
  arithmetic is done on exact fractions and rounded once, to the nearest number of
  the format, a tie going to the even mantissa.
-/
set_option autoImplicit false

namespace TapeMachine

/-- A number of the format. -/
inductive Binary64 where
  /-- Not a number. -/
  | nan
  /-- An infinity. -/
  | infinite (negative : Bool)
  /-- The number `mantissa * 2 ^ exponent` with a sign. -/
  | finite (negative : Bool) (mantissa : Nat) (exponent : Int)
  deriving DecidableEq, Repr, Inhabited

namespace Binary64

/-! ## The format -/

/-- The number of significant bits. -/
def precision : Nat := 53

/-- The least exponent of a finite number. -/
def minExponent : Int := -1074

/-- The greatest exponent of a finite number. -/
def maxExponent : Int := 971

/-- Zero, with a sign. -/
def zero (negative : Bool) : Binary64 := .finite negative 0 minExponent

/-! ## Rounding -/

/-- The quotient rounded to the nearest integer, a tie to the even one. -/
def roundQuotient (num den : Nat) : Nat :=
  let quotient := num / den
  let rest := num % den
  if 2 * rest < den then quotient
  else if den < 2 * rest then quotient + 1
  else quotient + quotient % 2

/-- The fraction `num / den` divided by `2 ^ exponent`, as a fraction again. -/
def scaled (num den : Nat) (exponent : Int) : Nat × Nat :=
  if 0 ≤ exponent then (num, den * Nat.pow 2 exponent.toNat)
  else (num * Nat.pow 2 (-exponent).toNat, den)

/-- The exponent at which a positive fraction has a mantissa of full precision, or
the least exponent when that one is larger. -/
def exponentFor (num den : Nat) : Int :=
  let guess : Int := (Nat.log2 num : Int) - (Nat.log2 den : Int) - (precision - 1 : Nat)
  let (n, d) := scaled num den guess
  let exact := if n < d * Nat.pow 2 (precision - 1) then guess - 1 else guess
  max exact minExponent

/-- The number of the format nearest to `num / den`. -/
def ofRatio (negative : Bool) (num den : Nat) : Binary64 :=
  if num = 0 then zero negative
  else
    let exponent := exponentFor num den
    let (n, d) := scaled num den exponent
    let mantissa := roundQuotient n d
    let (mantissa, exponent) :=
      if mantissa = Nat.pow 2 precision then (Nat.pow 2 (precision - 1), exponent + 1)
      else (mantissa, exponent)
    if maxExponent < exponent then .infinite negative
    else .finite negative mantissa exponent

/-- A dyadic fraction `mantissa * 2 ^ exponent`, rounded. -/
def ofDyadic (negative : Bool) (mantissa : Nat) (exponent : Int) : Binary64 :=
  if 0 ≤ exponent then ofRatio negative (mantissa * Nat.pow 2 exponent.toNat) 1
  else ofRatio negative mantissa (Nat.pow 2 (-exponent).toNat)

/-- The number nearest to an integer. -/
def ofInt (value : Int) : Binary64 :=
  ofRatio (decide (value < 0)) value.natAbs 1

/-! ## Arithmetic -/

/-- The number with its sign turned. -/
def negate : Binary64 → Binary64
  | .nan => .nan
  | .infinite negative => .infinite (!negative)
  | .finite negative mantissa exponent => .finite (!negative) mantissa exponent

/-- A mantissa with its sign. -/
def signedMantissa (negative : Bool) (mantissa : Nat) : Int :=
  if negative then -(mantissa : Int) else mantissa

/-- The sum, rounded.  A sum that is exactly zero is negative only when both
summands are. -/
def add : Binary64 → Binary64 → Binary64
  | .nan, _ => .nan
  | _, .nan => .nan
  | .infinite s, .infinite t => if s = t then .infinite s else .nan
  | .infinite s, .finite .. => .infinite s
  | .finite .., .infinite t => .infinite t
  | .finite s m e, .finite t n f =>
      let low := min e f
      let total := signedMantissa s (m * Nat.pow 2 (e - low).toNat) +
        signedMantissa t (n * Nat.pow 2 (f - low).toNat)
      if total = 0 then zero (s && t)
      else ofDyadic (decide (total < 0)) total.natAbs low

/-- The product, rounded. -/
def mul : Binary64 → Binary64 → Binary64
  | .nan, _ => .nan
  | _, .nan => .nan
  | .infinite s, .infinite t => .infinite (s != t)
  | .infinite s, .finite t n _ => if n = 0 then .nan else .infinite (s != t)
  | .finite s m _, .infinite t => if m = 0 then .nan else .infinite (s != t)
  | .finite s m e, .finite t n f =>
      if m * n = 0 then zero (s != t) else ofDyadic (s != t) (m * n) (e + f)

/-! ## Conversion to integers -/

/-- The integer part of a finite number: its fraction is dropped. -/
def truncate (negative : Bool) (mantissa : Nat) (exponent : Int) : Int :=
  let magnitude :=
    if 0 ≤ exponent then mantissa * Nat.pow 2 exponent.toNat
    else mantissa / Nat.pow 2 (-exponent).toNat
  signedMantissa negative magnitude

/-- Why a number has no integer part. -/
inductive IntegerError where
  /-- The number is infinite. -/
  | infinite
  /-- It is not a number. -/
  | notNumber
  deriving DecidableEq, Repr

/-- The integer part of a number: its fraction is dropped. -/
def integerPart : Binary64 → Except IntegerError Int
  | .nan => .error .notNumber
  | .infinite _ => .error .infinite
  | .finite negative mantissa exponent => .ok (truncate negative mantissa exponent)

/-- Whether a number equals an integer. -/
def equalsInt (x : Binary64) (value : Int) : Bool :=
  match x with
  | .finite negative mantissa exponent =>
      truncate negative mantissa exponent == value &&
        (0 ≤ exponent || mantissa % Nat.pow 2 (-exponent).toNat == 0)
  | _ => false

/-- Whether two numbers are numerically equal: a zero of either sign is one number,
and what is not a number equals nothing. -/
def equals : Binary64 → Binary64 → Bool
  | .nan, _ => false
  | _, .nan => false
  | .finite s m e, .finite t n f => (m == 0 && n == 0) || (s == t && m == n && e == f)
  | x, y => x == y

end Binary64

end TapeMachine
