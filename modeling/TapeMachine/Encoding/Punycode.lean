/-
  Punycode.

  The ASCII characters of a text stand in front of the last hyphen.  Behind it each other
  character is written as the distance to it, over all places of the text and all code
  points in order, as a number of variable length whose digits have thresholds that adapt
  to the distances so far.  A text may hold halves of pairs here.
-/
import TapeMachine.Encoding.SingleByte

set_option autoImplicit false

namespace TapeMachine.Encoding.Punycode

open Text (CodePoint Codes)

/-- Why bytes are not a text in Punycode. -/
inductive Error where
  /-- The bytes are not ASCII. -/
  | notAscii (error : DecodeError)
  /-- A number does not end. -/
  | incomplete
  /-- The character is no digit. -/
  | invalidDigit (c : Char)
  /-- A distance leads beyond all code points. -/
  | invalidCode (code : Nat)
  deriving DecidableEq, Repr

/-- A number in hexadecimal digits, without leading zeros. -/
def hexText (value : Nat) : String := String.ofList (Nat.toDigits 16 value)

/-- The wording of a failed decoding. -/
def Error.message : Error → String
  | .notAscii error => error.message
  | .incomplete => "incomplete punicode string"
  | .invalidDigit c => s!"Invalid extended code point '{c.toString}'"
  | .invalidCode code => "Invalid character U+" ++ hexText code

/-! ## Numbers -/

/-- The threshold of a digit. -/
def threshold (place bias : Nat) : Nat :=
  max 1 (min 26 (36 * (place + 1) - bias))

/-- The value of a digit in upper case. -/
def digit? (c : Char) : Option Nat :=
  if 'A' ≤ c ∧ c ≤ 'Z' then some (c.toNat - 65)
  else if '0' ≤ c ∧ c ≤ '9' then some (c.toNat - 22)
  else none

/-- Reads a number: its value and what follows. -/
def number (bias : Nat) : (place weight value : Nat) → List Char → Except Error (Nat × List Char)
  | _, _, _, [] => .error .incomplete
  | place, weight, value, c :: rest =>
      match digit? c with
      | none => .error (.invalidDigit c)
      | some digit =>
          let limit := threshold place bias
          let value := value + digit * weight
          if digit < limit then .ok (value, rest)
          else number bias (place + 1) (weight * (36 - limit)) value rest

/-- Divides by 35 until at most 455 is left, and counts 36 for each division. -/
def divide : (fuel : Nat) → (delta divisions : Nat) → Nat × Nat
  | 0, delta, divisions => (delta, divisions)
  | fuel + 1, delta, divisions =>
      if 455 < delta then divide fuel (delta / 35) (divisions + 36) else (delta, divisions)

/-- The bias after a distance, in a text of some characters. -/
def adapt (delta : Nat) (first : Bool) (length : Nat) : Nat :=
  let delta := if first then delta / 700 else delta / 2
  let (delta, divisions) := divide delta (delta + delta / length) 0
  divisions + 36 * delta / (delta + 38)

/-! ## Decoding -/

/-- Puts characters into a text.  `place` is the place of the next character when its
distance is zero, and `code` the code point that it then has. -/
def insertFrom : (fuel : Nat) → (text : Codes) → (code place bias : Nat) → (first : Bool) →
    List Char → Except Error Codes
  | 0, text, _, _, _, _, _ => .ok text
  | _ + 1, text, _, _, _, _, [] => .ok text
  | fuel + 1, text, code, place, bias, first, digits => do
      let (delta, rest) ← number bias 0 1 0 digits
      let length := text.length + 1
      let code := code + (place + delta) / length
      if 0x10FFFF < code then throw (.invalidCode code)
      let place := (place + delta) % length
      insertFrom fuel (text.take place ++ .ofNat code :: text.drop place) code (place + 1)
        (adapt delta first length) false rest

/-- The text of ASCII bytes. -/
def ascii (bytes : List UInt8) : Except Error (List Char) :=
  match SingleByte.decodeAscii bytes with
  | .ok text => .ok text
  | .error e => .error (.notAscii e)

/-- The bytes in front of the last hyphen and those behind it. -/
def splitLast (bytes : List UInt8) : List UInt8 × List UInt8 :=
  let behind := (bytes.reverse.takeWhile (· ≠ 0x2D)).reverse
  if behind.length = bytes.length then ([], bytes)
  else (bytes.take (bytes.length - behind.length - 1), behind)

/-- The text of bytes in Punycode. -/
def decode (bytes : List UInt8) : Except Error Codes := do
  let (base, extended) := splitLast bytes
  let text ← ascii base
  let digits := (← ascii extended).map Char.toUpper
  insertFrom (digits.length + 1) (text.map .char) 0x80 0 72 true digits

/-! ## Encoding -/

/-- The digit of a value. -/
def digit (value : Nat) : UInt8 := UInt8.ofNat (if value < 26 then 97 + value else 22 + value)

/-- The digits of a number. -/
def digits (bias : Nat) : (fuel place value : Nat) → List UInt8
  | 0, _, _ => []
  | fuel + 1, place, value =>
      let limit := threshold place bias
      if value < limit then [digit value]
      else
        digit (limit + (value - limit) % (36 - limit)) ::
          digits bias fuel (place + 1) ((value - limit) / (36 - limit))

/-- How far a text is written: the distance since the last character, and how many characters
are written, the ASCII characters included. -/
structure Writing where
  done : List UInt8
  delta : Nat
  bias : Nat
  length : Nat
  first : Bool
  deriving DecidableEq, Repr

/-- Passes one character of the text while those of a code point are written. -/
def Writing.pass (code : Nat) (w : Writing) (c : Char) : Writing :=
  if c.toNat < code then { w with delta := w.delta + 1 }
  else if c.toNat = code then
    { done := w.done ++ digits w.bias (w.delta + 1) 0 w.delta
      delta := 0
      bias := adapt w.delta w.first (w.length + 1)
      length := w.length + 1
      first := false }
  else w

/-- Writes the characters of some code points, from one code point on. -/
def writeFrom (text : List Char) : (codes : List Nat) → (code : Nat) → Writing → List UInt8
  | [], _, w => w.done
  | next :: rest, code, w =>
      let skipped := { w with delta := w.delta + (next - code) * (w.length + 1) }
      let passed := text.foldl (Writing.pass next) skipped
      writeFrom text rest (next + 1) { passed with delta := passed.delta + 1 }

/-- The bytes of a text in Punycode. -/
def encode (text : List Char) : List UInt8 :=
  let base := (text.filter fun c => c.toNat < 128).map fun c => UInt8.ofNat c.toNat
  let codes := ((text.map Char.toNat).filter (128 ≤ ·)).eraseDups.mergeSort
  let start := if base.isEmpty then [] else base ++ [0x2D]
  start ++ writeFrom text codes 0x80 ⟨[], 0, 72, base.length, true⟩

end TapeMachine.Encoding.Punycode
