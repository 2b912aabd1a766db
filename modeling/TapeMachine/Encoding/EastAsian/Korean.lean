/-
  Korean encodings.

  The extended encoding and code page 949 put 0x80 on rows and columns of KS X 1001; the
  code page has the other syllables around it.  The combining encoding has five bits for
  each of the up to three sounds of a syllable.
-/
import TapeMachine.Encoding.EastAsian.KsX1001
import TapeMachine.Encoding.EastAsian.Reading

set_option autoImplicit false

namespace TapeMachine.Encoding.EastAsian

/-! ## Syllables -/

/-- The syllable of an initial, a medial and a final sound; the final zero stands for
none. -/
def syllable (initial medial final : Nat) : Char :=
  Char.ofNat (0xAC00 + initial * 588 + medial * 28 + final)

/-- The letters of the initial sounds. -/
def initialLetters : String := "ㄱㄲㄴㄷㄸㄹㅁㅂㅃㅅㅆㅇㅈㅉㅊㅋㅌㅍㅎ"

/-- The letters of the final sounds. -/
def finalLetters : String := "ㄱㄲㄳㄴㄵㄶㄷㄹㄺㄻㄼㄽㄾㄿㅀㅁㅂㅄㅅㅆㅇㅈㅊㅋㅌㅍㅎ"

/-- The letter of a medial sound. -/
def medialLetter (medial : Nat) : Char := Char.ofNat (0x314F + medial)

/-- The letters in the order of KS X 1001. -/
def letter? (byte : UInt8) : Option Char :=
  if 0xA1 ≤ byte ∧ byte ≤ 0xBE then ksX1001.char? 0x24 (byte.toNat - 0x80) else none

/-! ## KS X 1001 -/

/-- The place that fills up a composed syllable. -/
def filler : Char := '\u3164'

/-- The character at a place of KS X 1001, or the filler. -/
def ksX1001OrFiller? (row column : Nat) : Option Char :=
  if row = 0x24 ∧ column = 0x54 then some filler else ksX1001.char? row column

/-- A syllable that is composed of four characters: the filler, an initial letter, a
medial letter, and a final letter or the filler. -/
def composed (rest : List UInt8) : Reading Unit :=
  match rest with
  | _ :: a :: initial :: b :: medial :: c :: final :: _ =>
      let place? := fun (letters : String) (byte : UInt8) =>
        (letter? byte).bind fun c => letters.toList.idxOf? c
      let medial? := if 0xBF ≤ medial ∧ medial ≤ 0xD3 then some (medial.toNat - 0xBF) else none
      let final? := if final = 0xD4 then some 0 else (place? finalLetters final).map (· + 1)
      if a ≠ 0xA4 ∨ b ≠ 0xA4 ∨ c ≠ 0xA4 then .illegal 1
      else
        match place? initialLetters initial, medial?, final? with
        | some initial, some medial, some final =>
            .text [syllable initial medial final] 8 ()
        | _, _, _ => .illegal 1
  | _ => .incomplete

/-- Reads the extended encoding of KS X 1001. -/
def readExtendedKorean : Reader Unit := fun _ byte rest =>
  if byte < 0x80 then .ascii byte
  else .pair rest fun second =>
    if byte = 0xA4 ∧ second = 0xD4 then composed rest
    else .several 2 ((ksX1001.char? (byte.toNat - 0x80) (second.toNat - 0x80)).map ([·]))

/-! ## Code page 949 -/

/-- The syllables that KS X 1001 lacks. -/
def otherSyllables : Array Char := others 0xAC00 0xD7A3 ksX1001.chars

/-- The number of a second byte among those of the syllables outside KS X 1001. -/
def syllableColumn? (second : UInt8) : Option Nat :=
  if 0x41 ≤ second ∧ second ≤ 0x5A then some (second.toNat - 0x41)
  else if 0x61 ≤ second ∧ second ≤ 0x7A then some (second.toNat - 0x61 + 26)
  else if 0x81 ≤ second ∧ second ≤ 0xFE then some (second.toNat - 0x81 + 52)
  else none

/-- The syllable outside KS X 1001 of two bytes.  A row has 178 of them in front of
KS X 1001 and 84 beside it. -/
def otherSyllable? (first second : UInt8) : Option Char :=
  match syllableColumn? second with
  | none => none
  | some column =>
      if first < 0x81 then none
      else if first < 0xA1 then otherSyllables[(first.toNat - 0x81) * 178 + column]?
      else if column < 84 then
        otherSyllables[32 * 178 + (first.toNat - 0xA1) * 84 + column]?
      else none

/-- Reads code page 949. -/
def readPage949 : Reader Unit := fun _ byte rest =>
  if byte < 0x80 then .ascii byte
  else .pair rest fun second =>
    let c? :=
      if 0xA1 ≤ byte ∧ 0xA1 ≤ second then
        ksX1001OrFiller? (byte.toNat - 0x80) (second.toNat - 0x80)
      else otherSyllable? byte second
    .several 2 (c?.map ([·]))

/-! ## The combining encoding -/

/-- A sound of a syllable: none, or the number of one. -/
abbrev Sound := Option Nat

/-- The initial sound of five bits. -/
def initialSound? (bits : Nat) : Option Sound :=
  if bits = 1 then some none
  else if 2 ≤ bits ∧ bits ≤ 20 then some (some (bits - 2))
  else none

/-- The medial sound of five bits. -/
def medialSound? (bits : Nat) : Option Sound :=
  if bits = 2 then some none
  else if 3 ≤ bits ∧ bits ≤ 7 then some (some (bits - 3))
  else if 10 ≤ bits ∧ bits ≤ 15 then some (some (bits - 5))
  else if 18 ≤ bits ∧ bits ≤ 23 then some (some (bits - 7))
  else if 26 ≤ bits ∧ bits ≤ 29 then some (some (bits - 9))
  else none

/-- The final sound of five bits. -/
def finalSound? (bits : Nat) : Option Sound :=
  if bits = 1 then some none
  else if 2 ≤ bits ∧ bits ≤ 17 then some (some (bits - 2))
  else if 19 ≤ bits ∧ bits ≤ 29 then some (some (bits - 3))
  else none

/-- The character of three sounds.  A letter stands alone, and a syllable has an initial
and a medial one. -/
def ofSounds? (initial medial final : Sound) : Option Char :=
  match initial, medial, final with
  | none, none, none => some '\u3000'
  | some initial, none, none => initialLetters.toList[initial]?
  | none, some medial, none => some (medialLetter medial)
  | none, none, some final => finalLetters.toList[final]?
  | some initial, some medial, none => some (syllable initial medial 0)
  | some initial, some medial, some final => some (syllable initial medial (final + 1))
  | _, _, _ => none

/-- The row and column of KS X 1001 of two bytes behind the syllables.  The letters,
which stand among the syllables, have no place there. -/
def combiningPlace? (first second : Nat) : Option (Nat × Nat) :=
  if first < 0xD9 ∨ first = 0xDF ∨ 0xF9 < first ∨ second < 0x31 ∨
      (0x80 ≤ second ∧ second < 0x91) ∨ second % 0x80 = 0x7F ∨
      (first = 0xDA ∧ 0xA1 ≤ second ∧ second ≤ 0xD3) then none
  else
    let pairOfRows := if first < 0xE0 then 2 * (first - 0xD9) else 2 * first - 0x197
    let place := if second < 0x91 then second - 0x31 else second - 0x43
    some (0x21 + pairOfRows + place / 94, 0x21 + place % 94)

/-- The character of two bytes of the combining encoding. -/
def combined? (first second : Nat) : Option Char :=
  if first < 0xD8 then
    let bits := first * 256 + second
    match initialSound? (bits / 1024 % 32), medialSound? (bits / 32 % 32),
      finalSound? (bits % 32) with
    | some initial, some medial, some final => ofSounds? initial medial final
    | _, _, _ => none
  else (combiningPlace? first second).bind fun (row, column) => ksX1001OrFiller? row column

/-- Reads the combining encoding. -/
def readCombining : Reader Unit := fun _ byte rest =>
  if byte < 0x80 then .ascii byte
  else .pair rest fun second => .several 2 ((combined? byte.toNat second.toNat).map ([·]))

end TapeMachine.Encoding.EastAsian
