/-
  Encodings that designate character sets.

  Escape sequences designate up to three character sets.  Bytes stand for characters of
  the first set or, behind a shift, of the second one; a single shift takes one character
  from the third.  All sets are ASCII to begin with.
-/
import TapeMachine.Encoding.EastAsian.Japanese
import TapeMachine.Encoding.EastAsian.Korean
import TapeMachine.Encoding.EastAsian.Simplified

set_option autoImplicit false

namespace TapeMachine.Encoding.EastAsian

/-! ## Character sets -/

/-- A character set that can be designated. -/
inductive CharacterSet where
  /-- ASCII. -/
  | ascii
  /-- The upper half of Latin-1. -/
  | latin
  /-- The upper half of Latin and Greek. -/
  | greek
  /-- ASCII with the yen sign and the overline. -/
  | roman
  /-- Half-width katakana. -/
  | katakana
  /-- JIS X 0208, as its first edition or a later one. -/
  | jisX0208 (isFirst : Bool)
  /-- JIS X 0212. -/
  | jisX0212
  /-- The first plane of JIS X 0213. -/
  | firstPlane (edition : Edition)
  /-- The second plane of JIS X 0213. -/
  | secondPlane
  /-- GB 2312. -/
  | gb2312
  /-- KS X 1001. -/
  | ksX1001
  deriving DecidableEq, Repr

namespace CharacterSet

/-- Whether a character takes two bytes. -/
def isWide : CharacterSet → Bool
  | ascii | latin | greek | roman | katakana => false
  | _ => true

/-- The last byte of the escape sequences that designate the set. -/
def finalByte (set : CharacterSet) : UInt8 :=
  let letter :=
    match set with
    | ascii => 'B'
    | latin => 'A'
    | greek => 'F'
    | roman => 'J'
    | katakana => 'I'
    | jisX0208 true => '@'
    | jisX0208 false => 'B'
    | jisX0212 => 'D'
    | firstPlane .first => 'O'
    | firstPlane .second => 'Q'
    | secondPlane => 'P'
    | gb2312 => 'A'
    | ksX1001 => 'C'
  UInt8.ofNat letter.toNat

/-- The text of a byte or of two bytes below 0x80.  The sets of upper halves have none
here: their characters come by single shifts. -/
def text? (set : CharacterSet) (first second : UInt8) : Option (List Char) :=
  let row := first.toNat
  let column := second.toNat
  match set with
  | ascii => some [Char.ofNat row]
  | latin | greek => none
  | roman => some [if first = 0x5C then '¥' else if first = 0x7E then '‾' else Char.ofNat row]
  | katakana => (katakana? (first + 0x80)).map ([·])
  | jisX0208 _ => (EastAsian.jisX0208.char? row column).map ([·])
  | jisX0212 => (EastAsian.jisX0212.char? row column).map ([·])
  | firstPlane edition =>
      if isAddedLater edition row column then none
      else if row = 0x22 ∧ column = 0x32 then some ['~']
      else firstPlane? row column
  | secondPlane => (secondPlane? .second row column).map ([·])
  | gb2312 => (EastAsian.gb2312.char? row column).map ([·])
  | ksX1001 => (ksX1001OrFiller? row column).map ([·])

/-- The Greek characters of the bytes from 0x20 on. -/
def greekHalf : Array Char :=
  ("\u00a0‘’£  ¦§¨© «¬\u00ad ―°±²³΄΅Ά·ΈΉΊ»Ό½ΎΏΐΑΒΓΔΕΖΗΘΙΚΛΜΝΞΟΠΡ ΣΤΥΦΧΨΩΪΫάέήίΰ" ++
    "αβγδεζηθικλμνξοπρςστυφχψωϊϋόύώ").toList.toArray

/-- The character of a byte behind a single shift. -/
def shiftedChar? (set : CharacterSet) (byte : UInt8) : Option Char :=
  let code := byte.toNat
  match set with
  | latin => if code < 0x80 then some (Char.ofNat (code + 0x80)) else none
  | greek =>
      if 0x80 ≤ code then some (Char.ofNat (code - 0x80))
      else if code < 0x20 then some (Char.ofNat (code + 0x80))
      else (greekHalf[code - 0x20]?).filter (· ≠ Table.missing)
  | _ => if code < 0x80 then some (Char.ofNat code) else none

end CharacterSet

/-! ## Repertoires -/

/-- What an encoding has: the sets that it may designate besides ASCII, and whether it
knows shifts, single shifts, and the prefix that announces a revised set. -/
structure Repertoire where
  sets : List CharacterSet
  hasShifts : Bool := false
  hasSingleShifts : Bool := false
  hasRevisions : Bool := true
  deriving DecidableEq, Repr

/-- What is designated: the three sets, whether the second is in use, and whether an
escape sequence of another kind is passing. -/
structure Designations where
  first : CharacterSet := .ascii
  second : CharacterSet := .ascii
  third : CharacterSet := .ascii
  isShifted : Bool := false
  isPassing : Bool := false
  deriving DecidableEq, Repr

namespace Designation

/-- The escape byte. -/
def escape : UInt8 := 0x1B

/-- Whether a byte ends an escape sequence: a capital letter or the at sign. -/
def isFinal (byte : UInt8) : Bool := 0x40 ≤ byte && byte ≤ 0x5A

/-- Whether a byte behind the escape begins a designation. -/
def isBeginning (byte : UInt8) : Bool :=
  ("()$.&".toUTF8.toList).contains byte

/-- The greatest length of an escape sequence. -/
def longest : Nat := 16

/-- The length of an escape sequence that goes on with some bytes from a place on.  The
prefix of a revised set does not end it, nor does the byte behind that prefix. -/
def lengthFrom (hasRevisions : Bool) :
    (fuel : Nat) → (place : Nat) → List UInt8 → Except (Reading Designations) Nat
  | 0, _, _ => .error (.illegal 1)
  | fuel + 1, place, bytes =>
      if longest ≤ place then .error (.illegal 1)
      else
        match bytes with
        | [] => .error .incomplete
        | byte :: rest =>
            if isFinal byte then .ok (place + 1)
            else
              match hasRevisions, byte, rest with
              | true, 0x26, 0x40 :: behind =>
                  lengthFrom hasRevisions fuel (place + 3) (behind.drop 1)
              | _, _, _ => lengthFrom hasRevisions fuel (place + 1) rest

/-- The set that a final byte designates. -/
def setOf? (r : Repertoire) (wide : Bool) (final : UInt8) : Option CharacterSet :=
  (.ascii :: r.sets).find? fun set => set.isWide == wide && set.finalByte == final

/-- The designations after a whole escape sequence, given without its escape. -/
def designate? (r : Repertoire) (d : Designations) (sequence : List UInt8) :
    Option Designations :=
  match sequence with
  | [0x24, final] => (setOf? r true final).map fun set => { d with first := set }
  | [0x28, final] => (setOf? r false final).map fun set => { d with first := set }
  | [0x29, final] => (setOf? r false final).map fun set => { d with second := set }
  | [0x2E, final] =>
      if r.hasSingleShifts then
        (setOf? r false final).map fun set => { d with third := set }
      else none
  | [0x24, 0x28, final] => (setOf? r true final).map fun set => { d with first := set }
  | [0x24, 0x29, final] => (setOf? r true final).map fun set => { d with second := set }
  | [_, _, 0x1B, 0x24, 0x42] =>
      if r.hasRevisions then
        (setOf? r true 0x42).map fun set => { d with first := set }
      else none
  | _ => none

/-- Reads a designation behind its escape. -/
def readDesignation (r : Repertoire) (d : Designations) (rest : List UInt8) :
    Reading Designations :=
  match lengthFrom r.hasRevisions longest 1 rest with
  | .error reading => reading
  | .ok length =>
      match designate? r d (rest.take (length - 1)) with
      | some d => .text [] length d
      | none => .illegal length

/-- Reads a character behind a single shift. -/
def readShifted (d : Designations) (rest : List UInt8) : Reading Designations :=
  match rest with
  | _ :: byte :: _ =>
      match d.third.shiftedChar? byte with
      | some c => .text [c] 3 d
      | none => .illegal 3
  | _ => .incomplete

/-- Reads behind an escape.  An escape sequence of another kind passes through. -/
def readEscape (r : Repertoire) (d : Designations) (rest : List UInt8) : Reading Designations :=
  match rest with
  | [] => .incomplete
  | second :: _ =>
      if isBeginning second then readDesignation r d rest
      else if r.hasSingleShifts ∧ second = 0x4E then readShifted d rest
      else .text ['\x1b'] 1 { d with isPassing := true }

/-- Reads a character of a set. -/
def readCharacter (set : CharacterSet) (d : Designations) (byte : UInt8) (rest : List UInt8) :
    Reading Designations :=
  if set.isWide then
    match rest with
    | [] => .incomplete
    | second :: _ =>
        match set.text? byte second with
        | some text => .text text 2 d
        | none => .illegal 2
  else
    match set.text? byte 0 with
    | some text => .text text 1 d
    | none => .illegal 1

/-- Reads an encoding with a repertoire. -/
def read (r : Repertoire) : Reader Designations := fun d byte rest =>
  let same := [Char.ofNat byte.toNat]
  if d.isPassing then .text same 1 { d with isPassing := !isFinal byte }
  else if byte = escape then readEscape r d rest
  else if r.hasShifts ∧ byte = 0x0E then .text [] 1 { d with isShifted := true }
  else if r.hasShifts ∧ byte = 0x0F then .text [] 1 { d with isShifted := false }
  else if byte = 0x0A then .text same 1 { d with isShifted := false }
  else if byte < 0x20 then .text same 1 d
  else if 0x80 ≤ byte then .illegal 1
  else readCharacter (if d.isShifted then d.second else d.first) d byte rest

end Designation

end TapeMachine.Encoding.EastAsian
