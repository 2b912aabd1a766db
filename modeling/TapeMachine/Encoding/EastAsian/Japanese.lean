/-
  Japanese encodings.

  A character of a plane of 94 rows and 94 columns takes two bytes.  The extended
  encodings put 0xA0 on row and column; the shifted ones fold two rows into one first
  byte and leave room for half-width katakana, which take one byte.
-/
import TapeMachine.Encoding.EastAsian.JisX0208
import TapeMachine.Encoding.EastAsian.JisX0212
import TapeMachine.Encoding.EastAsian.JisX0213
import TapeMachine.Encoding.EastAsian.Reading

set_option autoImplicit false

namespace TapeMachine.Encoding.EastAsian

/-! ## Half-width katakana -/

/-- The half-width katakana or mark of a byte. -/
def katakana? (byte : UInt8) : Option Char :=
  if 0xA1 ≤ byte ∧ byte ≤ 0xDF then some (Char.ofNat (0xFEC0 + byte.toNat)) else none

/-! ## JIS X 0213 -/

/-- An edition of JIS X 0213. -/
inductive Edition where
  /-- The edition of 2000. -/
  | first
  /-- The edition of 2004. -/
  | second
  deriving DecidableEq, Repr

/-- The places of the first plane that are free in the edition of 2000. -/
def addedPlaces : List (Nat × Nat) :=
  [(0x2E, 0x21), (0x2F, 0x7E), (0x4F, 0x54), (0x4F, 0x7E), (0x74, 0x27), (0x7E, 0x7A),
   (0x7E, 0x7B), (0x7E, 0x7C), (0x7E, 0x7D), (0x7E, 0x7E)]

/-- Whether a place of the first plane is free in an edition only. -/
def isAddedLater (edition : Edition) (row column : Nat) : Bool :=
  edition == .first && addedPlaces.contains (row, column)

/-- The text at a place of the first plane. -/
def firstPlane? (row column : Nat) : Option (List Char) :=
  match jisX0208.char? row column with
  | some c => some [c]
  | none =>
      match jisX0213First.char? row column with
      | some c => some [c]
      | none => (jisX0213Pairs.find? fun p => p.1 = row ∧ p.2.1 = column).map (·.2.2)

/-- The character at a place of the second plane.  One of them has another shape in the
edition of 2000. -/
def secondPlane? (edition : Edition) (row column : Nat) : Option Char :=
  if edition = .first ∧ row = 0x7D ∧ column = 0x3B then some '\u9b1d'
  else jisX0213Second.char? row column

/-! ## Extended encodings -/

/-- A byte less the 0xA0 that stands on rows and columns, plus 0x20. -/
def low (byte : UInt8) : Nat := byte.toNat - 0x80

/-- A byte that announces half-width katakana, with the next one. -/
def announcedKatakana (rest : List UInt8) : Reading Unit :=
  .pair rest fun second => .several 2 ((katakana? second).map ([·]))

/-- A byte that announces a character of two more bytes. -/
def announcedPair (rest : List UInt8) (char? : Nat → Nat → Option Char) : Reading Unit :=
  match rest with
  | second :: third :: _ => .several 3 ((char? (low second) (low third)).map ([·]))
  | _ => .incomplete

/-- Reads the extended encoding of JIS X 0208 and JIS X 0212. -/
def readExtended : Reader Unit := fun _ byte rest =>
  if byte < 0x80 then .ascii byte
  else if byte = 0x8E then announcedKatakana rest
  else if byte = 0x8F then announcedPair rest jisX0212.char?
  else .pair rest fun second =>
    .several 2 ((jisX0208.char? (low byte) (low second)).map ([·]))

/-- The character of the second plane or, in rows that it leaves free, of JIS X 0212. -/
def secondPlaneOrSupplement? (edition : Edition) (row column : Nat) : Option Char :=
  match secondPlane? edition row column with
  | some c => some c
  | none => jisX0212.char? row column

/-- Reads the extended encoding of JIS X 0213. -/
def readExtended2000 (edition : Edition) : Reader Unit := fun _ byte rest =>
  if byte < 0x80 then .ascii byte
  else if byte = 0x8E then announcedKatakana rest
  else if byte = 0x8F then announcedPair rest (secondPlaneOrSupplement? edition)
  else .pair rest fun second =>
    if isAddedLater edition (low byte) (low second) then .illegal 2
    else .several 2 (firstPlane? (low byte) (low second))

/-! ## Shifted encodings -/

/-- The row and column of two bytes of a shifted encoding.  Rows above 0x7E are beyond
the first plane. -/
def shiftedPlace? (first second : UInt8) : Option (Nat × Nat) :=
  if second < 0x40 ∨ second = 0x7F ∨ 0xFC < second then none
  else
    let half := if first < 0xA0 then first.toNat - 0x81 else first.toNat - 0xC1
    let place := if second < 0x80 then second.toNat - 0x40 else second.toNat - 0x41
    some (0x21 + 2 * half + place / 94, 0x21 + place % 94)

/-- Two bytes of a shifted encoding, told what their place holds. -/
def shiftedPair (byte : UInt8) (rest : List UInt8) (read : Nat → Nat → Reading Unit) :
    Reading Unit :=
  .pair rest fun second =>
    match shiftedPlace? byte second with
    | some (row, column) => read row column
    | none => .illegal 1

/-- Whether a byte is the first of two in a shifted encoding with a last first byte. -/
def isShiftedLead (last byte : UInt8) : Bool :=
  (0x81 ≤ byte && byte ≤ 0x9F) || (0xE0 ≤ byte && byte ≤ last)

/-- Reads the shifted encoding of JIS X 0208. -/
def readShifted : Reader Unit := fun _ byte rest =>
  if byte < 0x80 then .ascii byte
  else
    match katakana? byte with
    | some c => .single c
    | none =>
        if isShiftedLead 0xEA byte then
          shiftedPair byte rest fun row column =>
            .several 2 ((jisX0208.char? row column).map ([·]))
        else .illegal 1

/-- The rows of the second plane, in the order of a shifted encoding. -/
def shiftedSecondRows : List Nat :=
  [0x21, 0x28, 0x23, 0x24, 0x25, 0x2C, 0x2D, 0x2E, 0x2F, 0x6E, 0x6F, 0x70, 0x71, 0x72, 0x73,
   0x74, 0x75, 0x76, 0x77, 0x78, 0x79, 0x7A, 0x7B, 0x7C, 0x7D, 0x7E]

/-- Reads the shifted encoding of JIS X 0213.  Its backslash and its tilde take two
bytes. -/
def readShifted2000 (edition : Edition) : Reader Unit := fun _ byte rest =>
  if byte = 0x5C then .single '¥'
  else if byte = 0x7E then .single '‾'
  else if byte < 0x80 then .ascii byte
  else
    match katakana? byte with
    | some c => .single c
    | none =>
        if isShiftedLead 0xFC byte then
          shiftedPair byte rest fun row column =>
            if row ≤ 0x7E then
              if isAddedLater edition row column then .illegal 2
              else if row = 0x21 ∧ column = 0x40 then .several 2 (some ['\\'])
              else if row = 0x22 ∧ column = 0x32 then .several 2 (some ['~'])
              else .several 2 (firstPlane? row column)
            else
              match shiftedSecondRows[row - 0x7F]? with
              | some row => .several 2 ((secondPlane? edition row column).map ([·]))
              | none => .illegal 1
        else .illegal 1

/-! ## Code page 932 -/

/-- The characters of makers among those of JIS X 0208. -/
def makerRuns : List Run :=
  [⟨0x21, 0x41, "～∥"⟩, ⟨0x21, 0x5D, "－"⟩, ⟨0x21, 0x71, "￠￡"⟩, ⟨0x22, 0x4C, "￢"⟩,
   ⟨0x2D, 0x21, "①②③④⑤⑥⑦⑧⑨⑩⑪⑫⑬⑭⑮⑯⑰⑱⑲⑳ⅠⅡⅢⅣⅤⅥⅦⅧⅨⅩ"⟩, ⟨0x2D, 0x40, "㍉㌔㌢㍍㌘㌧㌃㌶㍑㍗㌍㌦㌣㌫㍊㌻㎜㎝㎞㎎㎏㏄㎡"⟩,
   ⟨0x2D, 0x5F, "㍻〝〟№㏍℡㊤㊥㊦㊧㊨㈱㈲㈹㍾㍽㍼≒≡∫∮∑√⊥∠∟⊿∵∩∪"⟩]

/-- The kanji that a maker has added to JIS X 0208. -/
def makerKanji : String :=
  "纊褜鍈銈蓜俉炻昱棈鋹曻彅丨仡仼伀伃伹佖侒侊侚侔俍偀倢俿倞偆偰偂傔僴僘兊兤冝冾凬刕劜劦勀勛匀匇匤卲厓厲叝\ufa0e咜咊咩哿喆坙坥垬埈埇\ufa0f\ufa10增墲夋奓奛奝奣妤妺孖寀" ++
  "甯寘寬尞岦岺峵崧嵓\ufa11嵂嵭嶸嶹巐弡弴彧德忞恝悅悊惞惕愠惲愑愷愰憘戓抦揵摠撝擎敎昀昕昻昉昮昞昤晥晗晙\ufa12晳暙暠暲暿曺朎\uf929杦枻桒柀栁桄棏\ufa13楨" ++
  "\ufa14榘槢樰橫橆橳橾櫢櫤毖氿汜沆汯泚洄涇浯涖涬淏淸淲淼渹湜渧渼溿澈澵濵瀅瀇瀨炅炫焏焄煜煆煇\ufa15燁燾犱犾猤\ufa16獷玽珉珖珣珒琇珵琦琪琩琮瑢璉璟甁畯皂皜皞皛皦" ++
  "\ufa17睆劯砡硎硤硺礰\ufa18\ufa19\ufa1a禔\ufa1b禛竑竧\ufa1c竫箞\ufa1d絈絜綷綠緖繒罇羡\ufa1e茁荢荿菇菶葈蒴蕓蕙蕫\ufa1f薰" ++
  "\ufa20\ufa21蠇裵訒訷詹誧誾諟\ufa22諶譓譿賰賴贒赶\ufa23軏\ufa24\ufa25遧郞\ufa26鄕鄧釚釗釞釭釮釤釥鈆鈐鈊鈺鉀鈼鉎鉙鉑鈹鉧銧鉷鉸鋧鋗鋙鋐" ++
  "\ufa27鋕鋠鋓錥錡鋻\ufa28錞鋿錝錂鍰鍗鎤鏆鏞鏸鐱鑅鑈閒\uf9dc\ufa29隝隯霳霻靃靍靏靑靕顗顥\ufa2a\ufa2b餧\ufa2c馞驎髙髜魵魲鮏鮱鮻鰀鵰鵫" ++
  "\ufa2d鸙黑"

/-- The characters of the rows from 0x79 on. -/
def selectedMakerChars : Array Char :=
  (makerKanji ++ "  ⅰⅱⅲⅳⅴⅵⅶⅷⅸⅹ￢￤＇＂").toList.toArray

/-- The characters of the rows from 0x93 on. -/
def allMakerChars : Array Char :=
  ("ⅰⅱⅲⅳⅴⅵⅶⅷⅸⅹⅠⅡⅢⅣⅤⅥⅦⅧⅨⅩ￢￤＇＂㈱№℡∵" ++ makerKanji).toList.toArray

/-- The character of code page 932 at a place.  The rows from 0x7F on are for private
characters. -/
def page932? (row column : Nat) : Option Char :=
  let place := fun first : Nat => (row - first) * 94 + (column - 0x21)
  if 0x7F ≤ row ∧ row ≤ 0x92 then some (Char.ofNat (0xE000 + place 0x7F))
  else if 0x93 ≤ row then allMakerChars[place 0x93]?
  else if 0x79 ≤ row then
    (selectedMakerChars[place 0x79]?).filter (· ≠ Table.missing)
  else
    match Run.find? makerRuns row column with
    | some c => some c
    | none => jisX0208.char? row column

/-- Reads code page 932. -/
def readPage932 : Reader Unit := fun _ byte rest =>
  if byte ≤ 0x80 then .ascii byte
  else if byte = 0xA0 then .single '\uf8f0'
  else if 0xFD ≤ byte then .single (Char.ofNat (0xF8F1 + (byte.toNat - 0xFD)))
  else
    match katakana? byte with
    | some c => .single c
    | none =>
        shiftedPair byte rest fun row column =>
          .several 2 ((page932? row column).map ([·]))

end TapeMachine.Encoding.EastAsian
