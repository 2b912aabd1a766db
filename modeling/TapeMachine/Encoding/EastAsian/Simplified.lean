/-
  Encodings of simplified Chinese.

  The extended encoding puts 0x80 on rows and columns of GB 2312.  GBK has the other
  ideographs around it, and GB 18030 fills all places of two bytes and has four bytes for
  the rest of Unicode.  The mailing encoding is ASCII, with GB 2312 between marks.
-/
import TapeMachine.Encoding.EastAsian.Gb2312
import TapeMachine.Encoding.EastAsian.Reading

set_option autoImplicit false

namespace TapeMachine.Encoding.EastAsian

/-! ## GB 2312 -/

/-- Reads the extended encoding of GB 2312. -/
def readGb2312 : Reader Unit := fun _ byte rest =>
  if byte < 0x80 then .ascii byte
  else .pair rest fun second =>
    .several 2 ((gb2312.char? (byte.toNat - 0x80) (second.toNat - 0x80)).map ([·]))

/-! ## GBK -/

/-- The marks and letters of GBK that GB 2312 lacks or has in another form. -/
def gbkRuns : List Run :=
  [⟨0xA1, 0xA4, "·"⟩, ⟨0xA1, 0xAA, "—"⟩, ⟨0xA2, 0xA1, "ⅰⅱⅲⅳⅴⅵⅶⅷⅸⅹ"⟩, ⟨0xA6, 0xE0, "︵︶︹︺︿﹀︽︾﹁﹂﹃﹄"⟩,
   ⟨0xA6, 0xEE, "︻︼︷︸︱"⟩, ⟨0xA6, 0xF4, "︳︴"⟩,
   ⟨0xA8, 0x40, "ˊˋ˙–―‥‵℅℉↖↗↘↙∕∟∣≒≦≧⊿═║╒╓╔╕╖╗╘╙╚╛╜╝╞╟╠╡╢╣╤╥╦╧╨╩╪╫╬╭╮╯╰╱╲╳▁▂▃▄▅▆▇"⟩,
   ⟨0xA8, 0x80, "█▉▊▋▌▍▎▏▓▔▕▼▽◢◣◤◥☉⊕〒〝〞"⟩, ⟨0xA8, 0xBB, "ɑ"⟩, ⟨0xA8, 0xBD, "ńň"⟩,
   ⟨0xA8, 0xC0, "ɡ"⟩, ⟨0xA9, 0x40, "〡〢〣〤〥〦〧〨〩㊣㎎㎏㎜㎝㎞㎡㏄㏎㏑㏒㏕︰￢￤"⟩, ⟨0xA9, 0x59, "℡㈱"⟩,
   ⟨0xA9, 0x5C, "‐"⟩, ⟨0xA9, 0x60, "ー゛゜ヽヾ〆ゝゞ﹉﹊﹋﹌﹍﹎﹏﹐﹑﹒﹔﹕﹖﹗﹙﹚﹛﹜﹝﹞﹟﹠﹡"⟩, ⟨0xA9, 0x80, "﹢﹣﹤﹥﹦﹨﹩﹪﹫"⟩,
   ⟨0xA9, 0x96, "〇"⟩]

/-- Compatibility ideographs of GBK. -/
def gbkCompatibility : String :=
  "\uf92c\uf979\uf995\uf9e7\uf9f1\ufa0c\ufa0d\ufa0e\ufa0f\ufa11\ufa13\ufa14\ufa18" ++
  "\ufa1f\ufa20\ufa21\ufa23\ufa24\ufa27\ufa28\ufa29"

/-- The ideographs that GB 2312 lacks, in the order of GBK. -/
def otherIdeographs : Array Char :=
  others 0x4E00 0x9FA5 gb2312.chars ++ gbkCompatibility.toList.toArray

/-- The number of a second byte, which is not 0x7F. -/
def gbkColumn? (second : Nat) : Option Nat :=
  if 0x40 ≤ second ∧ second < 0x7F then some (second - 0x40)
  else if 0x80 ≤ second ∧ second ≤ 0xFE then some (second - 0x41)
  else none

/-- The ideograph outside GB 2312 of two bytes: 190 in a row in front of GB 2312 and 96
in a row beside it. -/
def otherIdeograph? (first second : Nat) : Option Char :=
  match gbkColumn? second with
  | none => none
  | some column =>
      if 0x81 ≤ first ∧ first ≤ 0xA0 then otherIdeographs[(first - 0x81) * 190 + column]?
      else if 0xAA ≤ first ∧ column < 96 then
        otherIdeographs[32 * 190 + (first - 0xAA) * 96 + column]?
      else none

/-- The character of two bytes of GBK. -/
def gbk? (first second : Nat) : Option Char :=
  match Run.find? gbkRuns first second with
  | some c => some c
  | none =>
      if 0xA1 ≤ first ∧ 0xA1 ≤ second then gb2312.char? (first - 0x80) (second - 0x80)
      else otherIdeograph? first second

/-- Reads GBK. -/
def readGbk : Reader Unit := fun _ byte rest =>
  if byte < 0x80 then .ascii byte
  else .pair rest fun second => .several 2 ((gbk? byte.toNat second.toNat).map ([·]))

/-! ## GB 18030 -/

/-- The characters of GB 18030 at places that GBK leaves free. -/
def gb18030Runs : List Run :=
  [⟨0xA2, 0xE3, "€"⟩, ⟨0xA8, 0xBF, "ǹ"⟩, ⟨0xA9, 0x89, "〾⿰⿱⿲⿳⿴⿵⿶⿷⿸⿹⿺⿻"⟩, ⟨0xFE, 0x50, "⺁"⟩,
   ⟨0xFE, 0x54, "⺄㑳㑇⺈⺋"⟩, ⟨0xFE, 0x5A, "㖞㘚㘎⺌⺗㥮㤘"⟩, ⟨0xFE, 0x62, "㧏㧟㩳㧐"⟩, ⟨0xFE, 0x68, "㭎㱮㳠⺧"⟩,
   ⟨0xFE, 0x6E, "⺪䁖䅟⺮䌷⺳⺶⺷"⟩, ⟨0xFE, 0x77, "䎱䎬⺻䏝䓖䙡䙌"⟩, ⟨0xFE, 0x80, "䜣䜩䝼䞍⻊䥇䥺䥽䦂䦃䦅䦆䦟䦛䦷䦶"⟩,
   ⟨0xFE, 0x92, "䲣䲟䲠䲡䱷䲢䴓䴔䴕䴖䴗䴘䴙䶮"⟩]

/-- The private character of two bytes that are for the user. -/
def userDefined? (first column : Nat) : Option Char :=
  if 0xAA ≤ first ∧ first ≤ 0xAF ∧ 96 ≤ column then
    some (Char.ofNat (0xE000 + (first - 0xAA) * 94 + (column - 96)))
  else if 0xF8 ≤ first ∧ first ≤ 0xFE ∧ 96 ≤ column then
    some (Char.ofNat (0xE234 + (first - 0xF8) * 94 + (column - 96)))
  else if 0xA1 ≤ first ∧ first ≤ 0xA7 ∧ column < 96 then
    some (Char.ofNat (0xE4C6 + (first - 0xA1) * 96 + column))
  else none

/-- The characters of all places of two bytes, in order.  A place that is free otherwise
has the next of the private characters from U+E766 on, or a character in its stead. -/
def gb18030Chars : Array Char :=
  let places := (List.range (126 * 190)).map fun n => (0x81 + n / 190, n % 190)
  let step := fun (done : Array Char × Nat) (place : Nat × Nat) =>
    let (first, column) := place
    let second := if column < 63 then 0x40 + column else 0x41 + column
    match gbk? first second with
    | some c => (done.1.push c, done.2)
    | none =>
        match userDefined? first column with
        | some c => (done.1.push c, done.2)
        | none =>
            let next := Char.ofNat done.2
            (done.1.push ((Run.find? gb18030Runs first second).getD next), done.2 + 1)
  (places.foldl step (Array.emptyWithCapacity (126 * 190), 0xE766)).1

/-- The characters below U+10000 without two bytes, in order. -/
def fourByteChars : Array Char := others 0x80 0xFFFF gb18030Chars.toList

/-- Whether a byte is a decimal digit. -/
def isDigitByte (byte : UInt8) : Bool := 0x30 ≤ byte && byte ≤ 0x39

/-- Whether a byte is the first of several in GB 18030. -/
def isLongLead (byte : UInt8) : Bool := 0x81 ≤ byte && byte ≤ 0xFE

/-- The character of four bytes, by their number.  The characters from U+10000 on begin
at a first byte of 0x90. -/
def fourByte? (first second third fourth : UInt8) : Option Char :=
  let number :=
    (((first.toNat - 0x81) * 10 + (second.toNat - 0x30)) * 126 + (third.toNat - 0x81)) * 10 +
      (fourth.toNat - 0x30)
  let beyond := 15 * 12600
  if number < beyond then fourByteChars[number]?
  else if number - beyond < 0x100000 then some (Char.ofNat (0x10000 + (number - beyond)))
  else none

/-- Four bytes of GB 18030. -/
def fourBytes (first second : UInt8) (rest : List UInt8) : Reading Unit :=
  match rest with
  | third :: fourth :: _ =>
      if isLongLead first && isLongLead third && isDigitByte fourth then
        .several 4 ((fourByte? first second third fourth).map ([·]))
      else .illegal 1
  | _ => .incomplete

/-- Reads GB 18030. -/
def readGb18030 : Reader Unit := fun _ byte rest =>
  if byte < 0x80 then .ascii byte
  else .pair rest fun second =>
    if isDigitByte second then fourBytes byte second (rest.drop 1)
    else
      match isLongLead byte, gbkColumn? second.toNat with
      | true, some column =>
          .several 2 ((gb18030Chars[(byte.toNat - 0x81) * 190 + column]?).map ([·]))
      | _, _ => .illegal 1

/-! ## The mailing encoding -/

/-- Reads the mailing encoding, inside or outside GB 2312. -/
def readMailing : Reader Bool := fun inside byte rest =>
  if byte = 0x7E then
    match rest with
    | [] => .incomplete
    | second :: _ =>
        match inside, second with
        | false, 0x7E => .text ['~'] 2 false
        | false, 0x7B => .text [] 2 true
        | false, 0x0A => .text [] 2 false
        | true, 0x7D => .text [] 2 false
        | _, _ => .illegal 1
  else if 0x80 ≤ byte then .illegal 1
  else if inside then
    match rest with
    | [] => .incomplete
    | second :: _ =>
        match gb2312.char? byte.toNat second.toNat with
        | some c => .text [c] 2 true
        | none => .illegal 1
  else .text [Char.ofNat byte.toNat] 1 false

end TapeMachine.Encoding.EastAsian
