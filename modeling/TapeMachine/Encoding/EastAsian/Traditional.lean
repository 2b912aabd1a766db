/-
  Encodings of traditional Chinese.

  A character of Big5 takes two bytes.  Code page 950 has marks of its own, and the Hong
  Kong supplement has further characters around Big5.
-/
import TapeMachine.Encoding.EastAsian.Big5
import TapeMachine.Encoding.EastAsian.HongKong
import TapeMachine.Encoding.EastAsian.Reading

set_option autoImplicit false

namespace TapeMachine.Encoding.EastAsian

/-- The number of a second byte. -/
def big5Column? (second : Nat) : Option Nat :=
  if 0x40 ≤ second ∧ second ≤ 0x7E then some (second - 0x40)
  else if 0xA1 ≤ second ∧ second ≤ 0xFE then some (second - 0x62)
  else none

/-- The character of two bytes of Big5. -/
def big5? (first second : Nat) : Option Char :=
  (big5Column? second).bind (big5.char? first)

/-- Reads Big5. -/
def readBig5 : Reader Unit := fun _ byte rest =>
  if byte < 0x80 then .ascii byte
  else .pair rest fun second => .several 2 ((big5? byte.toNat second.toNat).map ([·]))

/-! ## Code page 950 -/

/-- The characters of code page 950 that Big5 lacks or has in another form. -/
def page950Runs : List Run :=
  [⟨0xA1, 0x45, "‧"⟩, ⟨0xA1, 0x4E, "﹑"⟩, ⟨0xA1, 0xC2, "¯"⟩, ⟨0xA1, 0xE3, "～"⟩, ⟨0xA1, 0xF2, "⊕⊙"⟩,
   ⟨0xA2, 0x41, "∕﹨"⟩, ⟨0xA2, 0x44, "￥"⟩, ⟨0xA2, 0x46, "￠￡"⟩, ⟨0xA3, 0xE1, "€"⟩,
   ⟨0xF9, 0xD6, "碁銹裏墻恒粧嫺╔╦╗╠╬╣╚╩╝╒╤╕╞╪╡╘╧╛╓╥╖╟╫╢╙╨╜║═╭╮╰╯▓"⟩]

/-- The character of two bytes of code page 950. -/
def page950? (first second : Nat) : Option Char :=
  match Run.find? page950Runs first second with
  | some c => some c
  | none => big5? first second

/-- Reads code page 950. -/
def readPage950 : Reader Unit := fun _ byte rest =>
  if byte < 0x80 then .ascii byte
  else .pair rest fun second => .several 2 ((page950? byte.toNat second.toNat).map ([·]))

/-! ## The Hong Kong supplement -/

/-- Whether the supplement redefines two bytes of Big5. -/
def isRedefined (first second : Nat) : Bool :=
  decide (0xC6A1 ≤ first * 256 + second) && decide (first ≤ 0xC8)

/-- The text of two bytes of Big5 with the supplement. -/
def withSupplement? (first second : Nat) : Option (List Char) :=
  let supplement? := (big5Column? second).bind (hongKong.char? first)
  if isRedefined first second then supplement?.map ([·])
  else
    match big5? first second with
    | some c => some [c]
    | none =>
        match supplement? with
        | some c => some [c]
        | none => (hongKongPairs.find? fun p => p.1 = first ∧ p.2.1 = second).map (·.2.2)

/-- Reads Big5 with the supplement. -/
def readHongKong : Reader Unit := fun _ byte rest =>
  if byte < 0x80 then .ascii byte
  else .pair rest fun second => .several 2 (withSupplement? byte.toNat second.toNat)

end TapeMachine.Encoding.EastAsian
