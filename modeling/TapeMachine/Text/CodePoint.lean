/-
  Code points.

  The codes from 0xD800 to 0xDFFF are halves of pairs and stand for no character.  A text
  that is written by code points may hold them all the same.
-/
set_option autoImplicit false

namespace TapeMachine.Text

/-- Whether a code is set aside for halves of pairs. -/
def CodePoint.isHalf (code : Nat) : Bool := 0xD800 ≤ code && code ≤ 0xDFFF

/-- A code point of a text. -/
inductive CodePoint where
  /-- A character. -/
  | char (c : Char)
  /-- A half of a pair. -/
  | half (code : Nat) (hcode : CodePoint.isHalf code = true)
  deriving DecidableEq, Repr, Inhabited

namespace CodePoint

/-- The code point of a number below 0x110000. -/
def ofNat (code : Nat) : CodePoint :=
  if hcode : isHalf code = true then .half code hcode else .char (Char.ofNat code)

/-- The character that stands in for a code point.  For a half of a pair it is the
replacement character, which is no letter, digit, blank or mark of any notation. -/
def standIn : CodePoint → Char
  | char c => c
  | half .. => '\ufffd'

end CodePoint

/-! ## Texts -/

/-- A text that may hold halves of pairs. -/
abbrev Codes := List CodePoint

namespace Codes

/-- The code points of a text of characters. -/
def ofString (text : String) : Codes := text.toList.map .char

/-- The characters of a text without halves of pairs. -/
def toChars? : Codes → Option (List Char)
  | [] => some []
  | .char c :: rest => (toChars? rest).map (c :: ·)
  | .half .. :: _ => none

/-- A text has characters alone when it is a text of characters. -/
theorem toChars?_eq_some_iff {codes : Codes} {text : List Char} :
    codes.toChars? = some text ↔ codes = text.map .char := by
  induction codes generalizing text with
  | nil => simp [toChars?, eq_comm]
  | cons code rest ih =>
      cases code with
      | half code hcode => cases text <;> simp [toChars?]
      | char c =>
          simp only [toChars?, Option.map_eq_some_iff, ih]
          constructor
          · rintro ⟨behind, rfl, rfl⟩
            rfl
          · intro h
            cases text with
            | nil => cases h
            | cons c' behind =>
                simp only [List.map_cons, List.cons.injEq, CodePoint.char.injEq] at h
                obtain ⟨rfl, rfl⟩ := h
                exact ⟨behind, rfl, rfl⟩

/-- A text is made of characters, or it has a first half of a pair. -/
theorem characters_or_half (codes : Codes) :
    (∃ text : List Char, codes = text.map .char) ∨
      ∃ (before : List Char) (code : Nat) (hcode : CodePoint.isHalf code = true) (rest : Codes),
        codes = before.map .char ++ .half code hcode :: rest := by
  induction codes with
  | nil => exact Or.inl ⟨[], rfl⟩
  | cons code rest ih =>
      cases code with
      | half code hcode => exact Or.inr ⟨[], code, hcode, rest, rfl⟩
      | char c =>
          rcases ih with ⟨text, rfl⟩ | ⟨before, code, hcode, behind, rfl⟩
          · exact Or.inl ⟨c :: text, rfl⟩
          · exact Or.inr ⟨c :: before, code, hcode, behind, rfl⟩

end Codes

end TapeMachine.Text
