/-
  White space.

  Twenty-nine characters are blank: the ASCII blanks, the four separators below
  the space, and the Unicode spaces and line separators.
-/
set_option autoImplicit false

namespace TapeMachine.Text

/-! ## Blank characters -/

/-- Whether a character is white space. -/
def isBlank (c : Char) : Bool :=
  let code := c.toNat
  (0x09 ≤ code && code ≤ 0x0D) || (0x1C ≤ code && code ≤ 0x20) || code == 0x85 ||
    code == 0xA0 || code == 0x1680 || (0x2000 ≤ code && code ≤ 0x200A) ||
    code == 0x2028 || code == 0x2029 || code == 0x202F || code == 0x205F || code == 0x3000

/-! ## Trimming -/

/-- The text without the leading characters of a class. -/
def trimStart (inClass : Char → Bool) (text : List Char) : List Char :=
  text.dropWhile inClass

/-- The text without the trailing characters of a class. -/
def trimEnd (inClass : Char → Bool) (text : List Char) : List Char :=
  (text.reverse.dropWhile inClass).reverse

/-- The text without the characters of a class at either end. -/
def trim (inClass : Char → Bool) (text : List Char) : List Char :=
  trimEnd inClass (trimStart inClass text)

end TapeMachine.Text
