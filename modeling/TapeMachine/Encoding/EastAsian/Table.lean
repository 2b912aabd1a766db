/-
  Tables of characters.

  The character sets of East Asia arrange their characters in rows and columns, which
  encodings turn into bytes in one way or another.
-/
import TapeMachine.Text.CodePoint

set_option autoImplicit false

namespace TapeMachine.Encoding.EastAsian

/-- Characters in rows and columns, both counted from a first number.  A space stands at
a place without a character. -/
structure Table where
  firstRow : Nat
  firstColumn : Nat
  rows : Array (Array Char)

namespace Table

/-- The character that stands at a place without one. -/
def missing : Char := ' '

/-- The table with the given rows; what a row lacks at its end is missing. -/
def ofRows (firstRow firstColumn : Nat) (rows : List String) : Table :=
  ⟨firstRow, firstColumn, (rows.map fun row => row.toList.toArray).toArray⟩

/-- The character in a row and a column. -/
def char? (t : Table) (row column : Nat) : Option Char :=
  if row < t.firstRow ∨ column < t.firstColumn then none
  else
    match t.rows[row - t.firstRow]? with
    | some cells => cells[column - t.firstColumn]?.filter (· ≠ missing)
    | none => none

/-- All characters, row by row. -/
def chars (t : Table) : List Char :=
  t.rows.toList.flatMap fun cells => cells.toList.filter (· ≠ missing)

end Table

/-! ## Runs -/

/-- Characters at consecutive places of a row. -/
structure Run where
  row : Nat
  column : Nat
  text : String
  deriving DecidableEq, Repr

namespace Run

/-- The character in a row and a column. -/
def char? (r : Run) (row column : Nat) : Option Char :=
  if row = r.row ∧ r.column ≤ column then r.text.toList[column - r.column]? else none

/-- The character in a row and a column of the first run that has one there. -/
def find? (runs : List Run) (row column : Nat) : Option Char :=
  runs.findSome? fun r => r.char? row column

end Run

/-! ## What a table lacks -/

/-- Which codes below 0x10000 some characters have. -/
def taken (chars : List Char) : Array Bool :=
  chars.foldl (fun marks c => marks.setIfInBounds c.toNat true) (Array.replicate 0x10000 false)

/-- The characters between two codes below 0x10000 that are not among some others, in
order. -/
def others (first last : Nat) (chars : List Char) : Array Char :=
  let marks := taken chars
  ((List.range' first (last + 1 - first)).filterMap fun code =>
    if marks[code]?.getD false || Text.CodePoint.isHalf code then none
    else some (Char.ofNat code)).toArray

end TapeMachine.Encoding.EastAsian
