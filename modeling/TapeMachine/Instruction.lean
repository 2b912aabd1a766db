/-
  The instruction set.

  Source text has eight command symbols; every other character is a comment.  Main
  statements: reading the symbols of written instructions gives them back, and
  reading is compatible with putting texts together.
-/
set_option autoImplicit false

namespace TapeMachine

/-- An instruction of the machine. -/
inductive Instruction where
  /-- Move the pointer one cell to the right. -/
  | moveRight
  /-- Move the pointer one cell to the left. -/
  | moveLeft
  /-- Add one to the current cell. -/
  | increment
  /-- Take one from the current cell. -/
  | decrement
  /-- Write the current cell to the port. -/
  | output
  /-- Read a byte from the port into the current cell. -/
  | input
  /-- Go past the end of the loop when the current cell is zero. -/
  | loopOpen
  /-- Go back to the start of the loop when the current cell is not zero. -/
  | loopClose
  deriving DecidableEq, Repr, Inhabited

namespace Instruction

/-! ## Symbols -/

/-- The command symbol of an instruction. -/
def symbol : Instruction → Char
  | moveRight => '>'
  | moveLeft => '<'
  | increment => '+'
  | decrement => '-'
  | output => '.'
  | input => ','
  | loopOpen => '['
  | loopClose => ']'

/-- The instruction of a command symbol; other characters have none. -/
def ofSymbol? (c : Char) : Option Instruction :=
  if c = '>' then some moveRight
  else if c = '<' then some moveLeft
  else if c = '+' then some increment
  else if c = '-' then some decrement
  else if c = '.' then some output
  else if c = ',' then some input
  else if c = '[' then some loopOpen
  else if c = ']' then some loopClose
  else none

/-- Whether a character is a command symbol. -/
def isSymbol (c : Char) : Bool := (ofSymbol? c).isSome

theorem ofSymbol?_symbol (i : Instruction) : ofSymbol? i.symbol = some i := by
  cases i <;> decide

theorem symbol_of_ofSymbol? {c : Char} {i : Instruction} (h : ofSymbol? c = some i) :
    i.symbol = c := by
  unfold ofSymbol? at h
  split at h
  · cases h; simp_all [symbol]
  split at h
  · cases h; simp_all [symbol]
  split at h
  · cases h; simp_all [symbol]
  split at h
  · cases h; simp_all [symbol]
  split at h
  · cases h; simp_all [symbol]
  split at h
  · cases h; simp_all [symbol]
  split at h
  · cases h; simp_all [symbol]
  split at h
  · cases h; simp_all [symbol]
  · simp at h

/-! ## Reading and writing -/

/-- The instructions of a source text, in order. -/
def lexChars (source : List Char) : List Instruction :=
  source.filterMap ofSymbol?

/-- The instructions of a source text, in order. -/
def lex (source : String) : List Instruction :=
  lexChars source.toList

/-- The command symbols of instructions, without comments. -/
def render (instructions : List Instruction) : String :=
  String.ofList (instructions.map symbol)

theorem lexChars_append (left right : List Char) :
    lexChars (left ++ right) = lexChars left ++ lexChars right := by
  simp [lexChars]

theorem lexChars_map_symbol (instructions : List Instruction) :
    lexChars (instructions.map symbol) = instructions := by
  induction instructions with
  | nil => rfl
  | cons i rest ih =>
      rw [lexChars, List.map_cons, List.filterMap_cons_some (ofSymbol?_symbol i)]
      exact congrArg (i :: ·) ih

theorem lex_render (instructions : List Instruction) :
    lex (render instructions) = instructions := by
  simp [lex, render, lexChars_map_symbol]

theorem map_symbol_lexChars (source : List Char) :
    (lexChars source).map symbol = source.filter isSymbol := by
  induction source with
  | nil => rfl
  | cons c rest ih =>
      cases h : ofSymbol? c with
      | none => simpa [lexChars, isSymbol, h] using ih
      | some i =>
          have hc : i.symbol = c := symbol_of_ofSymbol? h
          simpa [lexChars, isSymbol, h, hc] using ih

end Instruction

end TapeMachine
