/-
  A place in a YAML text.

  A cursor holds the text that is left and counts characters, lines and columns.  A
  line ends with a line feed, a carriage return, both, a next-line character or a
  Unicode line or paragraph separator.
-/
import TapeMachine.Yaml.Source

set_option autoImplicit false

namespace TapeMachine.Yaml

/-! ## Character classes -/

/-- Whether a character ends a line. -/
def isBreak (c : Char) : Bool :=
  c = '\n' || c = '\r' || c = '\u0085' || c = '\u2028' || c = '\u2029'

/-- Whether a character separates tokens: a space, a tab or a line end. -/
def isGap (c : Char) : Bool :=
  c = ' ' || c = '\t' || isBreak c

/-- Whether a line or the text ends here. -/
def endsLine (c : Option Char) : Bool :=
  match c with
  | none => true
  | some c => isBreak c

/-- Whether a token ends here: at a gap or at the end of the text. -/
def endsToken (c : Option Char) : Bool :=
  match c with
  | none => true
  | some c => isGap c

/-- Whether a space, a line end or the end of the text is here. -/
def endsWord (c : Option Char) : Bool :=
  match c with
  | none => true
  | some c => c = ' ' || isBreak c

/-- Whether a character belongs to the name of an anchor, a directive or a tag
handle. -/
def isNameChar (c : Char) : Bool :=
  c.isAlphanum || c = '-' || c = '_'

/-! ## Cursors -/

/-- A place in a text. -/
structure Cursor where
  rest : List Char
  index : Nat
  line : Nat
  column : Nat
  /-- What stops a reader behind the rest. -/
  obstacle : Option Error
  deriving Repr, Inhabited

namespace Cursor

/-- The start of a source. -/
def ofSource (source : Source) : Cursor := ⟨source.text, 0, 0, 0, source.obstacle⟩

/-- What is wrong when a reader does not find what it expects: an obstacle when one
stands in the way, a malformed document else. -/
def unexpected (c : Cursor) : Error :=
  if c.rest.isEmpty then c.obstacle.getD .malformed else .malformed

/-- Makes sure that some characters can be had, or else that the text ends in front of
them without an obstacle. -/
def require (c : Cursor) (count : Nat) : Except Error Unit :=
  match c.obstacle with
  | none => .ok ()
  | some e => if (c.rest.drop (count - 1)).isEmpty then .error e else .ok ()

/-- The character at the cursor. -/
def peek (c : Cursor) : Option Char := c.rest.head?

/-- The character some places behind the cursor. -/
def peekAt (c : Cursor) (distance : Nat) : Option Char := c.rest[distance]?

/-- Whether a character stands at the cursor. -/
def at? (c : Cursor) (char : Char) : Bool := c.peek == some char

/-- One character further. -/
def next (c : Cursor) : Cursor :=
  match c.rest with
  | [] => c
  | char :: rest =>
      let c := { c with rest, index := c.index + 1 }
      if isBreak char && !(char = '\r' && rest.head? == some '\n') then
        { c with line := c.line + 1, column := 0 }
      else if char = '\ufeff' then c
      else { c with column := c.column + 1 }

/-- Some characters further. -/
def skip : (count : Nat) → Cursor → Cursor
  | 0, c => c
  | count + 1, c => skip count c.next

/-- Past the characters of a class. -/
def skipWhile (c : Cursor) (inClass : Char → Bool) : Cursor :=
  c.skip (c.rest.takeWhile inClass).length

/-- The characters of a class at the cursor, and the place behind them. -/
def takeWhile (c : Cursor) (inClass : Char → Bool) : List Char × Cursor :=
  (c.rest.takeWhile inClass, c.skipWhile inClass)

/-- Past the spaces. -/
def skipSpaces (c : Cursor) : Cursor := c.skipWhile (· = ' ')

/-- Past the rest of the line. -/
def skipLine (c : Cursor) : Cursor := c.skipWhile fun char => !isBreak char

/-- The line end at the cursor as it is kept in a text, and the place behind it.  All
but the Unicode separators are kept as a line feed. -/
def takeBreak (c : Cursor) : List Char × Cursor :=
  match c.rest with
  | '\r' :: '\n' :: _ => (['\n'], c.skip 2)
  | '\r' :: _ => (['\n'], c.next)
  | '\n' :: _ => (['\n'], c.next)
  | '\u0085' :: _ => (['\n'], c.next)
  | '\u2028' :: _ => (['\u2028'], c.next)
  | '\u2029' :: _ => (['\u2029'], c.next)
  | _ => ([], c)

/-- Whether a mark between documents stands at the cursor. -/
def atSeparator (c : Cursor) : Bool :=
  match c.rest with
  | '-' :: '-' :: '-' :: rest => endsToken rest.head?
  | '.' :: '.' :: '.' :: rest => endsToken rest.head?
  | _ => false

/-- Past blanks and a comment to the next line; none when something else is left on
the line. -/
def finishLine? (c : Cursor) : Option Cursor :=
  let c := c.skipSpaces
  let c := if c.at? '#' then c.skipLine else c
  if endsLine c.peek then some c.takeBreak.2 else none

end Cursor

end TapeMachine.Yaml
