/-
  Scalars of YAML as they are written.

  A scalar is plain, quoted or a block.  Line ends inside a scalar are folded: one
  line end becomes a space, and of several all but the first are kept.
-/
import TapeMachine.Text.Hex
import TapeMachine.Yaml.Cursor

set_option autoImplicit false

namespace TapeMachine.Yaml.Scalar

/-! ## Folding -/

/-- The text for a line end and the line ends that follow it. -/
def fold (first : List Char) (more : List Char) : List Char :=
  if first ≠ ['\n'] then first ++ more
  else if more.isEmpty then [' ']
  else more

/-! ## Plain scalars -/

/-- The number of characters that continue a plain scalar. -/
def plainLength (inFlow : Bool) : List Char → Nat
  | [] => 0
  | c :: rest =>
      let isFlowMark := fun c : Char => c = ',' || c = '[' || c = ']' || c = '\x7b' || c = '\x7d'
      let endsKey :=
        c = ':' && (endsToken rest.head? || (inFlow && rest.head?.any isFlowMark))
      if isGap c || endsKey || (inFlow && (c = '?' || isFlowMark c)) then 0
      else plainLength inFlow rest + 1

/-- Line ends and spaces in front of more of a plain scalar.  Nothing when a document
ends there. -/
def plainBreaks : (fuel : Nat) → (done : List Char) → Cursor → Option (List Char) × Cursor
  | 0, done, c => (some done, c)
  | fuel + 1, done, c =>
      if c.at? ' ' then plainBreaks fuel done c.next
      else
        match c.takeBreak with
        | ([], _) => (some done, c)
        | (line, c) => if c.atSeparator then (none, c) else plainBreaks fuel (done ++ line) c

/-- The gap behind a part of a plain scalar. -/
structure Gap where
  /-- The text that the gap stands for when the scalar goes on. -/
  text : List Char
  /-- Whether the gap has a line end. -/
  newLine : Bool
  cursor : Cursor

/-- Reads the gap behind a part of a plain scalar. -/
def plainGap (c : Cursor) : Gap :=
  let (spaces, c) := c.takeWhile (· = ' ')
  match c.takeBreak with
  | ([], _) => ⟨spaces, false, c⟩
  | (line, c) =>
      if c.atSeparator then ⟨[], true, c⟩
      else
        match plainBreaks c.rest.length [] c with
        | (none, c) => ⟨[], true, c⟩
        | (some more, c) => ⟨fold line more, true, c⟩

/-- A plain scalar, the place behind it, and whether a line end stands in between. -/
structure Plain where
  text : List Char
  newLine : Bool
  cursor : Cursor

/-- Reads a plain scalar.  `indent` is the least column of its further lines. -/
def plain (inFlow : Bool) (indent : Int) :
    (fuel : Nat) → (done gap : List Char) → (newLine : Bool) → Cursor → Plain
  | 0, done, _, newLine, c => ⟨done, newLine, c⟩
  | fuel + 1, done, gap, newLine, c =>
      let length := if c.at? '#' then 0 else plainLength inFlow c.rest
      if length = 0 then ⟨done, newLine, c⟩
      else
        let done := done ++ gap ++ c.rest.take length
        let behind := plainGap (c.skip length)
        if behind.text.isEmpty || behind.cursor.at? '#' ||
            (!inFlow && decide ((behind.cursor.column : Int) < indent)) then
          ⟨done, behind.newLine, behind.cursor⟩
        else plain inFlow indent fuel done behind.text behind.newLine behind.cursor

/-! ## Quoted scalars -/

/-- The character of a one-letter escape. -/
def escape? (c : Char) : Option Char :=
  [('0', '\x00'), ('a', '\x07'), ('b', '\x08'), ('t', '\t'), ('\t', '\t'), ('n', '\n'),
   ('v', '\x0b'), ('f', '\x0c'), ('r', '\r'), ('e', '\x1b'), (' ', ' '), ('\x22', '\x22'),
   ('\\', '\\'), ('/', '/'), ('N', '\u0085'), ('_', '\u00a0'), ('L', '\u2028'),
   ('P', '\u2029')].lookup c

/-- The number of hexadecimal digits of an escape by code point. -/
def escapeWidth? (c : Char) : Option Nat :=
  [('x', 2), ('u', 4), ('U', 8)].lookup c

/-- Blank lines inside a quoted scalar, and the line ends that they keep. -/
def quotedBreaks : (fuel : Nat) → (done : List Char) → Cursor → Except Error (List Char × Cursor)
  | 0, done, c => .ok (done, c)
  | fuel + 1, done, c =>
      if c.atSeparator then .error .malformed
      else
        let c := c.skipWhile fun char => char = ' ' || char = '\t'
        match c.takeBreak with
        | ([], _) => .ok (done, c)
        | (line, c) => quotedBreaks fuel (done ++ line) c

/-- An escape behind its backslash. -/
def escaped (c : Cursor) : Except Error (Text.Codes × Cursor) :=
  match c.peek with
  | none => .error c.unexpected
  | some char =>
      match escape? char, escapeWidth? char with
      | some replacement, _ => .ok ([.char replacement], c.next)
      | none, some width =>
          let digits := c.next.rest.take width
          match Text.hexNumber? digits with
          | some code =>
              if digits.length ≠ width then .error (c.next.skip digits.length).unexpected
              else if 0x10FFFF < code then .error (.characterCode code)
              else .ok ([.ofNat code], c.next.skip width)
          | none => .error .malformed
      | none, none =>
          match c.takeBreak with
          | ([], _) => .error .malformed
          | (_, c) => (quotedBreaks c.rest.length [] c).map fun (text, c) => (text.map .char, c)

/-- Whether a character is copied as it stands inside quotes. -/
def isLiteral (c : Char) : Bool :=
  !(c = '\x27' || c = '\x22' || c = '\\' || isGap c)

/-- A gap inside a quoted scalar. -/
def quotedGap (c : Cursor) : Except Error (List Char × Cursor) :=
  let (spaces, c) := c.takeWhile fun char => char = ' ' || char = '\t'
  match c.peek with
  | none => .error c.unexpected
  | some _ =>
      match c.takeBreak with
      | ([], _) => .ok (spaces, c)
      | (line, c) => (quotedBreaks c.rest.length [] c).map fun (more, c) => (fold line more, c)

/-- Reads a quoted scalar behind its opening quote, to behind the closing one. -/
def quoted (quote : Char) :
    (fuel : Nat) → (done : Text.Codes) → Cursor →
      Except Error (Text.Codes × Cursor)
  | 0, _, _ => .error .malformed
  | fuel + 1, done, c =>
      match c.peek with
      | none => .error c.unexpected
      | some char =>
          if char = '\x27' ∧ quote = '\x27' ∧ c.peekAt 1 = some '\x27' then
            quoted quote fuel (done ++ [.char '\x27']) (c.skip 2)
          else if char = quote then .ok (done, c.next)
          else if char = '\\' ∧ quote = '\x22' then
            match escaped c.next with
            | .error e => .error e
            | .ok (text, c) => quoted quote fuel (done ++ text) c
          else if char = '\x27' ∨ char = '\x22' ∨ char = '\\' then
            quoted quote fuel (done ++ [.char char]) c.next
          else if isGap char then
            match quotedGap c with
            | .error e => .error e
            | .ok (text, c) => quoted quote fuel (done ++ text.map .char) c
          else
            let (text, c) := c.takeWhile isLiteral
            quoted quote fuel (done ++ text.map .char) c

/-! ## Block scalars -/

/-- What is done with the line ends at the end of a block scalar. -/
inductive Chomping where
  /-- One is kept. -/
  | clip
  /-- None is kept. -/
  | strip
  /-- All are kept. -/
  | keep
  deriving DecidableEq, Repr

/-- The chomping that an indicator asks for. -/
def chomping? (c : Option Char) : Option Chomping :=
  if c = some '+' then some .keep else if c = some '-' then some .strip else none

/-- The indentation that an indicator asks for. -/
def increment? (c : Option Char) : Option Nat :=
  match c with
  | some char => if char.isDigit then some (char.toNat - 48) else none
  | none => none

/-- The indicators in the first line of a block scalar, in either order. -/
def indicators (c : Cursor) : Except Error (Chomping × Option Nat × Cursor) := do
  let (chomping, increment, c) :=
    match chomping? c.peek with
    | some chomping =>
        match increment? c.next.peek with
        | some increment => (chomping, some increment, c.next.next)
        | none => (chomping, none, c.next)
    | none =>
        match increment? c.peek with
        | some increment =>
            match chomping? c.next.peek with
            | some chomping => (chomping, some increment, c.next.next)
            | none => (.clip, some increment, c.next)
        | none => (.clip, none, c)
  if increment = some 0 then throw .malformed
  if !endsWord c.peek then throw .malformed
  match c.finishLine? with
  | some c => return (chomping, increment, c)
  | none => throw .malformed

/-- Blank lines in front of a block scalar, and the greatest column of a blank. -/
def blockIndentation :
    (fuel : Nat) → (done : List Char) → (deepest : Nat) → Cursor → List Char × Nat × Cursor
  | 0, done, deepest, c => (done, deepest, c)
  | fuel + 1, done, deepest, c =>
      if c.at? ' ' then blockIndentation fuel done (max deepest c.next.column) c.next
      else
        match c.takeBreak with
        | ([], _) => (done, deepest, c)
        | (line, c) => blockIndentation fuel (done ++ line) deepest c

/-- Past spaces up to a column. -/
def indentTo (column : Int) : (fuel : Nat) → Cursor → Cursor
  | 0, c => c
  | fuel + 1, c =>
      if (c.column : Int) < column ∧ c.at? ' ' then indentTo column fuel c.next else c

/-- Blank lines inside a block scalar. -/
def blockBreaks (column : Int) : (fuel : Nat) → (done : List Char) → Cursor → List Char × Cursor
  | 0, done, c => (done, c)
  | fuel + 1, done, c =>
      let c := indentTo column c.rest.length c
      match c.takeBreak with
      | ([], _) => (done, c)
      | (line, c) => blockBreaks column fuel (done ++ line) c

/-- The lines of a block scalar: its text, the last line end and the blank lines
behind it. -/
structure Lines where
  text : List Char
  lastBreak : List Char
  breaks : List Char
  cursor : Cursor

/-- Reads the lines of a block scalar. -/
def blockLines (folded : Bool) (column : Int) :
    (fuel : Nat) → (done breaks lastBreak : List Char) → Cursor → Lines
  | 0, done, breaks, lastBreak, c => ⟨done, lastBreak, breaks, c⟩
  | fuel + 1, done, breaks, lastBreak, c =>
      if (c.column : Int) = column ∧ c.peek.isSome then
        let isBlank := fun c : Cursor => c.at? ' ' || c.at? '\t'
        let startsBlank := isBlank c
        let (text, c) := c.takeWhile fun char => !isBreak char
        let done := done ++ breaks ++ text
        let (line, c) := c.takeBreak
        let (breaks, c) := blockBreaks column (c.rest.length + 1) [] c
        if (c.column : Int) = column ∧ c.peek.isSome then
          let joint :=
            if folded && line == ['\n'] && !startsBlank && !isBlank c then
              if breaks.isEmpty then [' '] else []
            else line
          blockLines folded column fuel (done ++ joint) breaks line c
        else ⟨done, line, breaks, c⟩
      else ⟨done, lastBreak, breaks, c⟩

/-- Reads a block scalar behind its first indicator.  `indent` is the column of the
block around it. -/
def block (folded : Bool) (indent : Int) (c : Cursor) : Except Error (List Char × Cursor) := do
  let (chomping, increment, c) ← indicators c
  let least := max (indent + 1) 1
  let (column, breaks, c) :=
    match increment with
    | some increment =>
        let column := least + increment - 1
        let (breaks, c) := blockBreaks column (c.rest.length + 1) [] c
        (column, breaks, c)
    | none =>
        let (breaks, deepest, c) := blockIndentation c.rest.length [] 0 c
        (max least deepest, breaks, c)
  let lines := blockLines folded column (c.rest.length + 1) [] breaks [] c
  let text :=
    match chomping with
    | .strip => lines.text
    | .clip => lines.text ++ lines.lastBreak
    | .keep => lines.text ++ lines.lastBreak ++ lines.breaks
  return (text, lines.cursor)

end TapeMachine.Yaml.Scalar
