/-
  Reading the tokens of a YAML text.

  Indentation decides where blocks begin and end, except inside brackets.  A scalar,
  a bracketed collection or a reference may turn out to be a key when a colon follows
  it on the same line; so the place of each possible key is remembered, and the token
  in front of it is put in afterwards.
-/
import TapeMachine.Yaml.Scalar
import TapeMachine.Yaml.Token

set_option autoImplicit false

namespace TapeMachine.Yaml

/-! ## State -/

/-- The place of a token that may be a key. -/
structure PossibleKey where
  /-- The number of tokens in front of it. -/
  position : Nat
  /-- Whether nothing but a key may stand there. -/
  required : Bool
  index : Nat
  line : Nat
  column : Nat
  deriving Repr, Inhabited

/-- The state of reading tokens. -/
structure Lexer where
  cursor : Cursor
  /-- The tokens read so far. -/
  tokens : Array Token
  /-- The possible keys by depth of brackets: one for each open bracket and one for
  the block around them, the innermost first. -/
  keys : List (Option PossibleKey)
  /-- The column of the innermost block. -/
  indent : Int
  /-- The columns of the blocks around it, the innermost first. -/
  indents : List Int
  /-- Whether a key may begin here. -/
  allowKey : Bool
  deriving Inhabited

namespace Lexer

/-- The start of a source. -/
def ofSource (source : Source) : Lexer :=
  ⟨Cursor.ofSource source, #[], [none], -1, [], true⟩

/-- Whether the place is inside brackets. -/
def inFlow (l : Lexer) : Bool := 1 < l.keys.length

/-- Appends a token. -/
def emit (l : Lexer) (token : Token) : Lexer :=
  { l with tokens := l.tokens.push token }

/-- Moves on by some characters. -/
def forward (l : Lexer) (count : Nat) : Lexer :=
  { l with cursor := l.cursor.skip count }

/-! ## Indentation -/

/-- The block ends for leaving all blocks deeper than a column. -/
def unwindFrom (column : Int) :
    (indent : Int) → List Int → Array Token → Int × List Int × Array Token
  | indent, [], tokens => (indent, [], tokens)
  | indent, outer :: indents, tokens =>
      if column < indent then unwindFrom column outer indents (tokens.push .blockEnd)
      else (indent, outer :: indents, tokens)

/-- Leaves all blocks deeper than a column; inside brackets indentation means
nothing. -/
def unwind (l : Lexer) (column : Int) : Lexer :=
  if l.inFlow then l
  else
    let (indent, indents, tokens) := unwindFrom column l.indent l.indents l.tokens
    { l with indent, indents, tokens }

/-- Whether a block that begins at a column is deeper than the innermost one. -/
def deepens (l : Lexer) (column : Nat) : Bool := decide (l.indent < column)

/-- Enters a block at a column. -/
def enter (l : Lexer) (column : Nat) : Lexer :=
  { l with indents := l.indent :: l.indents, indent := column }

/-- Enters a block at the cursor when it is deeper than the innermost one. -/
def enterHere (l : Lexer) (token : Token) : Lexer :=
  let column := l.cursor.column
  if l.deepens column then (l.enter column).emit token else l

/-! ## Possible keys -/

/-- The possible key at the present depth. -/
def currentKey (l : Lexer) : Option PossibleKey := l.keys.head?.join

/-- Sets the possible key at the present depth. -/
def setKey (l : Lexer) (key : Option PossibleKey) : Lexer :=
  { l with keys := key :: l.keys.drop 1 }

/-- Gives the possible key at the present depth up. -/
def dropKey (l : Lexer) : Except Error Lexer :=
  match l.currentKey with
  | none => .ok l
  | some key => if key.required then .error .malformed else .ok (l.setKey none)

/-- Remembers the place as a possible key. -/
def saveKey (l : Lexer) : Except Error Lexer :=
  if l.allowKey then do
    let l ← l.dropKey
    let required := !l.inFlow && decide (l.indent = l.cursor.column)
    return l.setKey (some
      ⟨l.tokens.size, required, l.cursor.index, l.cursor.line, l.cursor.column⟩)
  else .ok l

/-- The greatest number of characters of a key in front of its colon. -/
def keyLimit : Nat := 1024

/-- Whether a place is too far behind a possible key: on another line, or too many
characters further. -/
def isStale (c : Cursor) (key : PossibleKey) : Bool :=
  key.line != c.line || keyLimit < c.index - key.index

/-- Gives up the possible keys that are too far behind. -/
def dropStale (l : Lexer) : Except Error Lexer :=
  let stale := fun key : Option PossibleKey => key.any (isStale l.cursor)
  if l.keys.any fun key => stale key && key.any (·.required) then .error .malformed
  else .ok { l with keys := l.keys.map fun key => if stale key then none else key }

/-! ## Gaps -/

/-- Past spaces, comments and line ends to the next token.  After a line end a key may
begin, except inside brackets. -/
def toNextToken : (fuel : Nat) → Lexer → Lexer
  | 0, l => l
  | fuel + 1, l =>
      let c := l.cursor.skipSpaces
      let c := if c.at? '#' then c.skipLine else c
      match c.takeBreak with
      | ([], _) => { l with cursor := c }
      | (_, c) =>
          toNextToken fuel { l with cursor := c, allowKey := if l.inFlow then l.allowKey else true }

/-- Past a byte order mark at the start of the text. -/
def skipMark (l : Lexer) : Lexer :=
  if l.cursor.index == 0 && l.cursor.at? '\ufeff' then l.forward 1 else l

/-! ## Directives, anchors and tags -/

/-- A run of decimal digits; at least one is needed. -/
def number (c : Cursor) : Except Error (Nat × Cursor) :=
  match c.takeWhile Char.isDigit with
  | ([], _) => .error c.unexpected
  | (digits, c) => .ok (digits.foldl (fun value d => value * 10 + (d.toNat - 48)) 0, c)

/-- A name of letters, digits, hyphens and underscores; at least one is needed. -/
def name (c : Cursor) : Except Error (String × Cursor) :=
  match c.takeWhile isNameChar with
  | ([], _) => .error c.unexpected
  | (letters, c) => .ok (String.ofList letters, c)

/-- A tag handle, from its first exclamation mark on. -/
def handle (c : Cursor) : Except Error (String × Cursor) :=
  if !c.at? '!' then .error c.unexpected
  else if c.next.at? ' ' then .ok ("!", c.next)
  else
    match c.next.takeWhile isNameChar with
    | (letters, c) =>
        if !c.at? '!' then .error c.unexpected
        else .ok (String.ofList ('!' :: (letters ++ ['!'])), c.next)

/-- Whether a character may stand in a tag without an escape. -/
def isTagChar (c : Char) : Bool :=
  c.isAlphanum || "-;/?:@&=+$,_.!~*\x27()[]".toList.contains c

/-- The bytes of escapes, two hexadecimal digits each behind a percent sign. -/
def escapedBytes : (fuel : Nat) → (done : List UInt8) → Cursor → Except Error (List UInt8 × Cursor)
  | 0, done, c => .ok (done, c)
  | fuel + 1, done, c =>
      if c.at? '%' then
        match c.next.peek, c.next.peekAt 1 with
        | some a, some b =>
            match Text.hexNumber? [a, b] with
            | some byte => escapedBytes fuel (done ++ [UInt8.ofNat byte]) (c.skip 3)
            | none => .error .malformed
        | _, _ => .error (c.skip c.rest.length).unexpected
      else .ok (done, c)

/-- The characters of a tag. -/
def tagChars : (fuel : Nat) → (done : List Char) → Cursor → Except Error (List Char × Cursor)
  | 0, done, c => .ok (done, c)
  | fuel + 1, done, c =>
      match c.peek with
      | none => .ok (done, c)
      | some char =>
          if char = '%' then
            match escapedBytes c.rest.length [] c with
            | .error e => .error e
            | .ok (bytes, c) =>
                match Encoding.Utf8.decode bytes with
                | .ok text => tagChars fuel (done ++ text) c
                | .error _ => .error .malformed
          else if isTagChar char then tagChars fuel (done ++ [char]) c.next
          else .ok (done, c)

/-- The body of a tag; at least one character is needed. -/
def tagBody (c : Cursor) : Except Error (String × Cursor) :=
  match tagChars c.rest.length [] c with
  | .error e => .error e
  | .ok ([], c) => .error c.unexpected
  | .ok (text, c) => .ok (String.ofList text, c)

/-- A directive behind its percent sign. -/
def directive (c : Cursor) : Except Error (Directive × Cursor) := do
  let (kind, c) ← name c
  if !endsWord c.peek then throw c.unexpected
  let (directive, c) ←
    if kind == "YAML" then do
      let (major, c) ← number c.skipSpaces
      if !c.at? '.' then throw c.unexpected
      let (_, c) ← number c.next
      if !endsWord c.peek then throw c.unexpected
      pure (Directive.version major, c)
    else if kind == "TAG" then do
      let (handle, c) ← handle c.skipSpaces
      if !c.at? ' ' then throw c.unexpected
      let (body, c) ← tagBody c.skipSpaces
      if !endsWord c.peek then throw c.unexpected
      pure (Directive.handle handle body, c)
    else pure (Directive.other, c.skipLine)
  match c.finishLine? with
  | some c => return (directive, c)
  | none => throw .malformed

/-- The name of an anchor or a reference, behind its mark. -/
def anchorName (c : Cursor) : Except Error (String × Cursor) := do
  let (text, c) ← name c
  if endsToken c.peek || c.peek.any "?:,]\x7d%@\x60".toList.contains then return (text, c)
  else throw c.unexpected

/-- A tag, from its exclamation mark on. -/
def tag (c : Cursor) : Except Error (Token × Cursor) := do
  let (token, c) ←
    if c.next.at? '<' then do
      let (body, c) ← tagBody (c.skip 2)
      if !c.at? '>' then throw c.unexpected
      pure (Token.tag none body, c.next)
    else if endsToken c.next.peek then pure (Token.tag none "!", c.next)
    else if (c.next.rest.takeWhile fun char => !endsWord (some char)).contains '!' then do
      let (handle, c) ← handle c
      let (body, c) ← tagBody c
      pure (Token.tag (some handle) body, c)
    else do
      let (body, c) ← tagBody c.next
      pure (Token.tag (some "!") body, c)
  if endsWord c.peek then return (token, c) else throw c.unexpected

/-! ## Tokens -/

/-- Ends all blocks in front of a mark between documents or a directive. -/
def closeBlocks (l : Lexer) : Except Error Lexer := do
  let l ← (l.unwind (-1)).dropKey
  return { l with allowKey := false }

/-- A bracket opens. -/
def openFlow (l : Lexer) (token : Token) : Except Error Lexer := do
  let l ← l.saveKey
  return { ((l.emit token).forward 1) with keys := none :: l.keys, allowKey := true }

/-- A bracket closes. -/
def closeFlow (l : Lexer) (token : Token) : Except Error Lexer := do
  let l ← l.dropKey
  if !l.inFlow then throw .malformed
  return { ((l.emit token).forward 1) with keys := l.keys.drop 1, allowKey := false }

/-- A comma. -/
def flowEntry (l : Lexer) : Except Error Lexer := do
  let l ← { l with allowKey := true }.dropKey
  return (l.emit .flowEntry).forward 1

/-- A hyphen in front of an item. -/
def blockEntry (l : Lexer) : Except Error Lexer := do
  if !l.inFlow && !l.allowKey then throw .malformed
  let l := if l.inFlow then l else l.enterHere .blockSequenceStart
  let l ← { l with allowKey := true }.dropKey
  return (l.emit .blockEntry).forward 1

/-- A question mark in front of a key. -/
def explicitKey (l : Lexer) : Except Error Lexer := do
  if !l.inFlow && !l.allowKey then throw .malformed
  let l := if l.inFlow then l else l.enterHere .blockMappingStart
  let l ← { l with allowKey := !l.inFlow }.dropKey
  return (l.emit .key).forward 1

/-- A colon in front of a value.  When a possible key is there, the token in front of
it is put in, and a block that begins with it. -/
def valueMark (l : Lexer) : Except Error Lexer :=
  match l.currentKey with
  | some key =>
      let l := l.setKey none
      let l := { l with tokens := l.tokens.insertIdxIfInBounds key.position .key }
      let l :=
        if !l.inFlow && l.deepens key.column then
          let l := l.enter key.column
          { l with tokens := l.tokens.insertIdxIfInBounds key.position .blockMappingStart }
        else l
      .ok (({ l with allowKey := false }.emit .value).forward 1)
  | none => do
      if !l.inFlow && !l.allowKey then throw .malformed
      let l := if l.inFlow then l else l.enterHere .blockMappingStart
      let l ← { l with allowKey := !l.inFlow }.dropKey
      return (l.emit .value).forward 1

/-- A token that may be a key, read by the given function. -/
def keyToken (l : Lexer) (read : Cursor → Except Error (Token × Cursor)) : Except Error Lexer := do
  let l ← l.saveKey
  let (token, cursor) ← read l.cursor
  return { l.emit token with cursor, allowKey := false }

/-- A quoted scalar. -/
def quotedToken (l : Lexer) (quote : Char) : Except Error Lexer :=
  l.keyToken fun c =>
    (Scalar.quoted quote (c.rest.length + 1) [] c.next).map fun (text, c) =>
      (Token.scalar text false, c)

/-- A block scalar. -/
def blockToken (l : Lexer) (folded : Bool) : Except Error Lexer := do
  let l ← { l with allowKey := true }.dropKey
  let (text, cursor) ← Scalar.block folded l.indent l.cursor.next
  return { l.emit (.scalar (text.map .char) false) with cursor }

/-- A plain scalar.  When a line end follows it, a key may begin behind it. -/
def plainToken (l : Lexer) : Except Error Lexer := do
  let l ← l.saveKey
  let plain := Scalar.plain l.inFlow (l.indent + 1) (l.cursor.rest.length + 1) [] [] false l.cursor
  return { l.emit (.scalar (plain.text.map .char) true) with
    cursor := plain.cursor
    allowKey := plain.newLine }

/-- Whether a plain scalar may begin with a character in front of another one. -/
def startsPlain (inFlow : Bool) (char : Char) (following : Option Char) : Bool :=
  !(isGap char || "-?:,[]\x7b\x7d#&*!|>\x27\x22%@\x60".toList.contains char) ||
    (!endsToken following && (char = '-' || (!inFlow && (char = '?' || char = ':'))))

/-- Reads the token that begins with a character at the cursor. -/
def dispatch (l : Lexer) (char : Char) : Except Error Lexer :=
  let c := l.cursor
  let following := c.peekAt 1
  if char = '%' ∧ c.column = 0 then do
    let l ← l.closeBlocks
    let (directive, cursor) ← directive l.cursor.next
    return { l.emit (.directive directive) with cursor }
  else if c.column = 0 ∧ c.atSeparator then do
    let l ← l.closeBlocks
    return (l.emit (if char = '-' then .documentStart else .documentEnd)).forward 3
  else if char = '[' then l.openFlow .flowSequenceStart
  else if char = '\x7b' then l.openFlow .flowMappingStart
  else if char = ']' then l.closeFlow .flowSequenceEnd
  else if char = '\x7d' then l.closeFlow .flowMappingEnd
  else if char = ',' then l.flowEntry
  else if char = '-' ∧ endsToken following then l.blockEntry
  else if char = '?' ∧ (l.inFlow ∨ endsToken following) then l.explicitKey
  else if char = ':' ∧ (l.inFlow ∨ endsToken following) then l.valueMark
  else if char = '*' then
    l.keyToken fun c => (anchorName c.next).map fun (name, c) => (.reference name, c)
  else if char = '&' then
    l.keyToken fun c => (anchorName c.next).map fun (name, c) => (.anchor name, c)
  else if char = '!' then l.keyToken tag
  else if char = '|' ∧ !l.inFlow then l.blockToken false
  else if char = '>' ∧ !l.inFlow then l.blockToken true
  else if char = '\x27' ∨ char = '\x22' then l.quotedToken char
  else if startsPlain l.inFlow char following then l.plainToken
  else .error .malformed

/-- Makes sure that the text ends at the cursor when nothing is left there. -/
def checkEnd (l : Lexer) : Except Error Lexer :=
  match l.cursor.require 1 with
  | .ok () => .ok l
  | .error e => .error e

/-- Reads on for the next tokens; nothing when the text ends. -/
def fetch (l : Lexer) : Except Error (Option Lexer) := do
  let l ← (toNextToken (l.cursor.rest.length + 1) l.skipMark).checkEnd
  let l ← l.dropStale
  let l := l.unwind l.cursor.column
  match l.cursor.peek with
  | none => return none
  | some char =>
      l.cursor.require 2
      return some (← (← l.dispatch char).checkEnd)

/-- Ends all blocks at the end of the text. -/
def finish (l : Lexer) : Except Error Lexer := do
  let l ← l.dropStale
  (l.unwind (-1)).dropKey

/-- The number of tokens in front of the first one that may turn out to be a key. -/
def settled (l : Lexer) : Nat :=
  l.keys.foldl
    (fun least key =>
      match key with
      | some key => min least key.position
      | none => least)
    l.tokens.size

/-- The tokens that are told apart before reading on, and the failure of that. -/
def failing (l : Lexer) (error : Error) : List Token :=
  l.tokens.toList.take l.settled ++ [.fault error]

/-- Reads tokens up to the end of the text, or to a failure. -/
def run : (fuel : Nat) → Lexer → List Token
  | 0, l => l.failing .malformed
  | fuel + 1, l =>
      match l.dropStale with
      | .error e => l.failing e
      | .ok l =>
          match l.fetch with
          | .error e => l.failing e
          | .ok (some l) => run fuel l
          | .ok none =>
              match l.finish with
              | .error e => l.failing e
              | .ok l => l.tokens.toList

end Lexer

/-- The tokens of a source. -/
def tokens (source : Source) : List Token :=
  Lexer.run (source.text.length + 1) (Lexer.ofSource source)

end TapeMachine.Yaml
