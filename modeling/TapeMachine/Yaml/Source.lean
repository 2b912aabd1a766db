/-
  Texts that are read piece by piece.

  The bytes of a document are turned into text in pieces of a fixed number of
  characters, and a document may hold only some characters.  A piece that cannot be had
  is an obstacle: it stops a reader that needs it, and nobody else.
-/
import TapeMachine.Encoding.Utf8
import TapeMachine.Text.Lines
import TapeMachine.Yaml.Error

set_option autoImplicit false

namespace TapeMachine.Yaml

/-- Whether a document may hold the character. -/
def isAllowed (c : Char) : Bool :=
  let code := c.toNat
  code == 0x09 || code == 0x0A || code == 0x0D || (0x20 ≤ code && code ≤ 0x7E) || code == 0x85 ||
    (0xA0 ≤ code && code ≤ 0xD7FF) || (0xE000 ≤ code && code ≤ 0xFFFD) || 0x10000 ≤ code

/-! ## Decoding in portions -/

/-- The state of decoding a file in portions. -/
structure Portions where
  /-- The bytes that are not decoded yet. -/
  bytes : List UInt8
  /-- The beginning of a character at the end of the last portion. -/
  unfinished : List UInt8 := []
  /-- Whether the last portion ended with a carriage return, whose line feed may
  follow. -/
  afterReturn : Bool := false
  /-- Characters that are decoded and not taken yet. -/
  ready : List Char := []
  /-- The numbers of bytes and of characters of the last portion. -/
  lastBytes : Nat := 0
  lastChars : Nat := 0

namespace Portions

/-- The least number of bytes of a portion. -/
def leastBytes : Nat := 8192

/-- The number of bytes of a portion when some characters are needed: as many as these
take when they are like those of the last portion. -/
def size (p : Portions) (needed : Nat) : Nat :=
  max leastBytes
    (if p.lastChars < p.lastBytes then p.lastBytes * needed / p.lastChars else needed)

/-- The text of a portion behind what the last one left over, and the beginning of a
character at its end. -/
def decode (bytes : List UInt8) (atEnd : Bool) :
    Except Encoding.DecodeError (List Char × List UInt8) :=
  match Encoding.Utf8.decode bytes with
  | .ok text => .ok (text, [])
  | .error e =>
      if !atEnd && e.reason = .unexpectedEnd then
        (Encoding.Utf8.decode (bytes.take e.start)).map fun text => (text, bytes.drop e.start)
      else .error e

/-- Decodes one portion more.  A carriage return at its end waits for what follows it. -/
def more (p : Portions) (needed : Nat) : Except Encoding.DecodeError Portions := do
  let size := p.size needed
  let portion := p.bytes.take size
  let (text, unfinished) ← decode (p.unfinished ++ portion) portion.isEmpty
  let text := if p.afterReturn then '\r' :: text else text
  let waits := !portion.isEmpty && text.getLast? = some '\r'
  let text := Text.unifyLines (if waits then text.dropLast else text)
  return {
    bytes := p.bytes.drop size
    unfinished
    afterReturn := waits
    ready := p.ready ++ text
    lastBytes := portion.length
    lastChars := text.length }

/-- Takes some characters, fewer at the end of the file. -/
def take : (fuel : Nat) → (count : Nat) → (done : List Char) → Portions →
    Except Encoding.DecodeError (List Char × Portions)
  | 0, _, done, p => .ok (done, p)
  | fuel + 1, count, done, p =>
      let found := p.ready.take count
      let rest := { p with ready := p.ready.drop count }
      if found.length = count then .ok (done ++ found, rest)
      else do
        let next ← rest.more (count - found.length)
        if p.bytes.isEmpty && next.ready.isEmpty then return (done ++ found, next)
        take fuel (count - found.length) (done ++ found) next

end Portions

/-! ## Sources -/

/-- A text, and what stops a reader that needs more of it. -/
structure Source where
  text : List Char
  obstacle : Option Error
  deriving Repr

namespace Source

/-- The number of characters of a piece. -/
def pieceSize : Nat := 4096

/-- A text without an obstacle. -/
def ofText (text : List Char) : Source := ⟨text, none⟩

/-- A source that gives nothing. -/
def blocked (error : Error) : Source := ⟨[], some error⟩

/-- A piece in front of a source: none when it has a character that is not allowed. -/
def prepend (piece : List Char) (rest : Source) : Source :=
  if piece.all isAllowed then { rest with text := piece ++ rest.text } else blocked .malformed

/-- The pieces behind the first two. -/
def further : (fuel : Nat) → Portions → Source
  | 0, _ => ofText []
  | fuel + 1, p =>
      match p.take (p.bytes.length + 3) pieceSize [] with
      | .error e => blocked (.undecodable e)
      | .ok ([], _) => ofText []
      | .ok (piece, p) => prepend piece (further fuel p)

/-- The text of a file.  The first two pieces are read as one. -/
def ofBytes (bytes : List UInt8) : Source :=
  let fuel := bytes.length + 3
  let first : Except Encoding.DecodeError (List Char × Portions) := do
    let (piece, p) ← Portions.take fuel pieceSize [] { bytes }
    let (second, p) ← p.take fuel pieceSize []
    return (piece ++ second, p)
  match first with
  | .error e => blocked (.undecodable e)
  | .ok (window, p) => prepend window (further fuel p)

end Source

end TapeMachine.Yaml
