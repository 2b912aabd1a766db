/-
  Tokens of YAML.

  Tokens are read only as far as they are needed.  Where reading them fails, the failure
  stands among the tokens, and counts when a reader comes to it.
-/
import TapeMachine.Yaml.Error

set_option autoImplicit false

namespace TapeMachine.Yaml

/-- A directive in front of a document. -/
inductive Directive where
  /-- The major version of the language. -/
  | version (major : Nat)
  /-- What a tag handle stands for. -/
  | handle (handle expansion : String)
  /-- A directive without meaning here. -/
  | other
  deriving DecidableEq, Repr, Inhabited

/-- A token.  Blocks have tokens for their start and end, which indentation decides. -/
inductive Token where
  /-- A directive. -/
  | directive (directive : Directive)
  /-- The mark in front of a document. -/
  | documentStart
  /-- The mark behind a document. -/
  | documentEnd
  /-- An indented sequence begins. -/
  | blockSequenceStart
  /-- An indented mapping begins. -/
  | blockMappingStart
  /-- An indented sequence or mapping ends. -/
  | blockEnd
  /-- A bracketed sequence begins. -/
  | flowSequenceStart
  /-- A bracketed sequence ends. -/
  | flowSequenceEnd
  /-- A bracketed mapping begins. -/
  | flowMappingStart
  /-- A bracketed mapping ends. -/
  | flowMappingEnd
  /-- An item of an indented sequence follows. -/
  | blockEntry
  /-- The comma between bracketed items. -/
  | flowEntry
  /-- A key follows. -/
  | key
  /-- A value follows. -/
  | value
  /-- A reference to an anchored node. -/
  | reference (name : String)
  /-- An anchor for the next node. -/
  | anchor (name : String)
  /-- A tag for the next node; a verbatim tag has no handle. -/
  | tag (handle : Option String) (suffix : String)
  /-- A scalar; `plain` when it is not quoted. -/
  | scalar (text : Text.Codes) (plain : Bool)
  /-- Nothing can be read from here on. -/
  | fault (error : Error)
  deriving DecidableEq, Repr, Inhabited

end TapeMachine.Yaml
