/-
  Nodes of a YAML document.

  A node is a scalar, a sequence or a mapping, with a tag that says what it is meant
  to be.  The nodes of a document are numbered, and refer to one another by number; so
  a node may be referred to from several places, its own inside included.
-/
import TapeMachine.Yaml.Plain
import TapeMachine.Yaml.Token

set_option autoImplicit false

namespace TapeMachine.Yaml

/-- A node. -/
inductive Node where
  /-- A scalar. -/
  | scalar (tag : Tag) (text : Text.Codes)
  /-- A sequence. -/
  | sequence (tag : Tag) (items : List Nat)
  /-- A mapping. -/
  | mapping (tag : Tag) (entries : List (Nat × Nat))
  deriving DecidableEq, Repr, Inhabited

namespace Node

/-- The tag of a node. -/
def tag : Node → Tag
  | scalar tag _ => tag
  | sequence tag _ => tag
  | mapping tag _ => tag

/-- The node with another tag. -/
def withTag (node : Node) (tag : Tag) : Node :=
  match node with
  | scalar _ text => scalar tag text
  | sequence _ items => sequence tag items
  | mapping _ entries => mapping tag entries

/-- The entries of a mapping; other nodes have none. -/
def entries : Node → List (Nat × Nat)
  | mapping _ entries => entries
  | _ => []

/-- The node that stands where nothing is written. -/
def nothing : Node := scalar .null []

end Node

/-! ## Reading -/

/-- The state of reading nodes: the tokens that are left, the nodes read so far, the
numbers of the anchored ones, and what the tag handles stand for. -/
structure Reader where
  tokens : List Token
  nodes : Array Node
  anchors : List (String × Nat)
  handles : List (String × String)

namespace Reader

/-- The reader behind the first token. -/
def advance (r : Reader) : Reader := { r with tokens := r.tokens.drop 1 }

/-- What is wrong when the tokens are not as expected: a failure that comes next, or a
malformed document. -/
def unexpected (tokens : List Token) : Error :=
  match tokens with
  | .fault error :: _ => error
  | _ => .malformed

/-- Makes sure that the next token is no failure. -/
def checkNext (tokens : List Token) : Except Error Unit :=
  match tokens with
  | .fault error :: _ => .error error
  | _ => .ok ()

/-- Adds a node: its number, and the reader with it. -/
def add (r : Reader) (node : Node) : Nat × Reader :=
  (r.nodes.size, { r with nodes := r.nodes.push node })

/-- Gives a number a node. -/
def put (r : Reader) (number : Nat) (node : Node) : Reader :=
  { r with nodes := r.nodes.setIfInBounds number node }

/-! ### Properties of nodes -/

/-- What stands in front of a node: an anchor and a tag, in either order. -/
structure Properties where
  anchor : Option String := none
  tag : Option (Option String × String) := none

/-- Reads what stands in front of a node.  Behind one property a second one is looked
for. -/
def properties (tokens : List Token) : Except Error (Properties × List Token) :=
  match tokens with
  | .anchor name :: .tag handle suffix :: rest =>
      .ok ({ anchor := some name, tag := some (handle, suffix) }, rest)
  | .tag handle suffix :: .anchor name :: rest =>
      .ok ({ anchor := some name, tag := some (handle, suffix) }, rest)
  | .anchor name :: rest => (checkNext rest).map fun _ => ({ anchor := some name }, rest)
  | .tag handle suffix :: rest =>
      (checkNext rest).map fun _ => ({ tag := some (handle, suffix) }, rest)
  | rest => .ok ({}, rest)

/-- The full name of a tag; none for a node without one and for the tag that stands
for no tag. -/
def tagName? (r : Reader) (tag : Option (Option String × String)) : Except Error (Option String) :=
  match tag with
  | none => .ok none
  | some (none, suffix) => .ok (some suffix)
  | some (some handle, suffix) =>
      match r.handles.lookup handle with
      | some expansion => .ok (some (expansion ++ suffix))
      | none => .error .malformed

/-- The tag that leaves the choice open. -/
def openTag : String := "!"

/-- The tag of a scalar with the given tag name. -/
def scalarTag (name : Option String) (text : Text.Codes) (plain : Bool) : Tag :=
  let chosen := Plain.tag (text.map Text.CodePoint.standIn)
  match name with
  | none => if plain then chosen else .text
  | some name => if name == openTag then chosen else .ofName name

/-- The tag of a collection with the given tag name. -/
def collectionTag (name : Option String) (usual : Tag) : Tag :=
  match name with
  | none => usual
  | some name => if name == openTag then usual else .ofName name

/-- The reader with an optional anchor for the node of a number. -/
def define (r : Reader) (anchor : Option String) (number : Nat) : Reader :=
  match anchor with
  | none => r
  | some name => { r with anchors := (name, number) :: r.anchors }

/-! ### Content of nodes -/

/-- Whether no key, value or block end comes next. -/
def hasBlockContent (tokens : List Token) : Bool :=
  match tokens.head? with
  | some .key => false
  | some .value => false
  | some .blockEnd => false
  | _ => true

/-- Whether no comma or closing bracket of the given kind comes next. -/
def hasFlowContent (close : Token) (tokens : List Token) : Bool :=
  tokens.head? != some .flowEntry && tokens.head? != some close

/-- The kinds of collections. -/
inductive Form where
  /-- An indented sequence. -/
  | blockSequence
  /-- A sequence without deeper indentation. -/
  | indentless
  /-- A bracketed sequence. -/
  | flowSequence
  /-- An indented mapping. -/
  | blockMapping
  /-- A bracketed mapping. -/
  | flowMapping
  deriving DecidableEq, Repr

/-- The collection that the next token begins.  `inBlock` allows indented collections,
and `indentless` an item mark without deeper indentation. -/
def form? (inBlock indentless : Bool) (tokens : List Token) : Option Form :=
  match tokens with
  | .flowSequenceStart :: _ => some .flowSequence
  | .flowMappingStart :: _ => some .flowMapping
  | .blockEntry :: _ => if indentless then some .indentless else none
  | .blockSequenceStart :: _ => if inBlock then some .blockSequence else none
  | .blockMappingStart :: _ => if inBlock then some .blockMapping else none
  | _ => none

/-- Adds a scalar, with an optional anchor. -/
def addScalar (r : Reader) (anchor tagName : Option String) (text : Text.Codes)
    (plain : Bool) : Nat × Reader :=
  let (number, r) := r.add (.scalar (scalarTag tagName text plain) text)
  (number, r.define anchor number)

mutual

/-- Reads a node. -/
def node : (fuel : Nat) → (inBlock indentless : Bool) → Reader → Except Error (Nat × Reader)
  | 0, _, _, _ => .error .malformed
  | fuel + 1, inBlock, indentless, r =>
      match r.tokens with
      | .reference name :: rest =>
          match r.anchors.lookup name with
          | some number => .ok (number, { r with tokens := rest })
          | none => .error .malformed
      | _ => do
          let (found, tokens) ← properties r.tokens
          let r := { r with tokens }
          let name ← r.tagName? found.tag
          checkNext tokens
          if found.anchor.any fun name => (r.anchors.lookup name).isSome then throw .malformed
          match tokens, form? inBlock indentless tokens with
          | .scalar text plain :: _, _ => return r.advance.addScalar found.anchor name text plain
          | _, some form =>
              let (number, r) := r.add .nothing
              let (result, r) ← collection fuel form name (r.define found.anchor number)
              return (number, r.put number result)
          | _, none =>
              if found.anchor.isSome || found.tag.isSome then
                return r.addScalar found.anchor name [] true
              else throw .malformed

/-- Reads a collection. -/
def collection : (fuel : Nat) → Form → (tagName : Option String) → Reader →
    Except Error (Node × Reader)
  | 0, _, _, _ => .error .malformed
  | fuel + 1, form, name, r =>
      let sequence := fun (items, r) => (Node.sequence (collectionTag name .sequence) items, r)
      let mapping := fun (entries, r) => (Node.mapping (collectionTag name .mapping) entries, r)
      match form with
      | .flowSequence => (flowItems fuel true [] r.advance).map sequence
      | .blockSequence => (blockItems fuel [] r.advance).map sequence
      | .indentless => (indentlessItems fuel [] r).map sequence
      | .flowMapping => (flowEntries fuel true [] r.advance).map mapping
      | .blockMapping => (blockEntries fuel [] r.advance).map mapping

/-- Reads the items of an indented sequence. -/
def blockItems : (fuel : Nat) → (done : List Nat) → Reader → Except Error (List Nat × Reader)
  | 0, _, _ => .error .malformed
  | fuel + 1, done, r =>
      match r.tokens with
      | .blockEnd :: _ => .ok (done.reverse, r.advance)
      | .blockEntry :: rest =>
          if rest.head? == some .blockEntry || rest.head? == some .blockEnd then
            let (item, r) := r.advance.add .nothing
            blockItems fuel (item :: done) r
          else do
            let (item, r) ← node fuel true false r.advance
            blockItems fuel (item :: done) r
      | rest => .error (unexpected rest)

/-- Reads the items of a sequence without deeper indentation. -/
def indentlessItems : (fuel : Nat) → (done : List Nat) → Reader →
    Except Error (List Nat × Reader)
  | 0, _, _ => .error .malformed
  | fuel + 1, done, r =>
      match r.tokens with
      | .blockEntry :: rest =>
          if hasBlockContent rest && rest.head? != some .blockEntry then do
            let (item, r) ← node fuel true false r.advance
            indentlessItems fuel (item :: done) r
          else
            let (item, r) := r.advance.add .nothing
            indentlessItems fuel (item :: done) r
      | rest => (checkNext rest).map fun _ => (done.reverse, r)

/-- Reads a key or a value of an indented mapping, behind its mark. -/
def blockPart : (fuel : Nat) → Reader → Except Error (Nat × Reader)
  | 0, _ => .error .malformed
  | fuel + 1, r =>
      if hasBlockContent r.tokens then node fuel true true r else .ok (r.add .nothing)

/-- Reads the entries of an indented mapping. -/
def blockEntries : (fuel : Nat) → (done : List (Nat × Nat)) → Reader →
    Except Error (List (Nat × Nat) × Reader)
  | 0, _, _ => .error .malformed
  | fuel + 1, done, r =>
      match r.tokens with
      | .blockEnd :: _ => .ok (done.reverse, r.advance)
      | .key :: _ => do
          let (key, r) ← blockPart fuel r.advance
          let (value, r) ←
            if r.tokens.head? == some .value then blockPart fuel r.advance
            else (checkNext r.tokens).map fun _ => r.add .nothing
          blockEntries fuel ((key, value) :: done) r
      | rest => .error (unexpected rest)

/-- Reads a part of a bracketed collection, up to a comma or the closing bracket. -/
def flowPart : (fuel : Nat) → (close : Token) → Reader → Except Error (Nat × Reader)
  | 0, _, _ => .error .malformed
  | fuel + 1, close, r =>
      if hasFlowContent close r.tokens && r.tokens.head? != some .value then node fuel false false r
      else .ok (r.add .nothing)

/-- Reads the value of a bracketed entry behind its key. -/
def flowValue : (fuel : Nat) → (close : Token) → Reader → Except Error (Nat × Reader)
  | 0, _, _ => .error .malformed
  | fuel + 1, close, r =>
      if r.tokens.head? == some .value then
        if hasFlowContent close r.advance.tokens then node fuel false false r.advance
        else .ok (r.advance.add .nothing)
      else (checkNext r.tokens).map fun _ => r.add .nothing

/-- Reads the items of a bracketed sequence; a pair with a key is a mapping of one
entry. -/
def flowItems : (fuel : Nat) → (first : Bool) → (done : List Nat) → Reader →
    Except Error (List Nat × Reader)
  | 0, _, _, _ => .error .malformed
  | fuel + 1, first, done, r =>
      if r.tokens.head? == some .flowSequenceEnd then .ok (done.reverse, r.advance)
      else if !first && r.tokens.head? != some .flowEntry then .error (unexpected r.tokens)
      else
        let r := if first then r else r.advance
        match r.tokens with
        | .key :: _ => do
            let (key, r) ← flowPart fuel .flowSequenceEnd r.advance
            let (value, r) ← flowValue fuel .flowSequenceEnd r
            let (item, r) := r.add (.mapping .mapping [(key, value)])
            flowItems fuel false (item :: done) r
        | .flowSequenceEnd :: _ => .ok (done.reverse, r.advance)
        | _ => do
            let (item, r) ← node fuel false false r
            flowItems fuel false (item :: done) r

/-- Reads the entries of a bracketed mapping; a node alone is a key without value. -/
def flowEntries : (fuel : Nat) → (first : Bool) → (done : List (Nat × Nat)) → Reader →
    Except Error (List (Nat × Nat) × Reader)
  | 0, _, _, _ => .error .malformed
  | fuel + 1, first, done, r =>
      if r.tokens.head? == some .flowMappingEnd then .ok (done.reverse, r.advance)
      else if !first && r.tokens.head? != some .flowEntry then .error (unexpected r.tokens)
      else
        let r := if first then r else r.advance
        match r.tokens with
        | .key :: _ => do
            let (key, r) ← flowPart fuel .flowMappingEnd r.advance
            let (value, r) ← flowValue fuel .flowMappingEnd r
            flowEntries fuel false ((key, value) :: done) r
        | .flowMappingEnd :: _ => .ok (done.reverse, r.advance)
        | _ => do
            let (key, r) ← node fuel false false r
            let (value, r) := r.add .nothing
            flowEntries fuel false ((key, value) :: done) r

end

/-! ### Documents -/

/-- What the tag handles stand for when no directive says otherwise. -/
def usualHandles : List (String × String) := [("!", "!"), ("!!", Tag.family)]

/-- Reads the directives in front of a document: the tag handles that they define.
The major version must be one, and nothing may be said twice. -/
def directives : (versionSeen : Bool) → (handles : List (String × String)) → List Token →
    Except Error (List (String × String) × List Token)
  | versionSeen, handles, .directive (.version major) :: rest =>
      if versionSeen || major != 1 then .error .malformed else directives true handles rest
  | versionSeen, handles, .directive (.handle handle expansion) :: rest =>
      if (handles.lookup handle).isSome then .error .malformed
      else directives versionSeen ((handle, expansion) :: handles) rest
  | versionSeen, handles, .directive .other :: rest => directives versionSeen handles rest
  | _, handles, rest => .ok (handles ++ usualHandles, rest)

/-- Reads the node of a document. -/
def root (handles : List (String × String)) (tokens : List Token) :
    Except Error (Nat × Reader) :=
  node (4 * tokens.length + 8) true false ⟨tokens, #[], [], handles⟩

/-- A document without content. -/
def empty (tokens : List Token) : Nat × Reader :=
  (⟨tokens, #[], [], []⟩ : Reader).add .nothing

/-- Reads the content of a document behind its start mark; it may be missing. -/
def document (handles : List (String × String)) (tokens : List Token) :
    Except Error (Nat × Reader) :=
  match tokens with
  | [] => .ok (empty tokens)
  | .directive _ :: _ => .ok (empty tokens)
  | .documentStart :: _ => .ok (empty tokens)
  | .documentEnd :: _ => .ok (empty tokens)
  | _ => root handles tokens

/-- Reads the start mark of a document, and directives in front of it. -/
def documentStart (tokens : List Token) : Except Error (List (String × String) × List Token) := do
  let (handles, rest) ← directives false [] tokens
  match rest with
  | .documentStart :: rest => return (handles, rest)
  | rest => throw (unexpected rest)

/-- The first document of a text; none when the text has no document. -/
def firstDocument (tokens : List Token) : Except Error (Option (Nat × Reader)) :=
  match tokens with
  | [] => .ok none
  | .directive _ :: _ => explicit
  | .documentStart :: _ => explicit
  | _ => (root usualHandles tokens).map some
where
  /-- A document with a start mark. -/
  explicit : Except Error (Option (Nat × Reader)) := do
    let (handles, rest) ← documentStart tokens
    some <$> document handles rest

/-- Makes sure that no document comes behind the first one; end marks may. -/
def checkNoMore (tokens : List Token) : Except Error Unit :=
  match tokens.dropWhile (· = .documentEnd) with
  | [] => .ok ()
  | rest => do
      let _ ← documentStart rest
      throw .malformed

end Reader

/-- The nodes of a document, and the number of the one that holds the others. -/
structure Tree where
  nodes : Array Node
  root : Nat
  deriving Repr

/-- The only document of a list of tokens; none when there is no document. -/
def Tree.ofTokens (tokens : List Token) : Except Error (Option Tree) := do
  match ← Reader.firstDocument tokens with
  | none => return none
  | some (root, r) =>
      Reader.checkNoMore r.tokens
      return some ⟨r.nodes, root⟩

end TapeMachine.Yaml
