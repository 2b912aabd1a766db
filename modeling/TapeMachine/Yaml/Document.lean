/-
  Values of YAML documents.

  The nodes of a document are turned into parts: values, and collections of other
  parts.  A collection is begun where it is met, and its contents are looked at after all
  collections that were begun earlier; so of several faults the one nearest to the top
  counts.  Each node is turned into a part once, however often it is referred to.
-/
import TapeMachine.Value.SetOrder
import TapeMachine.Yaml.Lexer
import TapeMachine.Yaml.Meaning
import TapeMachine.Yaml.Node

set_option autoImplicit false

namespace TapeMachine.Yaml

/-- What a node is turned into.  Parts refer to one another by the numbers of their
nodes. -/
inductive Part where
  /-- A value without parts. -/
  | single (value : Value)
  /-- The value that is written with the word for what is no number. -/
  | notNumber
  /-- A list. -/
  | list (items : List Nat)
  /-- A list of pairs. -/
  | pairs (entries : List (Nat × Nat))
  /-- A mapping. -/
  | mapping (entries : List (Nat × Nat))
  /-- A set, in the order in which its members were first met. -/
  | set (members : List Nat)
  deriving Repr, Inhabited

namespace Part

/-- The value of a part that can be a key; collections cannot. -/
def keyValue? : Part → Option Value
  | single value => some value
  | notNumber => some (.real .nan)
  | _ => none

/-- Whether the parts of two nodes are one key.  What is no number is a key of its own
for each node, unless it is written by its word. -/
def sameKey (a b : Nat × Part) : Bool :=
  a.1 == b.1 ||
    match a.2, b.2 with
    | notNumber, notNumber => true
    | p, q =>
        match p.keyValue?, q.keyValue? with
        | some v, some w => v.sameKey w
        | _, _ => false

end Part

/-! ## Building -/

/-- The state of building: the nodes, which merging changes, their parts as far as they
are begun, and the collections whose contents are still to be looked at, the last one
first. -/
structure Builder where
  nodes : Array Node
  parts : Array (Option Part)
  waiting : List Nat

namespace Builder

/-- The node of a number. -/
def node (b : Builder) (number : Nat) : Node := b.nodes.getD number .nothing

/-- The part of a number. -/
def part (b : Builder) (number : Nat) : Part :=
  ((b.parts[number]?).join).getD (.single .null)

/-- Gives a number a part. -/
def put (b : Builder) (number : Nat) (part : Part) : Builder :=
  { b with parts := b.parts.setIfInBounds number (some part) }

/-- Gives a number a node. -/
def change (b : Builder) (number : Nat) (node : Node) : Builder :=
  { b with nodes := b.nodes.setIfInBounds number node }

/-! ### Scalars -/

/-- The text of a scalar.  A mapping stands for its default value. -/
def scalarText (b : Builder) : (fuel : Nat) → (number : Nat) → Except Error Text.Codes
  | 0, _ => .error .endlessDefault
  | fuel + 1, number =>
      match b.node number with
      | .scalar _ text => .ok text
      | .sequence .. => .error .malformed
      | .mapping _ entries =>
          match entries.find? fun entry => (b.node entry.1).tag == .default with
          | some (_, value) => b.scalarText fuel value
          | none => .error .malformed

/-- The part of a node whose tag asks for a scalar. -/
def scalarPart (b : Builder) (number : Nat) : Except Error Part := do
  let text ← b.scalarText (b.nodes.size + 1) number
  let single := fun value : Value => Part.single value
  match (b.node number).tag with
  | .null => return single .null
  | .boolean => (Scalar.boolean text).map (single ∘ .boolean)
  | .integer => (Scalar.integer text).map (single ∘ .integer)
  | .real =>
      match ← Scalar.real text with
      | .computed value => return single (.real value)
      | .named => return .notNumber
  | .timestamp =>
      match b.node number with
      | .scalar .. => (Scalar.timestamp text).map single
      | _ => throw .timestampMapping
  | .binary => (Scalar.binary text).map single
  | .text => return single (.ofCodes text)
  | _ => throw .malformed

/-! ### Merging -/

/-- Gives the keys of default values the tag of a text. -/
def plainKeys (b : Builder) (entries : List (Nat × Nat)) : Builder :=
  entries.foldl
    (fun b entry =>
      let key := b.node entry.1
      if key.tag = .default then b.change entry.1 (key.withTag .text) else b)
    b

/-- Replaces the merge keys of a mapping from a place on by the entries that they bring
in, which come in front.  Of the mappings of a sequence the last one comes first.  A
merge key is taken out before its mappings are looked at; so a mapping that merges
itself ends. -/
def merge : (fuel : Nat) → (number place : Nat) → (found : List (Nat × Nat)) → Builder →
    Except Error Builder
  | 0, _, _, _, b => .ok b
  | fuel + 1, number, place, found, b =>
      let node := b.node number
      let isMerge := fun entry : Nat × Nat => (b.node entry.1).tag == .merge
      let own := (node.entries.drop place).takeWhile fun entry => !isMerge entry
      let b := b.plainKeys own
      let place := place + own.length
      match node.entries.drop place with
      | [] =>
          .ok (if found.isEmpty then b
            else b.change number (.mapping node.tag (found ++ node.entries)))
      | (_, source) :: rest =>
          let b := b.change number (.mapping node.tag (node.entries.take place ++ rest))
          match b.node source with
          | .scalar .. => .error .malformed
          | .mapping .. => do
              let b ← merge fuel source 0 [] b
              merge fuel number place (found ++ (b.node source).entries) b
          | .sequence _ items => do
              let (b, brought) ← items.foldlM
                (fun (b, brought) item => do
                  match b.node item with
                  | .mapping .. =>
                      let b ← merge fuel item 0 [] b
                      return (b, (b.node item).entries ++ brought)
                  | _ => throw .malformed)
                (b, [])
              merge fuel number place (found ++ brought) b

/-- The number of merge keys of all mappings. -/
def mergeCount (b : Builder) : Nat :=
  (b.nodes.toList.map fun node =>
    (node.entries.filter fun entry => (b.node entry.1).tag == .merge).length).foldl (· + ·) 0

/-! ### Parts -/

/-- Begins the part of a node, unless it is begun already. -/
def begin? (b : Builder) (number : Nat) : Except Error Builder :=
  if ((b.parts[number]?).join).isSome then .ok b
  else
    let collection := fun part =>
      Except.ok { b.put number part with waiting := number :: b.waiting }
    match (b.node number).tag with
    | .sequence => collection (.list [])
    | .mapping => collection (.mapping [])
    | .orderedMapping => collection (.pairs [])
    | .pairs => collection (.pairs [])
    | .set => collection (.set [])
    | .merge => .error .malformed
    | .default => .error .malformed
    | .other => .error .malformed
    | _ => (b.scalarPart number).map (b.put number)

/-- Puts an entry into a mapping: a key that is already there keeps its place and takes
the new value. -/
def putEntry (b : Builder) (entries : List (Nat × Nat)) (key value : Nat) : List (Nat × Nat) :=
  match entries with
  | [] => [(key, value)]
  | (other, old) :: rest =>
      if Part.sameKey (other, b.part other) (key, b.part key) then (other, value) :: rest
      else (other, old) :: b.putEntry rest key value

/-- Begins the keys and values of a mapping. -/
def mappingEntries (b : Builder) (entries : List (Nat × Nat)) :
    Except Error (Builder × List (Nat × Nat)) :=
  entries.foldlM
    (fun (b, done) (key, value) => do
      let b ← b.begin? key
      if ((b.part key).keyValue?).isNone then throw .malformed
      let b ← b.begin? value
      return (b, b.putEntry done key value))
    (b, [])

/-- Merges what a mapping merges and begins its keys and values. -/
def mergedEntries (b : Builder) (number : Nat) : Except Error (Builder × List (Nat × Nat)) := do
  match b.node number with
  | .mapping .. =>
      let b ← merge (b.mergeCount + 1) number 0 [] b
      b.mappingEntries (b.node number).entries
  | _ => throw .malformed

/-- Begins the items of a sequence. -/
def listItems (b : Builder) (items : List Nat) : Except Error Builder :=
  items.foldlM begin? b

/-- Begins the pairs of a sequence of mappings with one entry each. -/
def pairEntries (b : Builder) (items : List Nat) : Except Error (Builder × List (Nat × Nat)) :=
  items.foldlM
    (fun (b, done) item => do
      match b.node item with
      | .mapping _ [(key, value)] =>
          let b ← b.begin? key
          let b ← b.begin? value
          return (b, done ++ [(key, value)])
      | _ => throw .malformed)
    (b, [])

/-- Looks at the contents of a collection. -/
def complete (b : Builder) (number : Nat) : Except Error Builder := do
  match b.part number, b.node number with
  | .list _, .sequence _ items => return (← b.listItems items).put number (.list items)
  | .pairs _, .sequence _ items =>
      let (b, entries) ← b.pairEntries items
      return b.put number (.pairs entries)
  | .mapping _, _ =>
      let (b, entries) ← b.mergedEntries number
      return b.put number (.mapping entries)
  | .set _, _ =>
      let (b, entries) ← b.mergedEntries number
      return b.put number (.set (entries.map (·.1)))
  | _, _ => throw .malformed

/-- Looks at the contents of all collections that wait, then of those that they hold. -/
def run : (fuel : Nat) → Builder → Except Error Builder
  | 0, b => .ok b
  | fuel + 1, b =>
      match b.waiting with
      | [] => .ok b
      | waiting => do run fuel (← waiting.reverse.foldlM complete { b with waiting := [] })

end Builder

/-! ## Documents -/

/-- The parts of a document, and the number of the one that holds the others. -/
structure Document where
  parts : Array (Option Part)
  root : Nat
  deriving Repr

namespace Document

/-- The document of a tree of nodes. -/
def ofTree (tree : Tree) : Except Error Document := do
  let start : Builder := ⟨tree.nodes, Array.replicate tree.nodes.size none, []⟩
  let b ← (← start.begin? tree.root).run (tree.nodes.size + 1)
  return ⟨b.parts, tree.root⟩

/-- A document with no value. -/
def null : Document := ⟨#[some (.single .null)], 0⟩

/-- The part of a number. -/
def part (d : Document) (number : Nat) : Part :=
  ((d.parts[number]?).join).getD (.single .null)

/-- The value of a part inside the collections with the given numbers.  A part that is
one of these is not gone into again. -/
def valueIn (d : Document) : (fuel : Nat) → (around : List Nat) → (number : Nat) → Value
  | 0, _, _ => .null
  | fuel + 1, around, number =>
      let inside := d.valueIn fuel (number :: around)
      let entry := fun (key, value) => (inside key, inside value)
      match d.part number with
      | .single value => value
      | .notNumber => .real .nan
      | .list items =>
          if around.contains number then .enclosing false else .list (items.map inside)
      | .pairs entries =>
          if around.contains number then .enclosing false else .pairs (entries.map entry)
      | .mapping entries =>
          if around.contains number then .enclosing true else .mapping (entries.map entry)
      | .set members => .set (Value.setOrder (members.map inside))

/-- The value of a part by itself. -/
def valueOf (d : Document) (number : Nat) : Value :=
  d.valueIn (d.parts.size + 2) [] number

end Document

/-- The only document of a source. -/
def read (source : Source) : Except Error Document := do
  match ← Tree.ofTokens (tokens source) with
  | none => return .null
  | some tree => Document.ofTree tree

end TapeMachine.Yaml
