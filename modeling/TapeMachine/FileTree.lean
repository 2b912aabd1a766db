/-
  Trees of files.

  A tree holds files and directories below a root.  Their names are bytes, and so is a path
  once it is written out.  A path begins at a working directory or, with a slash in front, at
  the root; nothing is above the root.
-/
import TapeMachine.Encoding.Utf8
import TapeMachine.SystemError

set_option autoImplicit false

namespace TapeMachine

/-! ## Opening files -/

/-- Why a file is not opened. -/
inductive OpenError where
  /-- The system refuses. -/
  | system (error : SystemError)
  /-- The path has a null character. -/
  | nullCharacter
  /-- The path has halves of pairs that stand for no bytes. -/
  | brokenPath (error : Encoding.EncodeError)
  deriving DecidableEq, Repr, Inhabited

/-- The wording of a file that is not opened. -/
def OpenError.message : OpenError → String
  | .system error => error.message
  | .nullCharacter => "embedded null byte"
  | .brokenPath error => error.message

/-! ## Trees -/

/-- What a place in a tree is. -/
inductive FileTree.Node where
  /-- A file with its contents. -/
  | file (contents : List UInt8)
  /-- A directory. -/
  | directory
  deriving DecidableEq, Repr, Inhabited

/-- The names from the root to a place. -/
abbrev FileTree.Place := List (List UInt8)

/-- Files and directories by place.  The directories above a place are in the tree
without being listed. -/
structure FileTree where
  nodes : List (FileTree.Place × FileTree.Node)
  deriving Repr, Inhabited

namespace FileTree

/-- The byte between names. -/
def slash : UInt8 := 0x2F

/-- The name of a directory itself. -/
def here : List UInt8 := [0x2E]

/-- The name of the directory above. -/
def above : List UInt8 := [0x2E, 0x2E]

/-- The names in a path, with an empty name before, between and behind slashes that
stand alone. -/
def names (path : List UInt8) : Place :=
  let (name, behind) := path.foldr
    (fun byte (name, behind) =>
      if byte = slash then ([], name :: behind) else (byte :: name, behind))
    ([], [])
  name :: behind

/-- The place that a path from the root names. -/
def place (path : List UInt8) : Place :=
  (names path).foldl
    (fun place name =>
      if name = [] ∨ name = here then place
      else if name = above then place.dropLast
      else place ++ [name])
    []

/-- The tree with a node at a place. -/
def insert (tree : FileTree) (place : Place) (node : Node) : FileTree :=
  ⟨(place, node) :: tree.nodes⟩

/-- What is at a place. -/
def node? (tree : FileTree) (place : Place) : Option Node :=
  match tree.nodes.lookup place with
  | some node => some node
  | none =>
      if place.isEmpty || tree.nodes.any (fun entry => place.isPrefixOf entry.1) then
        some .directory
      else none

/-- The greatest length of a name. -/
def nameLimit : Nat := 255

/-- The greatest length of a path. -/
def pathLimit : Nat := 4095

/-- Follows names from a directory to a file.  The directory above the root is the root. -/
def follow (tree : FileTree) (path : Text.Codes) (directory : Place) :
    Place → Except SystemError (List UInt8)
  | [] => .error (.isDirectory path)
  | name :: rest =>
      if name = [] ∨ name = here then follow tree path directory rest
      else if name = above then follow tree path directory.dropLast rest
      else if nameLimit < name.length then .error (.nameTooLong path)
      else
        match tree.node? (directory ++ [name]) with
        | none => .error (.fileNotFound path)
        | some .directory => follow tree path (directory ++ [name]) rest
        | some (.file contents) =>
            if rest.isEmpty then .ok contents else .error (.notDirectory path)

/-- The contents of the file that a path names from a working directory. -/
def read (tree : FileTree) (directory : Place) (path : Text.Codes) :
    Except OpenError (List UInt8) :=
  match Encoding.Utf8.encodeEscaped path with
  | .error e => .error (.brokenPath e)
  | .ok bytes =>
      if bytes.contains 0 then .error .nullCharacter
      else if bytes.isEmpty then .error (.system (.fileNotFound path))
      else if pathLimit < bytes.length then .error (.system (.nameTooLong path))
      else
        let start := if bytes.head? = some slash then [] else directory
        match tree.follow path start (names bytes) with
        | .ok contents => .ok contents
        | .error e => .error (.system e)

/-- The contents of the nearest file of a name, in a directory or above it. -/
def nearest? (tree : FileTree) (name : List UInt8) : (depth : Nat) → (directory : Place) →
    Option (List UInt8)
  | 0, _ => none
  | depth + 1, directory =>
      match tree.node? (directory ++ [name]) with
      | some (.file contents) => some contents
      | _ => if directory.isEmpty then none else nearest? tree name depth directory.dropLast

end FileTree

end TapeMachine
