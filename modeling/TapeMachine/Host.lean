/-
  The host of a run.

  All that the program sees of its surroundings: files by path, the environment, the
  nearest environment file, the standard input, tables of characters and how deep its calls
  may go.
-/
import TapeMachine.Encoding.CharacterData
import TapeMachine.Environment
import TapeMachine.FileTree

set_option autoImplicit false

namespace TapeMachine

/-- How many levels below itself a value may have to be shown where settings are refused:
as many as calls are left there.  A key is shown in the function that applies the settings,
a value for a level in one that it calls, and a value for an integer in one below that. -/
structure ShownLevels where
  key : Nat := 995
  level : Nat := 993
  integer : Nat := 993
  deriving DecidableEq, Repr, Inhabited

/-- The surroundings of a run. -/
structure Host where
  /-- Opens a file and reads it. -/
  readFile : Text.Codes → Except OpenError (List UInt8)
  /-- The nearest environment file at or above the working directory. -/
  envFile : Option (List UInt8) := none
  /-- The environment variables. -/
  environment : RawEnvironment := []
  /-- The bytes of the standard input. -/
  input : List UInt8 := []
  /-- What is known of characters there. -/
  characters : Encoding.CharacterData := .ascii
  shownLevels : ShownLevels := {}

namespace Host

/-- The name of environment files. -/
def envFileName : String := ".env"

/-- The host whose files are those of a tree, seen from a working directory in it. -/
def ofTree (tree : FileTree) (directory : FileTree.Place) (environment : RawEnvironment)
    (input : List UInt8) : Host :=
  let name := Encoding.Utf8.encode envFileName.toList
  { readFile := tree.read directory
    envFile := tree.nearest? name (directory.length + 1) directory
    environment
    input }

end Host

end TapeMachine
