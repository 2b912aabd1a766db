/-
  Jump tables.

  A jump table maps instruction indexes to instruction indexes and remembers the
  order in which its keys were put in.
-/
set_option autoImplicit false

namespace TapeMachine

/-- A mapping between instruction indexes, in the order of its keys. -/
structure JumpTable where
  entries : List (Int × Int)
  deriving DecidableEq, Repr, Inhabited

namespace JumpTable

/-! ## Reading -/

/-- The target of an index. -/
def target? (table : JumpTable) (index : Int) : Option Int :=
  table.entries.lookup index

/-- Whether an index has a target. -/
def contains (table : JumpTable) (index : Int) : Bool :=
  (table.target? index).isSome

/-- The keys in order. -/
def keys (table : JumpTable) : List Int :=
  table.entries.map (·.1)

/-- The number of keys. -/
def size (table : JumpTable) : Nat :=
  table.entries.length

/-- The number of loops of a table that maps in both directions. -/
def loopCount (table : JumpTable) : Nat :=
  table.size / 2

/-- The entries that lead forward, by their index. -/
def pairs (table : JumpTable) : List (Int × Int) :=
  (table.entries.filter fun entry => decide (entry.1 < entry.2)).mergeSort
    fun left right => decide (left.1 ≤ right.1)

/-- Whether two tables map the same indexes to the same targets, in whatever
order. -/
def agrees (left right : JumpTable) : Bool :=
  left.size == right.size &&
    left.entries.all fun entry => decide (right.target? entry.1 = some entry.2)

/-! ## Building -/

/-- The table without entries. -/
def empty : JumpTable := ⟨[]⟩

/-- Puts an entry into a list of entries: a key that is already there keeps its place
and takes the new target. -/
def putEntry (key target : Int) : List (Int × Int) → List (Int × Int)
  | [] => [(key, target)]
  | (k, t) :: rest => if k = key then (k, target) :: rest else (k, t) :: putEntry key target rest

/-- The table with an entry put in. -/
def put (table : JumpTable) (key target : Int) : JumpTable :=
  ⟨putEntry key target table.entries⟩

/-- The table of the given entries, put in one after another. -/
def ofEntries (entries : List (Int × Int)) : JumpTable :=
  entries.foldl (fun table entry => table.put entry.1 entry.2) empty

/-! ## Text -/

/-- A table as text: its forward entries. -/
def shown (table : JumpTable) : String :=
  let items := table.pairs.map fun entry => s!"({entry.1}, {entry.2})"
  "JumpTable([" ++ ", ".intercalate items ++ "])"

end JumpTable

end TapeMachine
