/-
  The order in which a set shows its members.

  Numbers are laid out in slots by their residues: a number goes to the slot of its
  residue, or to one near it when that slot is taken, and the slots are shown from the
  first to the last.  Equal numbers of different kinds have equal residues.  Other
  members have no residue; a set that has one of them shows its members in the order in
  which they were first met.
-/
import TapeMachine.Value

set_option autoImplicit false

namespace TapeMachine.Value

/-! ## Residues -/

/-- The modulus of residues, a prime number. -/
def residueModulus : Nat := Nat.pow 2 61 - 1

/-- A residue with its sign.  Minus one is set aside, and minus two stands for it. -/
def signedResidue (negative : Bool) (residue : Nat) : Int :=
  if negative then if residue = 1 then -2 else -residue else residue

/-- The residue of infinity. -/
def infiniteResidue : Nat := 314159

/-- The residue of a number.  A negative power of two is one of the inverses of two, of
which the sixty-first power is one. -/
def residue? : Value → Option Int
  | .boolean value => some (if value then 1 else 0)
  | .integer value => some (signedResidue (decide (value < 0)) (value.natAbs % residueModulus))
  | .real (.infinite negative) => some (signedResidue negative infiniteResidue)
  | .real (.finite negative mantissa exponent) =>
      let power := (exponent % 61).toNat
      some (signedResidue negative (mantissa * Nat.pow 2 power % residueModulus))
  | _ => none

/-! ## Slots -/

/-- The number of slots for some members: a power of two. -/
def slotCount (members : Nat) : Nat :=
  if members < 5 then 8 else Nat.pow 2 (Nat.log2 (2 * members) + 1)

/-- The number of slots that are looked at in a row. -/
def rowLength : Nat := 9

/-- Whether there is a slot without a member at a place. -/
def isFree (slots : Array (Option Value)) (place : Nat) : Bool :=
  match slots[place]? with
  | some none => true
  | _ => false

/-- The first free slot for a residue, from a slot on: a row of slots is looked through,
then a row elsewhere. -/
def freeSlot (slots : Array (Option Value)) :
    (fuel : Nat) → (start spread : Nat) → Option Nat
  | 0, _, _ => none
  | fuel + 1, start, spread =>
      let row := if start + rowLength < slots.size then rowLength + 1 else 1
      let candidates := (List.range row).map (start + ·)
      match candidates.find? (isFree slots) with
      | some slot => some slot
      | none =>
          let spread := spread / 32
          freeSlot slots fuel ((start * 5 + 1 + spread) % slots.size) spread

/-- The bits of a residue as a number of sixty-four bits. -/
def residueBits (residue : Int) : Nat := (residue % Nat.pow 2 64).toNat

/-- Puts a member with a residue into its slot. -/
def placeMember (slots : Array (Option Value)) (member : Value) (residue : Int) :
    Array (Option Value) :=
  let bits := residueBits residue
  match freeSlot slots (2 * slots.size + 16) (bits % slots.size) bits with
  | some slot => slots.setIfInBounds slot (some member)
  | none => slots

/-- Members in the order in which a set shows them. -/
def setOrder (members : List Value) : List Value :=
  match members.mapM fun member => member.residue?.map fun residue => (member, residue) with
  | none => members
  | some numbered =>
      let empty : Array (Option Value) := Array.replicate (slotCount members.length) none
      let slots := numbered.foldl (fun slots entry => placeMember slots entry.1 entry.2) empty
      slots.toList.filterMap id

end TapeMachine.Value
