/-
  Document values.

  A setting can hold any value that a document can hold.  Messages show a value in
  one fixed notation: quoted texts, `None`, `True` and `False`, brackets around
  lists and braces around mappings.
-/
import TapeMachine.Binary64.Decimal
import TapeMachine.Calendar
import TapeMachine.Text.Integer

set_option autoImplicit false

namespace TapeMachine

/-- A value of a document. -/
inductive Value where
  /-- No value. -/
  | null
  /-- A truth value. -/
  | boolean (value : Bool)
  /-- An integer of any size. -/
  | integer (value : Int)
  /-- A binary number. -/
  | real (value : Binary64)
  /-- A text. -/
  | text (value : String)
  /-- A text with halves of pairs in it. -/
  | brokenText (codes : Text.Codes) (hcodes : codes.toChars? = none)
  /-- A list of bytes. -/
  | bytes (value : List UInt8)
  /-- A calendar date. -/
  | date (value : Calendar.Date)
  /-- A moment. -/
  | moment (value : Calendar.Moment)
  /-- A list of values. -/
  | list (items : List Value)
  /-- A list of pairs. -/
  | pairs (entries : List (Value × Value))
  /-- A mapping, in the order in which its keys were first met. -/
  | mapping (entries : List (Value × Value))
  /-- A set, in the order in which it is shown. -/
  | set (members : List Value)
  /-- A list or a mapping that the value stands in, once more. -/
  | enclosing (isMapping : Bool)
  deriving Repr, Inhabited

namespace Value

/-! ## Texts -/

/-- A text of code points. -/
def ofCodes (codes : Text.Codes) : Value :=
  match hcodes : codes.toChars? with
  | some chars => .text (String.ofList chars)
  | none => .brokenText codes hcodes

/-- The code points of a text. -/
def codes? : Value → Option Text.Codes
  | .text value => some (.ofString value)
  | .brokenText codes _ => some codes
  | _ => none

theorem codes?_ofCodes (codes : Text.Codes) : (ofCodes codes).codes? = some codes := by
  unfold ofCodes
  split
  · rename_i chars hchars
    obtain rfl := Text.Codes.toChars?_eq_some_iff.1 hchars
    simp [codes?, Text.Codes.ofString]
  · rfl

/-! ## Shapes -/

/-- Whether the value counts as empty: no value, false, a zero, or an empty text,
byte list or collection. -/
def isEmpty : Value → Bool
  | .null => true
  | .boolean value => !value
  | .integer value => value == 0
  | .real value => value.equalsInt 0
  | .text value => value == ""
  | .brokenText .. => false
  | .bytes value => value.isEmpty
  | .date _ => false
  | .moment _ => false
  | .list items => items.isEmpty
  | .pairs entries => entries.isEmpty
  | .mapping entries => entries.isEmpty
  | .set members => members.isEmpty
  | .enclosing _ => false

/-- The number that a truth value or an integer stands for. -/
def asInteger? : Value → Option Int
  | .boolean value => some (if value then 1 else 0)
  | .integer value => some value
  | _ => none

/-- Whether two values are one key.  Numbers are compared by size, whatever their
kind, and truth values count as the numbers one and zero. -/
def sameKey (a b : Value) : Bool :=
  match a, b with
  | .null, .null => true
  | .text s, .text t => s == t
  | .brokenText s _, .brokenText t _ => s == t
  | .bytes s, .bytes t => s == t
  | .date s, .date t => s == t
  | .moment s, .moment t => s.same t
  | .real x, .real y => x.equals y
  | .real x, b =>
      match b.asInteger? with
      | some i => x.equalsInt i
      | none => false
  | a, .real y =>
      match a.asInteger? with
      | some i => y.equalsInt i
      | none => false
  | a, b =>
      match a.asInteger?, b.asInteger? with
      | some i, some j => i == j
      | _, _ => false

/-! ## Mappings -/

/-- The value of a text key. -/
def lookupText (entries : List (Value × Value)) (key : String) : Option Value :=
  (entries.find? fun entry => sameKey entry.1 (.text key)).map (·.2)

/-! ## Text -/

mutual

/-- A value as it is shown in messages. -/
def shown : Value → String
  | .null => "None"
  | .boolean value => if value then "True" else "False"
  | .integer value => toString value
  | .real value => value.toText
  | .text value => Text.quoted value
  | .brokenText codes _ => Text.quotedCodes codes
  | .bytes value => Text.quotedBytes value
  | .date value => value.shown
  | .moment value => value.shown
  | .list items => "[" ++ ", ".intercalate (shownItems items) ++ "]"
  | .pairs entries => "[" ++ ", ".intercalate (shownPairs entries) ++ "]"
  | .mapping entries => "\x7b" ++ ", ".intercalate (shownEntries entries) ++ "\x7d"
  | .set [] => "set()"
  | .set (member :: rest) =>
      "\x7b" ++ ", ".intercalate (member.shown :: shownItems rest) ++ "\x7d"
  | .enclosing false => "[...]"
  | .enclosing true => "\x7b...\x7d"

/-- The items of a list as they are shown in messages. -/
def shownItems : List Value → List String
  | [] => []
  | item :: rest => item.shown :: shownItems rest

/-- The entries of a mapping as they are shown in messages. -/
def shownEntries : List (Value × Value) → List String
  | [] => []
  | (key, value) :: rest => (key.shown ++ ": " ++ value.shown) :: shownEntries rest

/-- Pairs as they are shown in messages. -/
def shownPairs : List (Value × Value) → List String
  | [] => []
  | (key, value) :: rest => ("(" ++ key.shown ++ ", " ++ value.shown ++ ")") :: shownPairs rest

end

/-! ## Values that cannot be shown -/

/-- Why a value cannot be shown. -/
inductive ShowError where
  /-- An integer in it has too many digits. -/
  | tooLong
  /-- It is nested too deeply. -/
  | tooDeep
  deriving DecidableEq, Repr

/-- The wording of a value that cannot be shown. -/
def ShowError.message : ShowError → String
  | .tooLong =>
      s!"Exceeds the limit ({Text.Integer.digitLimit} digits) for integer string conversion; " ++
        "use sys.set_int_max_str_digits() to increase the limit"
  | .tooDeep => "maximum recursion depth exceeded while getting the repr of an object"

/-- Whether an integer has few enough digits to be shown. -/
def isShowableInteger (value : Int) : Bool :=
  decide (value.natAbs < Nat.pow 10 Text.Integer.digitLimit)

/-- The levels below a moment: its offset is shown as a value in it, and so is the span of
time in the offset. -/
def momentLevels (value : Calendar.Moment) : Nat :=
  match value.offset with
  | none => 0
  | some minutes => if minutes = 0 then 1 else 2

mutual

/-- What is met first that keeps a value from being shown, where it may have so many levels
below it. -/
def showError? (levels : Nat) : Value → Option ShowError
  | .integer value => if isShowableInteger value then none else some .tooLong
  | .moment value => if momentLevels value ≤ levels then none else some .tooDeep
  | .list items => showErrorIn? 1 levels items
  -- The members of a set are shown as a list in it.
  | .set members => showErrorIn? 2 levels members
  | .mapping entries => showErrorInEntries? 1 levels entries
  -- A pair is a level of its own.
  | .pairs entries => showErrorInEntries? 2 levels entries
  | _ => none

/-- What is met first that keeps items so many levels below from being shown. -/
def showErrorIn? (below levels : Nat) : List Value → Option ShowError
  | [] => none
  | item :: rest =>
      if levels < below then some .tooDeep
      else (item.showError? (levels - below)).or (showErrorIn? below levels rest)

/-- What is met first that keeps entries so many levels below from being shown. -/
def showErrorInEntries? (below levels : Nat) : List (Value × Value) → Option ShowError
  | [] => none
  | (key, value) :: rest =>
      if levels < below then some .tooDeep
      else
        ((key.showError? (levels - below)).or (value.showError? (levels - below))).or
          (showErrorInEntries? below levels rest)

end

/-- The text of an error made from arguments: nothing without arguments, the text of a
single one, and several in parentheses. -/
def argumentsText : List Value → String
  | [] => ""
  | [.text value] => value
  | [value] => value.shown
  | values => "(" ++ ", ".intercalate (shownItems values) ++ ")"

end Value

end TapeMachine
