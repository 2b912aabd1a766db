/-
  What plain scalars of YAML stand for.

  A plain scalar is a truth value, a number, a date, a moment or nothing when it is
  written like one, and a text otherwise.
-/
import TapeMachine.Calendar
import TapeMachine.Text.Lines

set_option autoImplicit false

namespace TapeMachine.Yaml

/-- What a node is said to be. -/
inductive Tag where
  /-- Nothing. -/
  | null
  /-- A truth value. -/
  | boolean
  /-- An integer. -/
  | integer
  /-- A binary number. -/
  | real
  /-- A date or a moment. -/
  | timestamp
  /-- Bytes. -/
  | binary
  /-- A text. -/
  | text
  /-- A sequence. -/
  | sequence
  /-- A mapping. -/
  | mapping
  /-- The key that merges another mapping. -/
  | merge
  /-- The key of the default value. -/
  | default
  /-- Pairs with distinct keys, in order. -/
  | orderedMapping
  /-- Pairs, in order. -/
  | pairs
  /-- A set. -/
  | set
  /-- Anything else. -/
  | other
  deriving DecidableEq, Repr, Inhabited

namespace Tag

/-- What the tags of the language have in front of their names. -/
def family : String := "tag:yaml.org,2002:"

/-- The tag with the given full name. -/
def ofName (name : String) : Tag :=
  let names : List (String × Tag) :=
    [("null", null), ("bool", boolean), ("int", integer), ("float", real),
     ("timestamp", timestamp), ("binary", binary), ("str", text), ("seq", sequence),
     ("map", mapping), ("merge", merge), ("value", default), ("omap", orderedMapping),
     ("pairs", pairs), ("set", set)]
  match names.find? fun entry => family ++ entry.1 == name with
  | some entry => entry.2
  | none => other

end Tag

namespace Plain

/-! ## Numbers -/

/-- Whether a character is a decimal digit. -/
def isDigit (c : Char) : Bool := c.isDigit

/-- Whether a character may stand inside a number. -/
def isSpacedDigit (c : Char) : Bool := c.isDigit || c = '_'

/-- The text without a sign. -/
def unsigned (text : List Char) : List Char :=
  match text with
  | '-' :: rest => rest
  | '+' :: rest => rest
  | rest => rest

/-- Whether a text is one character of a class at least, and no others. -/
def isRun (inClass : Char → Bool) (text : List Char) : Bool :=
  !text.isEmpty && text.all inClass

/-- Whether a text is a digit between zero and fifty-nine. -/
def isSixtieth (text : List Char) : Bool :=
  match text with
  | [c] => isDigit c
  | [c, d] => '0' ≤ c && c ≤ '5' && isDigit d
  | _ => false

/-- The parts of a text between colons. -/
def splitColons {α : Type} (isColon : α → Bool) (text : List α) : List (List α) :=
  text.foldr
    (fun c parts =>
      if isColon c then [] :: parts
      else
        match parts with
        | part :: parts => (c :: part) :: parts
        | [] => [[c]])
    [[]]

/-- Whether a text is written to base sixty: a number and one part or more behind
colons. -/
def isSexagesimal (isLead : Char → Bool) (text : List Char) : Bool :=
  match splitColons (· = ':') text with
  | lead :: part :: parts =>
      lead.head?.any isLead && lead.all isSpacedDigit && (part :: parts).all isSixtieth
  | _ => false

/-- Whether a digit begins a number without leading zeros. -/
def isLeadDigit (c : Char) : Bool := '1' ≤ c && c ≤ '9'

/-- Whether a text is written as an integer. -/
def isInteger (text : List Char) : Bool :=
  let digits := unsigned text
  let based :=
    match digits with
    | '0' :: 'b' :: rest => isRun (fun c => c = '0' || c = '1' || c = '_') rest
    | '0' :: 'x' :: rest =>
        isRun (fun c => c.isDigit || ('a' ≤ c && c ≤ 'f') || ('A' ≤ c && c ≤ 'F') || c = '_') rest
    | '0' :: rest => rest.isEmpty || rest.all fun c => ('0' ≤ c && c ≤ '7') || c = '_'
    | c :: rest => isLeadDigit c && rest.all isSpacedDigit
    | [] => false
  based || isSexagesimal isLeadDigit digits

/-- Whether a text is an exponent with a sign, or nothing. -/
def isExponent (text : List Char) : Bool :=
  match text with
  | [] => true
  | mark :: sign :: digits =>
      (mark = 'e' || mark = 'E') && (sign = '-' || sign = '+') && isRun isDigit digits
  | _ => false

/-- Whether a text is a fraction behind its point, with an optional exponent. -/
def isFraction (text : List Char) : Bool :=
  isExponent (text.dropWhile isSpacedDigit)

/-- Whether a text is written as a binary number. -/
def isReal (text : List Char) : Bool :=
  let digits := unsigned text
  let whole := digits.takeWhile fun c => c ≠ '.'
  match digits.dropWhile fun c => c ≠ '.' with
  | '.' :: behind =>
      (whole.head?.any isDigit && whole.all isSpacedDigit && isFraction behind) ||
        (text.head? == some '.' && behind.head?.any isDigit && isFraction behind) ||
        (isSexagesimal isDigit whole && behind.all isSpacedDigit) ||
        (whole.isEmpty &&
          (["inf", "Inf", "INF"].any fun word => word.toList == behind)) ||
        (text.head? == some '.' && (["nan", "NaN", "NAN"].any fun word => word.toList == behind))
  | _ => false

/-! ## Dates and moments -/

/-- The fields of a date or a moment as they are written. -/
structure Stamp where
  year : Nat
  month : Nat
  day : Nat
  /-- Whether month and day are written with two digits. -/
  wide : Bool
  /-- Hour, minute, second and microsecond. -/
  time : Option (Nat × Nat × Nat × Nat)
  /-- The offset from universal time, in minutes. -/
  offset : Option Int
  deriving Repr

/-- The number written by digits. -/
def decimal (digits : List Char) : Nat :=
  digits.foldl (fun value d => value * 10 + (d.toNat - 48)) 0

/-- Reads between `least` and `most` digits: their number, how many they are, and what
follows. -/
def digits? (least most : Nat) (text : List Char) : Option (Nat × Nat × List Char) :=
  let found := (text.take most).takeWhile isDigit
  if found.length < least then none
  else some (decimal found, found.length, text.drop found.length)

/-- What follows a given character. -/
def after? (c : Char) (text : List Char) : Option (List Char) :=
  match text with
  | d :: rest => if d = c then some rest else none
  | [] => none

/-- Whether a character is a space or a tab. -/
def isBlank (c : Char) : Bool := c = ' ' || c = '\t'

/-- The microseconds of a fraction of a second: its first six digits. -/
def microseconds (fraction : List Char) : Nat :=
  let first := fraction.take 6
  decimal first * Nat.pow 10 (6 - first.length)

/-- The offset at the end of a moment; none of it is left over. -/
def offset? (text : List Char) : Option (Option Int) :=
  match text with
  | [] => some none
  | _ =>
      match text.dropWhile isBlank with
      | ['Z'] => some (some 0)
      | sign :: rest =>
          if sign = '-' ∨ sign = '+' then do
            let (hours, _, rest) ← digits? 1 2 rest
            let minutes : Nat ←
              match rest with
              | [] => some 0
              | _ => do
                  let rest ← after? ':' rest
                  let (minutes, _, rest) ← digits? 2 2 rest
                  if rest.isEmpty then some minutes else none
            let total : Int := hours * 60 + minutes
            some (some (if sign = '-' then -total else total))
          else none
      | [] => none

/-- What follows the mark between date and time: the letter T, or blanks. -/
def timeMark? (text : List Char) : Option (List Char) :=
  match text with
  | 'T' :: rest => some rest
  | 't' :: rest => some rest
  | c :: rest => if isBlank c then some (rest.dropWhile isBlank) else none
  | [] => none

/-- The date or moment that a text writes. -/
def stamp? (text : List Char) : Option Stamp := do
  let (year, _, rest) ← digits? 4 4 text
  let rest ← after? '-' rest
  let (month, monthWidth, rest) ← digits? 1 2 rest
  let rest ← after? '-' rest
  let (day, dayWidth, rest) ← digits? 1 2 rest
  let wide := monthWidth == 2 && dayWidth == 2
  if rest.isEmpty then return ⟨year, month, day, wide, none, none⟩
  let rest ← timeMark? rest
  let (hour, _, rest) ← digits? 1 2 rest
  let rest ← after? ':' rest
  let (minute, _, rest) ← digits? 2 2 rest
  let rest ← after? ':' rest
  let (second, _, rest) ← digits? 2 2 rest
  let (fraction, rest) :=
    match rest with
    | '.' :: rest => (rest.takeWhile isDigit, rest.dropWhile isDigit)
    | rest => ([], rest)
  let offset ← offset? rest
  return ⟨year, month, day, wide, some (hour, minute, second, microseconds fraction), offset⟩

/-- Whether a plain text is a date or a moment: a date alone needs two digits for
month and day. -/
def isStamp (text : List Char) : Bool :=
  match stamp? text with
  | some stamp => stamp.time.isSome || stamp.wide
  | none => false

/-! ## Choosing -/

/-- The words for truth values. -/
def booleanWords : List String :=
  ["yes", "Yes", "YES", "no", "No", "NO", "true", "True", "TRUE", "false", "False", "FALSE",
   "on", "On", "ON", "off", "Off", "OFF"]

/-- The words for nothing. -/
def nullWords : List String := ["~", "null", "Null", "NULL", ""]

/-- What a plain scalar stands for.  A line feed at its end does not count, unless it is
all that there is. -/
def tag (text : List Char) : Tag :=
  let chars := if text = ['\n'] then text else Text.withoutLineFeed text
  let isWord := fun word : String => word.toList == chars
  if booleanWords.any isWord then .boolean
  else if isReal chars then .real
  else if isInteger chars then .integer
  else if isWord "<<" then .merge
  else if nullWords.any isWord then .null
  else if isStamp chars then .timestamp
  else if isWord "=" then .default
  else .text

end Plain

end TapeMachine.Yaml
