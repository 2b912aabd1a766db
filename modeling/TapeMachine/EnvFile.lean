/-
  Environment files.

  An environment file has one assignment on a line, such as `NAME=value`.  The word
  `export` may stand in front of it, blanks around the equals sign, and a comment
  behind it.  A value may be quoted, and then may go over several lines.  A variable
  in braces behind a dollar sign stands for its value, whatever its bytes are.  What is no
  assignment is skipped to the end of its line.
-/
import TapeMachine.Environment
import TapeMachine.Text.Blank
import TapeMachine.Text.UpperCase

set_option autoImplicit false

namespace TapeMachine.EnvFile

/-! ## Parts of a line -/

/-- Whether a character ends a line. -/
def isLineEnd (c : Char) : Bool := c = '\n' || c = '\r'

/-- Whether a character is white space inside a line. -/
def isInlineBlank (c : Char) : Bool := Text.isBlank c && !isLineEnd c

/-- Past the rest of the line and its end. -/
def skipLine (text : List Char) : List Char :=
  (text.dropWhile fun c => !isLineEnd c).drop 1

/-- Past the word `export` and the blanks behind it, when both are there. -/
def skipExport (text : List Char) : List Char :=
  let word := "export".toList
  if word.isPrefixOf text then
    let behind := text.drop word.length
    if behind.head?.any isInlineBlank then behind.dropWhile isInlineBlank else text
  else text

/-- Past an optional comment and the end of the line; none when something else is
there.  A failure tells what is left. -/
def finishLine (text : List Char) : Except (List Char) (List Char) :=
  let bare := text.dropWhile isInlineBlank
  let text := if bare.head? = some '#' then bare.dropWhile fun c => !isLineEnd c else text
  match text.dropWhile isInlineBlank with
  | [] => .ok []
  | '\r' :: '\n' :: rest => .ok rest
  | '\r' :: rest => .ok rest
  | '\n' :: rest => .ok rest
  | _ => .error text

/-! ## Names -/

/-- Whether a character may stand in a name without quotes. -/
def isBareName (c : Char) : Bool := !(c = '=' || c = '#' || Text.isBlank c)

/-- The name that an assignment begins with, and what follows; a comment has no
name. -/
def name (text : List Char) : Except (List Char) (Option String × List Char) :=
  match text with
  | '#' :: _ => .ok (none, text)
  | '\x27' :: rest =>
      let inside := rest.takeWhile (· ≠ '\x27')
      match rest.dropWhile (· ≠ '\x27') with
      | _ :: behind =>
          if inside.isEmpty then .error text else .ok (some (String.ofList inside), behind)
      | [] => .error text
  | _ =>
      match text.takeWhile isBareName with
      | [] => .error text
      | bare => .ok (some (String.ofList bare), text.dropWhile isBareName)

/-! ## Values -/

/-- The length of a quoted value up to its closing quote: the first quote that is not
escaped.  A backslash escapes whatever character follows it. -/
def closing (quote : Char) (place : Nat) : List Char → Option Nat
  | [] => none
  | '\\' :: _ :: rest => closing quote (place + 2) rest
  | c :: rest => if c = quote then some place else closing quote (place + 1) rest

/-- The character that an escape stands for between the given quotes. -/
def escaped? (quote c : Char) : Option Char :=
  if quote = '\x27' then [('\\', '\\'), ('\x27', '\x27')].lookup c
  else
    [('\\', '\\'), ('\x27', '\x27'), ('\x22', '\x22'), ('a', '\x07'), ('b', '\x08'),
     ('f', '\x0c'), ('n', '\n'), ('r', '\r'), ('t', '\t'), ('v', '\x0b')].lookup c

/-- A quoted value with its escapes replaced. -/
def unescape (quote : Char) : List Char → List Char
  | '\\' :: c :: rest =>
      match escaped? quote c with
      | some replacement => replacement :: unescape quote rest
      | none => '\\' :: unescape quote (c :: rest)
  | c :: rest => c :: unescape quote rest
  | [] => []
termination_by text => text.length

/-- A bare value without a comment: a number sign behind a blank begins one. -/
def withoutComment : List Char → List Char
  | [] => []
  | c :: rest =>
      if Text.isBlank c && (rest.dropWhile Text.isBlank).head? = some '#' then []
      else c :: withoutComment rest

/-- A bare value: the text of a line without a comment and without blanks around it. -/
def bareValue (line : List Char) : String :=
  String.ofList (Text.trim Text.isBlank (withoutComment line))

/-- The value behind an equals sign, and what follows it.  A failure tells what is
left. -/
def value (text : List Char) : Except (List Char) (String × List Char) :=
  match text.dropWhile isInlineBlank with
  | [] => .ok ("", [])
  | c :: rest =>
      if c = '\x27' ∨ c = '\x22' then
        match closing c 0 rest with
        | some length =>
            .ok (String.ofList (unescape c (rest.take length)), rest.drop (length + 1))
        | none => .error (c :: rest)
      else
        .ok (bareValue (text.takeWhile fun c => !isLineEnd c),
          text.dropWhile fun c => !isLineEnd c)

/-! ## Statements -/

/-- An assignment; a name alone has no value, and a comment has no name. -/
structure Statement where
  name : Option String
  value : Option String
  deriving DecidableEq, Repr

/-- Reads a statement that begins at its first character. -/
def statement (text : List Char) : Except (List Char) (Statement × List Char) := do
  let (name, rest) ← name (skipExport text)
  let rest := rest.dropWhile isInlineBlank
  let (value, rest) ←
    match rest with
    | '=' :: behind => do
        let (value, rest) ← value behind
        pure (some value, rest)
    | _ => pure (none, rest)
  let rest ← finishLine rest
  return (⟨name, value⟩, rest)

/-- What an environment file holds: its assignments in order, and the numbers of the
lines where something that is none begins. -/
structure Contents where
  assignments : List (String × Option String)
  badLines : List Nat
  deriving DecidableEq, Repr

/-- The number of line ends in a part of a text of which a rest is left. -/
def linesBefore (text rest : List Char) : Nat :=
  (text.take (text.length - rest.length)).count '\n'

/-- Reads statements up to the end of a text, from the given line on. -/
def statements : (fuel : Nat) → (line : Nat) → List Char → Contents
  | 0, _, _ => ⟨[], []⟩
  | fuel + 1, line, text =>
      match text.dropWhile Text.isBlank with
      | [] => ⟨[], []⟩
      | start =>
          match statement start with
          | .ok (found, rest) =>
              let behind := statements fuel (line + linesBefore text rest) rest
              match found.name with
              | some name =>
                  { behind with assignments := (name, found.value) :: behind.assignments }
              | none => behind
          | .error rest =>
              let rest := skipLine rest
              let behind := statements fuel (line + linesBefore text rest) rest
              { behind with badLines := line :: behind.badLines }

/-- The character that may mark the beginning of a file. -/
def mark : Char := '\ufeff'

/-- The contents of an environment file. -/
def parse (text : List Char) : Contents :=
  let text := if text.head? = some mark then text.drop 1 else text
  statements (text.length + 1) 1 text

/-! ## Variables in values -/

/-- A variable in braces behind a dollar sign: its name, what stands for it when it is
not set, and the text behind the braces. -/
def reference? (text : List Char) : Option (String × Option String × List Char) :=
  let isName := fun c : Char => !(c = '\x7d' || c = ':')
  let name := String.ofList (text.takeWhile isName)
  match text.dropWhile isName with
  | ':' :: '-' :: rest =>
      match rest.dropWhile (· ≠ '\x7d') with
      | _ :: behind => some (name, some (String.ofList (rest.takeWhile (· ≠ '\x7d'))), behind)
      | [] => none
  | '\x7d' :: behind => some (name, none, behind)
  | _ => none

/-- The variables of an environment file; one that it names without a value has none. -/
abbrev FileVariables := Variables (Option (List UInt8))

/-- What a variable stands for.  Variables of the environment come before those of the
file; one that the file names without a value stands for nothing. -/
def lookup (environment : RawEnvironment) (known : FileVariables) (name : String)
    (default : Option String) : List UInt8 :=
  match environment.value? name with
  | some value => value
  | none =>
      match known.value? name with
      | some value => value.getD []
      | none => Encoding.Utf8.encode (default.getD "").toList

/-- The bytes of a value with its variables replaced. -/
def expand (find : String → Option String → List UInt8) :
    (fuel : Nat) → List Char → List UInt8
  | 0, text => Encoding.Utf8.encode text
  | _ + 1, [] => []
  | fuel + 1, c :: rest =>
      match c, rest with
      | '$', '\x7b' :: inner =>
          match reference? inner with
          | some (name, default, behind) => find name default ++ expand find fuel behind
          | none => Encoding.Utf8.encode [c] ++ expand find fuel rest
      | _, _ => Encoding.Utf8.encode [c] ++ expand find fuel rest

/-- Puts a variable in: one that is there already keeps its place. -/
def put (known : FileVariables) (name : String) (value : Option (List UInt8)) :
    FileVariables :=
  match known with
  | [] => [(name, value)]
  | (other, old) :: rest =>
      if other = name then (other, value) :: rest else (other, old) :: put rest name value

/-- The variables that assignments set.  Each value may use those set before it; of
several assignments to one name the last one counts. -/
def assigned (environment : RawEnvironment) (assignments : List (String × Option String)) :
    FileVariables :=
  assignments.foldl
    (fun known assignment =>
      let value := assignment.2.map fun value =>
        expand (lookup environment known) (value.length + 1) value.toList
      put known assignment.1 value)
    []

/-- The names of the variables that a value refers to. -/
def referredNames : (fuel : Nat) → List Char → List String
  | 0, _ => []
  | _ + 1, [] => []
  | fuel + 1, c :: rest =>
      match c, rest with
      | '$', '\x7b' :: inner =>
          match reference? inner with
          | some (name, _, behind) => name :: referredNames fuel behind
          | none => referredNames fuel rest
      | _, _ => referredNames fuel rest

/-- The names of all variables that assignments set or refer to. -/
def mentionedNames (assignments : List (String × Option String)) : List String :=
  assignments.flatMap fun assignment =>
    assignment.1 ::
      match assignment.2 with
      | some value => referredNames (value.length + 1) value.toList
      | none => []

/-! ## Loading -/

/-- Why a variable cannot be set. -/
inductive LoadError where
  /-- The name or the value has a null character. -/
  | nullCharacter
  /-- The name has an equals sign. -/
  | equalsSign
  deriving DecidableEq, Repr

/-- The wording of a variable that cannot be set. -/
def LoadError.message : LoadError → String
  | .nullCharacter => "embedded null byte"
  | .equalsSign => "illegal environment variable name"

/-- Sets a variable, unless it is set already. -/
def assign (environment : RawEnvironment) (name : String) (value : List UInt8) :
    Except LoadError RawEnvironment :=
  if (environment.value? name).isSome then .ok environment
  else if name.toList.contains '\x00' || value.contains 0 then .error .nullCharacter
  else if name.toList.contains '=' then .error .equalsSign
  else .ok (environment.addMissing name value)

/-- The environment with the variables of a file; variables that are set already
stay. -/
def load (environment : RawEnvironment) (contents : Contents) :
    Except LoadError RawEnvironment :=
  (assigned environment contents.assignments).foldlM
    (fun environment entry =>
      match entry.2 with
      | some value => assign environment entry.1 value
      | none => .ok environment)
    environment

/-! ## Turning environment files off -/

/-- The variable that turns environment files off. -/
def disablingVariable : String := "PYTHON_DOTENV_DISABLED"

/-- The words that turn environment files off. -/
def disablingWords : List String := ["1", "true", "t", "yes", "y"]

/-- A letter as case does not matter: the long s is an s. -/
def foldCase (c : Char) : Char := if c = '\u017f' then 's' else Text.lowerLatin c

/-- Whether an environment turns environment files off. -/
def isDisabled (environment : RawEnvironment) : Bool :=
  match environment.value? disablingVariable with
  | some value =>
      let text := (Encoding.Utf8.decodeEscaped value).map Text.CodePoint.standIn
      disablingWords.contains (String.ofList (text.map foldCase))
  | none => false

/-- The message for a line that is no assignment. -/
def badLineMessage (line : Nat) : String :=
  s!"python-dotenv could not parse statement starting at line {line}"

end TapeMachine.EnvFile
