/-
  Arguments of the command line.

  An argument is an option or a plain argument.  Options may be abbreviated as long as
  they stay distinct, and their values stand behind an equals sign or are the next
  argument.  Behind two hyphens alone all arguments are plain.
-/
import TapeMachine.CommandLine.Usage
import TapeMachine.Text.Integer
import TapeMachine.Text.Lines
import TapeMachine.Text.UpperCase

set_option autoImplicit false

namespace TapeMachine.CommandLine

open Text (Codes)

/-! ## Words -/

/-- What an argument is by its form. -/
inductive Word where
  /-- A plain argument. -/
  | plain (text : Codes)
  /-- Two hyphens: all arguments behind them are plain. -/
  | separator
  /-- An option, with the value behind its equals sign when it has one. -/
  | switch (kind : Switch) (value : Option Codes)
  /-- The short name of the help option with more characters behind it, but for one equals
  sign in between. -/
  | shortHelp (tail : Codes)
  /-- An argument that looks like an option and is none. -/
  | unknown (text : Codes)
  deriving DecidableEq, Repr

namespace Word

/-- The separator as it is written. -/
def separatorText : Codes := .ofString "--"

/-- Splits a text at its first equals sign. -/
def splitValue (text : Codes) : Codes × Option Codes :=
  (text.takeWhile (· ≠ .char '='),
    match text.dropWhile (· ≠ .char '=') with
    | _ :: value => some value
    | [] => none)

/-- Digits alone. -/
def isDigits (text : List Char) : Bool :=
  !text.isEmpty && text.all fun c => (Text.digitValue? c).isSome

/-- Whether an argument is a negative number: digits behind a hyphen, with a point in
front of the last ones or without; a line feed may follow. -/
def isNegativeNumber (text : List Char) : Bool :=
  match Text.withoutLineFeed text with
  | '-' :: number =>
      let fraction := number.dropWhile fun c => (Text.digitValue? c).isSome
      match fraction with
      | [] => isDigits number
      | '.' :: digits => isDigits digits
      | _ => false
  | _ => false

/-- What an argument that is neither an option nor an abbreviation of one is. -/
def ofOther (text : Codes) : Word :=
  let isNumber := isNegativeNumber (text.map Text.CodePoint.standIn)
  if isNumber || text.contains (.char ' ') then .plain text else .unknown text

/-- The form of an argument in front of a separator. -/
def ofArgument (argument : Codes) : Except UsageError Word :=
  match argument with
  | .char '-' :: .char '-' :: _ =>
      let (name, value) := splitValue argument
      match Switch.all.find? fun known => Codes.ofString known.name == name with
      | some known => .ok (.switch known value)
      | none =>
          match Switch.beginningWith name with
          | [] => .ok (ofOther argument)
          | [known] => .ok (.switch known value)
          | candidates => .error (.ambiguous argument candidates)
  | .char '-' :: .char 'h' :: tail =>
      match tail with
      | [] => .ok (.switch .help none)
      | .char '=' :: value => .ok (.shortHelp value)
      | tail => .ok (.shortHelp tail)
  | .char '-' :: _ :: _ => .ok (ofOther argument)
  | _ => .ok (.plain argument)

/-- The forms of all arguments. -/
def ofArguments : List Codes → Except UsageError (List Word)
  | [] => .ok []
  | argument :: rest =>
      if argument = separatorText then .ok (.separator :: rest.map .plain)
      else do
        let word ← ofArgument argument
        let words ← ofArguments rest
        return word :: words

end Word

/-! ## Arguments -/

/-- What an option is given. -/
inductive Given (α : Type) where
  /-- A value. -/
  | value (value : α)
  /-- Nothing: the separator stands where the value should. -/
  | nothing
  deriving DecidableEq, Repr, Inhabited

/-- What a command line asks for. -/
structure Arguments where
  /-- The path of the program. -/
  program : Codes
  /-- The path of the settings file. -/
  config : Option Codes := none
  /-- The path of the file that the program reads. -/
  input : Option (Given Codes) := none
  maxCells : Option (Given Int) := none
  logLevel : Option (Given Level) := none
  deriving DecidableEq, Repr, Inhabited

/-- Why a command line comes to no arguments. -/
inductive Stop where
  /-- It asks for the help text. -/
  | help
  /-- It is refused. -/
  | refused (error : UsageError)
  deriving DecidableEq, Repr

/-- The arguments found so far: the program when there is one, the options, and what
nothing takes. -/
structure Found where
  program : Option Codes := none
  options : Arguments := { program := [] }
  extra : List Codes := []

namespace Found

/-- What the help option comes to with characters behind its short name: they may be
the same short name again. -/
def shortHelp : (tail : Codes) → Stop
  | [.char 'h'] => .help
  | .char 'h' :: code :: rest => shortHelp (code :: rest)
  | tail => .refused (.unwantedValue .help tail)

/-- Sets an option to what it is given.  Without a path there is no settings file. -/
def set (found : Found) (switch : Switch) (given : Given Codes) : Except Stop Found :=
  let setting (options : Arguments) : Except Stop Found := .ok { found with options }
  match switch, given with
  | .help, _ => .error .help
  | .config, .value path => setting { found.options with config := some path }
  | .config, .nothing => setting { found.options with config := none }
  | .input, given => setting { found.options with input := some given }
  | .maxCells, .nothing => setting { found.options with maxCells := some .nothing }
  | .maxCells, .value text =>
      match Text.Integer.parse 10 text with
      | .ok number => setting { found.options with maxCells := some (.value number) }
      | .error _ => .error (.refused (.notInteger .maxCells text))
  | .logLevel, .nothing => setting { found.options with logLevel := some .nothing }
  | .logLevel, .value text =>
      let name := Text.upperCodes text
      match name.toChars?.bind fun chars => Level.ofName? (String.ofList chars) with
      | some level => setting { found.options with logLevel := some (.value level) }
      | none => .error (.refused (.notLevel .logLevel name))

/-- Sets an option to the value that is written for it. -/
def assign (found : Found) (switch : Switch) (text : Codes) : Except Stop Found :=
  found.set switch (if text = Word.separatorText then .nothing else .value text)

/-- Adds an argument that nothing takes. -/
def addExtra (found : Found) (text : Codes) : Found :=
  { found with extra := found.extra ++ [text] }

/-- Goes through words from left to right.  The first plain argument is the program,
with a separator next to it. -/
def take (found : Found) : List Word → Except Stop Found
  | [] => .ok found
  | .switch .help none :: _ => .error .help
  | .switch .help (some value) :: _ => .error (.refused (.unwantedValue .help value))
  | .switch switch (some value) :: rest => do take (← found.assign switch value) rest
  | .switch switch none :: .plain value :: rest => do take (← found.assign switch value) rest
  | .switch switch none :: _ => .error (.refused (.missingValue switch))
  | .shortHelp tail :: _ => .error (shortHelp tail)
  | .unknown text :: rest => take (found.addExtra text) rest
  | .separator :: .plain text :: rest =>
      match found.program with
      | none => take { found with program := some text } rest
      | some _ => take ((found.addExtra Word.separatorText).addExtra text) rest
  | .separator :: rest => take (found.addExtra Word.separatorText) rest
  | .plain text :: .separator :: rest =>
      match found.program with
      | none => take { found with program := some text } rest
      | some _ => take ((found.addExtra text).addExtra Word.separatorText) rest
  | .plain text :: rest =>
      match found.program with
      | none => take { found with program := some text } rest
      | some _ => take (found.addExtra text) rest

/-- The arguments, once all words have been gone through. -/
def finish (found : Found) : Except Stop Arguments :=
  match found.program with
  | none => .error (.refused .missingProgram)
  | some program =>
      if found.extra.isEmpty then .ok { found.options with program }
      else .error (.refused (.unrecognized found.extra))

end Found

/-- Reads a command line. -/
def Arguments.ofList (arguments : List Codes) : Except Stop Arguments :=
  match Word.ofArguments arguments with
  | .error e => .error (.refused e)
  | .ok words => do (← ({} : Found).take words).finish

end TapeMachine.CommandLine
