/-
  Options of the command line and how they are described.
-/
import TapeMachine.Level
import TapeMachine.Text.Quoted

set_option autoImplicit false

namespace TapeMachine.CommandLine

/-! ## Options -/

/-- An option. -/
inductive Switch where
  /-- Shows the help text. -/
  | help
  /-- Names the settings file. -/
  | config
  /-- Names the file that the program reads. -/
  | input
  /-- Limits the number of cells. -/
  | maxCells
  /-- Sets the least level of the records that are written. -/
  | logLevel
  deriving DecidableEq, Repr, Inhabited

namespace Switch

/-- The options in the order in which they are described. -/
def all : List Switch := [help, config, input, maxCells, logLevel]

/-- The name of an option. -/
def name : Switch → String
  | help => "--help"
  | config => "--config"
  | input => "--input"
  | maxCells => "--max-cells"
  | logLevel => "--log-level"

/-- The short name of the option that shows the help text. -/
def shortHelp : String := "-h"

/-- An option with all its names, as errors call it. -/
def title : Switch → String
  | help => s!"{shortHelp}/{help.name}"
  | other => other.name

/-- The options whose names begin with a text. -/
def beginningWith (text : Text.Codes) : List Switch :=
  all.filter fun switch => text.isPrefixOf (Text.Codes.ofString switch.name)

end Switch

/-! ## Errors -/

/-- Why a command line is refused. -/
inductive UsageError where
  /-- No program is named. -/
  | missingProgram
  /-- There are arguments that nothing takes. -/
  | unrecognized (arguments : List Text.Codes)
  /-- An abbreviation fits several options. -/
  | ambiguous (argument : Text.Codes) (candidates : List Switch)
  /-- An option has no value. -/
  | missingValue (switch : Switch)
  /-- An option takes no value and has one. -/
  | unwantedValue (switch : Switch) (value : Text.Codes)
  /-- The value of an option is not an integer. -/
  | notInteger (switch : Switch) (value : Text.Codes)
  /-- The value of an option is not a level. -/
  | notLevel (switch : Switch) (value : Text.Codes)
  deriving DecidableEq, Repr

/-- The wording of a refused command line. -/
def UsageError.message : UsageError → String
  | .missingProgram => "the following arguments are required: program"
  | .unrecognized arguments =>
      "unrecognized arguments: " ++ " ".intercalate (arguments.map Text.Codes.written)
  | .ambiguous argument candidates =>
      s!"ambiguous option: {argument.written} could match " ++
        ", ".intercalate (candidates.map Switch.name)
  | .missingValue switch => s!"argument {switch.title}: expected one argument"
  | .unwantedValue switch value =>
      s!"argument {switch.title}: ignored explicit argument " ++ Text.quotedCodes value
  | .notInteger switch value =>
      s!"argument {switch.title}: invalid int value: " ++ Text.quotedCodes value
  | .notLevel switch value =>
      let choices := ", ".intercalate (Level.all.map fun level => Text.quoted level.name)
      s!"argument {switch.title}: invalid choice: " ++ Text.quotedCodes value ++
        s!" (choose from {choices})"

/-! ## Texts -/

/-- The name of the command. -/
def commandName : String := "bytetape"

/-- The levels as the usage shows them. -/
def levelChoices : String :=
  "\x7b" ++ ",".intercalate (Level.all.map Level.name) ++ "\x7d"

/-- The usage of the command. -/
def usage : String :=
  s!"usage: {commandName} [-h] [--config CONFIG] [--input INPUT] [--max-cells MAX_CELLS]\n" ++
  s!"                [--log-level {levelChoices}]\n" ++
  "                program\n"

/-- The help text. -/
def helpText : String :=
  usage ++
  "\n" ++
  "Run a program on the byte tape interpreter\n" ++
  "\n" ++
  "positional arguments:\n" ++
  "  program               Program file, or '-' to read the program from stdin\n" ++
  "\n" ++
  "options:\n" ++
  "  -h, --help            show this help message and exit\n" ++
  "  --config CONFIG       YAML file with interpreter settings\n" ++
  "  --input INPUT         Read program input from this file instead of stdin\n" ++
  "  --max-cells MAX_CELLS\n" ++
  "                        Fail once the tape would grow past N cells\n" ++
  s!"  --log-level {levelChoices}\n"

/-- What is written for a refused command line. -/
def usageFailure (error : UsageError) : String :=
  usage ++ s!"{commandName}: error: {error.message}\n"

end TapeMachine.CommandLine
