/-
  The console log.

  Records go to standard error once logging is configured, each on a line with a time
  stamp, the logger and the level.  The first configuration fixes the level of all
  loggers; later ones change that of the interpreter's own loggers only.  Before any
  configuration only the messages of warnings and worse are written, as they stand.
-/
import TapeMachine.Journal
import TapeMachine.Text.Quoted

set_option autoImplicit false

namespace TapeMachine

/-! ## Levels -/

/-- A level as it is asked for: by number or by name. -/
inductive LevelChoice where
  /-- A level by number. -/
  | number (value : Int)
  /-- A level by name. -/
  | name (value : String)
  deriving DecidableEq, Repr, Inhabited

namespace LevelChoice

/-- The names that stand for levels, with their numbers. -/
def known : List (String × Int) :=
  [("CRITICAL", 50), ("FATAL", 50), ("ERROR", 40), ("WARN", 30), ("WARNING", 30),
   ("INFO", 20), ("DEBUG", 10), ("NOTSET", 0)]

/-- The number of a level. -/
def number? : LevelChoice → Option Int
  | .number value => some value
  | .name value => known.lookup value

/-- The text that refuses an unknown name. -/
def unknownMessage (name : String) : String :=
  "Unknown level: " ++ Text.quoted name

end LevelChoice

/-- The name of a level number. -/
def levelLabel (number : Int) : String :=
  if number = 0 then "NOTSET"
  else
    match Level.all.find? fun level => (level.number : Int) == number with
    | some level => level.name
    | none => s!"Level {number}"

/-! ## The console -/

/-- The state of logging: the level of all loggers, that of the interpreter's own
(zero when it has none), whether logging is configured, and the time stamp of new
lines. -/
structure Console where
  rootLevel : Int := 30
  ownLevel : Int := 0
  configured : Bool := false
  stamp : String := ""
  deriving DecidableEq, Repr, Inhabited

namespace Console

/-- The name of the interpreter's own logger, above all its others. -/
def ownLogger : String := "bytetape"

/-- The names above a name whose characters are given from the last to the first: what
stands in front of a dot.  A dot right in front of another one is passed over, and so is
one at the start. -/
def namesAbove : (fuel : Nat) → (reversed : List Char) → List String
  | 0, _ => []
  | fuel + 1, reversed =>
      match (reversed.dropWhile (· ≠ '.')).drop 1 with
      | [] => []
      | c :: rest => String.ofList (c :: rest).reverse :: namesAbove fuel rest

/-- Whether a logger is the interpreter's own or below it. -/
def isOwn (logger : String) : Bool :=
  logger == ownLogger || (namesAbove logger.length logger.toList.reverse).contains ownLogger

/-- The least level that a logger lets through. -/
def threshold (console : Console) (logger : String) : Int :=
  if isOwn logger && console.ownLevel != 0 then console.ownLevel else console.rootLevel

/-- Configures logging.  An unknown level is given back. -/
def configure (console : Console) (level : LevelChoice) : Console × Option LevelChoice :=
  match level.number? with
  | some number =>
      let rootLevel := if console.configured then console.rootLevel else number
      ({ console with rootLevel, ownLevel := number, configured := true }, none)
  | none => ({ console with configured := true }, some level)

/-- What a record of a logger writes to standard error. -/
def emit (console : Console) (logger : String) (level : Int) (message : String) : String :=
  let name := if logger = "" then "root" else logger
  if 0 < level ∧ console.threshold logger ≤ level then
    if console.configured then
      s!"{console.stamp} - {name} - {levelLabel level} - {message}\n"
    else if 30 ≤ level then message ++ "\n"
    else ""
  else ""

/-- What a record writes to standard error. -/
def emitRecord (console : Console) (record : Record) : String :=
  console.emit record.logger record.level.number record.message

/-- What records write to standard error, in order. -/
def emitAll (console : Console) (records : List Record) : String :=
  String.join (records.map console.emitRecord)

end Console

end TapeMachine
