/-
  Levels of log records.
-/
set_option autoImplicit false

namespace TapeMachine

/-- The level of a log record. -/
inductive Level where
  /-- Details of the inner working. -/
  | debug
  /-- What happened. -/
  | info
  /-- Something unexpected. -/
  | warning
  /-- Something failed. -/
  | error
  /-- Nothing works. -/
  | critical
  deriving DecidableEq, Repr, Inhabited

namespace Level

/-- The levels, from the least to the greatest. -/
def all : List Level := [debug, info, warning, error, critical]

/-- The name of a level. -/
def name : Level → String
  | debug => "DEBUG"
  | info => "INFO"
  | warning => "WARNING"
  | error => "ERROR"
  | critical => "CRITICAL"

/-- The number of a level. -/
def number : Level → Nat
  | debug => 10
  | info => 20
  | warning => 30
  | error => 40
  | critical => 50

/-- The level of a name. -/
def ofName? (name : String) : Option Level :=
  all.find? fun level => level.name == name

end Level

end TapeMachine
