/-
  Sessions.

  In a session programs are loaded one after another and their machines are driven
  by hand.  All of them use one port, and one tape when the session has its own.  The
  session keeps the journal of what it compiled and ran.
-/
import TapeMachine.Journal

set_option autoImplicit false

namespace TapeMachine

/-- A session. -/
structure Session (π : Type) where
  /-- The port, while there is no machine. -/
  port : π
  /-- The tape shared by all machines, while there is no machine. -/
  shared : Option Tape
  /-- The current machine. -/
  machine : Option (Machine π)
  /-- What was recorded. -/
  journal : Array Record

namespace Session

variable {π : Type} [Port π]

/-- A session without a program. -/
def create (port : π) (shared : Option Tape) : Session π :=
  ⟨port, shared, none, #[]⟩

/-- The port in its present state. -/
def currentPort (session : Session π) : π :=
  match session.machine with
  | some machine => machine.port
  | none => session.port

/-- The tape for the next machine: the shared one in its present state, or a new one
of a single cell. -/
def nextTape (session : Session π) : Tape :=
  match session.shared, session.machine with
  | none, _ => Tape.single
  | some tape, none => tape
  | some _, some machine => machine.tape

/-- The session with further records. -/
def note (session : Session π) (records : List Record) : Session π :=
  { session with journal := session.journal ++ records.toArray }

/-- Compiles a source text and puts a machine in front of it.  When a table is given,
it takes the place of the resolved one.  After a fault the machine before stays. -/
def load (session : Session π) (source : String) (jumps : Option JumpTable) :
    Session π × Option Fault :=
  let compiled := Program.compile source
  let noted := session.note (Program.compileRecords compiled)
  match compiled with
  | .error fault => (noted, some fault)
  | .ok program =>
      let program := { program with jumps := jumps.getD program.jumps }
      ({ noted with
          machine := some (Machine.start program session.currentPort session.nextTape) }, none)

/-- The session after its machine was driven, with the records of that. -/
def advance (session : Session π) (machine : Machine π) (records : List Record) : Session π :=
  { session.note records with machine := some machine }

/-- What several steps leave behind: the machine, the records, and a row for each
step or the error that stopped them.  A row has the index, the pointer and the current
cell after the step. -/
structure Steps (π : Type) where
  machine : Machine π
  records : List Record
  rows : Except Raised (List (Int × Nat × UInt8))

/-- Steps a machine several times, stopping at the first error.  `rows` gathers the
rows, the last one first. -/
def stepMany : (count : Nat) → (rows : List (Int × Nat × UInt8)) → Machine π → Steps π
  | 0, rows, machine => ⟨machine, [], .ok rows.reverse⟩
  | count + 1, rows, machine =>
      match machine.step with
      | (after, none) =>
          stepMany count ((after.index, after.tape.pointer, after.tape.current) :: rows) after
      | (after, some raised) => ⟨after, machine.faultRecords after, .error raised⟩

/-- Steps the machine of the session several times. -/
def step (count : Nat) (session : Session π) (machine : Machine π) :
    Session π × Except Raised (List (Int × Nat × UInt8)) :=
  let steps := stepMany count [] machine
  (session.advance steps.machine steps.records, steps.rows)

/-- Runs the machine of the session for at most `fuel` steps. -/
def run (fuel : Nat) (session : Session π) (machine : Machine π) : Session π × Verdict :=
  let (after, verdict) := machine.run fuel
  (session.advance after (machine.runRecords after verdict), verdict)

/-- The session with another port. -/
def withPort (session : Session π) (port : π) : Session π :=
  { session with
    port := port
    machine := session.machine.map fun machine => { machine with port } }

end Session

end TapeMachine
