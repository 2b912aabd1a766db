/-
  The structured semantics of blocks.

  A block does what its parts do, one after another, and a loop repeats its body while the
  current cell is not zero.  Nothing here jumps: the offset of a part is only the place that
  an error names.  What a part means is a relation between the tape and the port in front of
  it and its outcome; a part that goes on forever has no outcome.
-/
import TapeMachine.Machine
import TapeMachine.Proofs.LoopTree

set_option autoImplicit false

namespace TapeMachine

/-! ## Outcomes -/

/-- How a part of a program ends, and the number of steps it takes. -/
inductive Outcome (π : Type) where
  /-- Everything is done. -/
  | ended (tape : Tape) (port : π) (steps : Nat)
  /-- The instruction at a place raises an error, and does not count as a step. -/
  | raised (error : Raised) (place : Nat) (tape : Tape) (port : π) (steps : Nat)

namespace Outcome

variable {π : Type}

/-- The outcome when other steps have been taken before. -/
def after (before : Nat) : Outcome π → Outcome π
  | ended tape port steps => .ended tape port (before + steps)
  | raised error place tape port steps => .raised error place tape port (before + steps)

end Outcome

/-- The outcome of a basic instruction at a place. -/
def Basic.outcome {π : Type} [Port π] (place : Nat) (tape : Tape) (port : π) :
    Basic → Outcome π
  | moveRight =>
      match tape.moveRight with
      | (tape, none) => .ended tape port 1
      | (tape, some fault) => .raised (.fault fault) place tape port 0
  | moveLeft =>
      match tape.moveLeft with
      | (tape, none) => .ended tape port 1
      | (tape, some _) => .raised (.fault (.underflow (some place))) place tape port 0
  | increment => .ended tape.increment port 1
  | decrement => .ended tape.decrement port 1
  | output =>
      match Port.write port tape.current.toNat with
      | (port, .ok ()) => .ended tape port 1
      | (port, .error error) => .raised (.ofPort error) place tape port 0
  | input =>
      match Port.read port with
      | (port, .ok value) =>
          -- The end of the input is read as zero.
          match tape.write (value.getD 0) with
          | (tape, none) => .ended tape port 1
          | (tape, some failure) => .raised (.fault (.port failure)) place tape port 0
      | (port, .error error) => .raised (.ofPort error) place tape port 0

/-! ## Meanings -/

/-- What a part of a program means: its outcomes on a tape and a port. -/
def Meaning (π : Type) : Type := Tape → π → Outcome π → Prop

namespace Meaning

variable {π : Type}

/-- The outcome is always the one given. -/
def Always (outcome : Tape → π → Outcome π) : Meaning π :=
  fun tape port result => result = outcome tape port

/-- The second part follows when the first one has ended. -/
inductive Then (first second : Meaning π) : Meaning π
  | ended {tape middle : Tape} {port port' : π} {n : Nat} {outcome : Outcome π}
      (h : first tape port (.ended middle port' n)) (h' : second middle port' outcome) :
      Then first second tape port (outcome.after n)
  | raised {tape tape' : Tape} {port port' : π} {error : Raised} {place n : Nat}
      (h : first tape port (.raised error place tape' port' n)) :
      Then first second tape port (.raised error place tape' port' n)

/-- The body is repeated while the current cell is not zero.  Each time it costs a step in
front of the body and a step behind it. -/
inductive While (body : Meaning π) : Meaning π
  | stop {tape : Tape} {port : π} (hzero : tape.current = 0) :
      While body tape port (.ended tape port 0)
  | again {tape middle : Tape} {port port' : π} {n : Nat} {outcome : Outcome π}
      (hnonzero : tape.current ≠ 0) (hbody : body tape port (.ended middle port' n))
      (hrest : While body middle port' outcome) :
      While body tape port (outcome.after (n + 2))
  | raised {tape tape' : Tape} {port port' : π} {error : Raised} {place n : Nat}
      (hnonzero : tape.current ≠ 0) (hbody : body tape port (.raised error place tape' port' n)) :
      While body tape port (.raised error place tape' port' (n + 1))

/-- A loop: when the current cell is zero, one step passes over it. -/
def Loop (body : Meaning π) : Meaning π :=
  fun tape port outcome =>
    if tape.current = 0 then outcome = .ended tape port 1 else While body tape port outcome

end Meaning

/-- What a block that stands at an offset means. -/
def Block.Runs {π : Type} [Port π] : Block → Nat → Meaning π
  | done, _ => .Always fun tape port => .ended tape port 0
  | basic operation rest, offset =>
      .Then (.Always fun tape port => operation.outcome offset tape port) (rest.Runs (offset + 1))
  | loop body rest, offset =>
      .Then (.Loop (body.Runs (offset + 1))) (rest.Runs (offset + 1 + body.length + 1))

end TapeMachine
