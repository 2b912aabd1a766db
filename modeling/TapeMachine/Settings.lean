/-
  Interpreter settings.
-/
import TapeMachine.Level
import TapeMachine.Tape
import TapeMachine.Text.CodePoint

set_option autoImplicit false

namespace TapeMachine

/-- The settings of the interpreter.  Without a greatest number of cells the tape may
grow without bound. -/
structure Settings where
  maxCells : Option Int := none
  initialCells : Int := 1
  logLevel : Level := .warning
  encoding : Text.Codes := .ofString "utf-8"
  deriving DecidableEq, Repr, Inhabited

namespace Settings

/-- A new tape for a run under the settings; none when they allow no cell. -/
def newTape (settings : Settings) : Option Tape :=
  Tape.create settings.initialCells settings.maxCells

/-- There is a new tape when the settings allow a cell. -/
theorem exists_newTape {settings : Settings}
    (h : ∀ bound, settings.maxCells = some bound → 1 ≤ bound) :
    ∃ tape, settings.newTape = some tape := by
  unfold newTape Tape.create
  cases hcells : settings.maxCells with
  | none => exact ⟨_, rfl⟩
  | some bound => exact ⟨_, dif_pos (h bound hcells)⟩

end Settings

end TapeMachine
