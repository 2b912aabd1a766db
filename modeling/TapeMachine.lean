import TapeMachine.Main
import TapeMachine.Port.Device
import TapeMachine.Proofs.Agreement
import TapeMachine.Proofs.CellLimit
import TapeMachine.Proofs.CountingLoops
import TapeMachine.Proofs.DocumentShapes
import TapeMachine.Proofs.EndOfInput
import TapeMachine.Proofs.Failing
import TapeMachine.Proofs.FilesAndInput
import TapeMachine.Proofs.Growth
import TapeMachine.Proofs.IdealTape
import TapeMachine.Proofs.Layers
import TapeMachine.Proofs.LoadedSettings
import TapeMachine.Proofs.LoopEntry
import TapeMachine.Proofs.MalformedSettings
import TapeMachine.Proofs.MultiplyingLoops
import TapeMachine.Proofs.NumberSettings
import TapeMachine.Proofs.Relocation
import TapeMachine.Proofs.Retrying
import TapeMachine.Proofs.ReusedInterpreter
import TapeMachine.Proofs.Sequencing
import TapeMachine.Proofs.UnreadSources
import TapeMachine.Proofs.Workshop
import TapeMachine.Session
