/-
  The command as an executable.

  The files that the arguments name, the variables that matter and the standard input
  are read first; the rest is the command itself.  Output is written while the program
  runs.
-/
import TapeMachine.Command

set_option autoImplicit false

namespace TapeMachine.Main

/-! ## Reading the surroundings -/

/-- The number of an error of the system. -/
def errorNumber (code : UInt32) : Nat :=
  if code < 0x80000000 then code.toNat else 0x100000000 - code.toNat

/-- The error of a number, with the wording of the system when it has no other. -/
def numberedError (path : Text.Codes) (code : UInt32) (details : String) : SystemError :=
  match errorNumber code with
  | 2 => .fileNotFound path
  | 13 => .ofNumber 13 "Permission denied" (some path)
  | 20 => .notDirectory path
  | 21 => .isDirectory path
  | 36 => .nameTooLong path
  | number => .ofNumber number details (some path)

/-- The error of the system in a failure to read a file. -/
def systemError (path : Text.Codes) : IO.Error → SystemError
  | .alreadyExists _ code details => numberedError path code details
  | .otherError code details => numberedError path code details
  | .resourceBusy code details => numberedError path code details
  | .resourceVanished code details => numberedError path code details
  | .unsupportedOperation code details => numberedError path code details
  | .hardwareFault code details => numberedError path code details
  | .unsatisfiedConstraints code details => numberedError path code details
  | .illegalOperation code details => numberedError path code details
  | .protocolError code details => numberedError path code details
  | .timeExpired code details => numberedError path code details
  | .interrupted _ code details => numberedError path code details
  | .noFileOrDirectory _ code details => numberedError path code details
  | .invalidArgument _ code details => numberedError path code details
  | .permissionDenied _ code details => numberedError path code details
  | .resourceExhausted _ code details => numberedError path code details
  | .inappropriateType _ code details => numberedError path code details
  | .noSuchThing _ code details => numberedError path code details
  | .unexpectedEof => ⟨.general, .plain "unexpected end of file"⟩
  | .userError details => ⟨.general, .plain details⟩

/-- Opens a file and reads it. -/
def readFile (path : Text.Codes) : IO (Except OpenError (List UInt8)) := do
  match Encoding.Utf8.writable path with
  | .error e => return .error (.brokenPath e)
  | .ok name =>
      if name.contains '\x00' then return .error .nullCharacter
      try return .ok (← IO.FS.readBinFile (String.ofList name)).toList
      catch e => return .error (.system (systemError path e))

/-- The nearest environment file in a directory or above it. -/
def nearestEnvFile : (depth : Nat) → (directory : List String) → IO (Option (List UInt8))
  | 0, _ => return none
  | depth + 1, directory => do
      let path := "/" ++ "/".intercalate (directory ++ [Host.envFileName])
      match ← readFile (.ofString path) with
      | .ok bytes => return some bytes
      | .error _ => nearestEnvFile depth directory.dropLast

/-- The names of the variables that settings may depend on. -/
def relevantNames (envFile : Option (List UInt8)) : List String :=
  let mentioned :=
    match envFile.map Encoding.Utf8.decode with
    | some (.ok text) =>
        EnvFile.mentionedNames (EnvFile.parse (Text.unifyLines text)).assignments
    | _ => []
  EnvFile.disablingVariable :: (Settings.Field.all.map Settings.Field.variableName ++ mentioned)

/-- The variables of the given names that are set. -/
def readEnvironment (names : List String) : IO RawEnvironment := do
  names.filterMapM fun name => do
    return (← IO.getEnv name).map fun value => (name, Encoding.Utf8.encode value.toList)

/-- The rest of the standard input, after the bytes read so far. -/
partial def readRest (stream : IO.FS.Stream) (done : ByteArray) : IO ByteArray := do
  let chunk ← stream.read 65536
  if chunk.isEmpty then return done else readRest stream (done ++ chunk)

/-- The paths of the files that arguments name. -/
def namedPaths (arguments : CommandLine.Arguments) : List Text.Codes :=
  let input :=
    match arguments.input with
    | some (.value path) => [path]
    | _ => []
  arguments.program :: (arguments.config.toList ++ input)

/-- Whether the standard input is read, as the program or by it. -/
def readsInput (arguments : CommandLine.Arguments) : Bool :=
  arguments.input.isNone || arguments.program == SourceText.inputPath

/-- The surroundings of the command with the given arguments. -/
def surroundings (arguments : CommandLine.Arguments) : IO Host := do
  let files ← (namedPaths arguments).mapM fun path => do return (path, ← readFile path)
  let directory := ((← IO.currentDir).toString.splitOn "/").filter (· ≠ "")
  let envFile ← nearestEnvFile (directory.length + 1) directory
  let environment ← readEnvironment (relevantNames envFile)
  let input ← if readsInput arguments then readRest (← IO.getStdin) .empty else pure .empty
  return {
    readFile := fun path => (files.lookup path).getD (.error (.system (.fileNotFound path)))
    envFile
    environment
    input := input.toList }

/-! ## Running -/

/-- The bytes of the output from a position on. -/
def outputFrom (machine : Machine StreamPort) (position : Nat) : ByteArray :=
  ⟨(machine.port.written?.getD #[]).extract position⟩

/-- The number of steps between two writes of the output. -/
def stride : Nat := 1000000

/-- Runs a program to its end and writes its output on the way. -/
partial def runToEnd (ready : Command.Ready) (machine : Machine StreamPort) (position : Nat) :
    IO Command.Report := do
  let (after, verdict) := machine.run stride
  let bytes := outputFrom after position
  let stdout ← IO.getStdout
  stdout.write bytes
  stdout.flush
  match verdict with
  | .unfinished => runToEnd ready after (position + bytes.size)
  | verdict => return ready.finish after verdict

/-- The text for a failure that ends the command as it is. -/
def uncaughtText : Command.Ending → String
  | .settings error => error.message
  | .source _ error => error.message
  | .input _ error => error.message
  | .unnamedInput => Command.Ending.unnamedMessage
  | .limitTooSmall => Tape.limitMessage
  | _ => "internal error"

/-- Writes what a report adds to the output, and gives the exit code. -/
def conclude (report : Command.Report) : IO UInt32 := do
  (← IO.getStderr).putStr report.diagnostics
  match report.ending.exitCode? with
  | some code => return UInt32.ofNat code
  | none =>
      (← IO.getStderr).putStrLn (uncaughtText report.ending)
      return 1

/-- A time stamp for log lines: seconds and milliseconds of a clock that never goes
back. -/
def timeStamp : IO String := do
  let now ← IO.monoMsNow
  let milliseconds := toString (1000 + now % 1000)
  return s!"{now / 1000},{milliseconds.drop 1}"

/-- The host of a command whose arguments come to nothing. -/
def noSurroundings : Host := { readFile := fun path => .error (.system (.fileNotFound path)) }

end TapeMachine.Main

open TapeMachine TapeMachine.Main in
/-- Runs the command. -/
def main (arguments : List String) : IO UInt32 := do
  let arguments := arguments.map Text.Codes.ofString
  let host ←
    match CommandLine.Arguments.ofList arguments with
    | .ok found => surroundings found
    | .error _ => pure noSurroundings
  match Command.prepare { stamp := ← timeStamp } arguments host with
  | .error report => do
      (← IO.getStdout).write ⟨report.output⟩
      conclude report
  | .ok ready => do conclude (← runToEnd ready ready.machine 0)
