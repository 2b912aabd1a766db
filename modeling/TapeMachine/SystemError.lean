/-
  Failures of the operating system.

  A failure has a number and a text, and often names the path that it is about; the
  number decides its kind.  A failure may also carry nothing but a text.
-/
import TapeMachine.Text.Quoted

set_option autoImplicit false

namespace TapeMachine

/-! ## Kinds -/

/-- The kinds of failures that are told apart. -/
inductive SystemErrorKind where
  /-- No kind of its own. -/
  | general
  /-- The operation would have to wait. -/
  | blocking
  /-- A child process is missing. -/
  | childProcess
  /-- A connection failed. -/
  | connection
  /-- The other end of a pipe is closed. -/
  | brokenPipe
  /-- A connection was given up. -/
  | connectionAborted
  /-- A connection was refused. -/
  | connectionRefused
  /-- A connection was cut. -/
  | connectionReset
  /-- The file is there already. -/
  | fileExists
  /-- There is no such file. -/
  | fileNotFound
  /-- A signal interrupted the operation. -/
  | interrupted
  /-- A directory stands where a file is wanted. -/
  | isDirectory
  /-- A file stands where a directory is wanted. -/
  | notDirectory
  /-- The operation is not allowed. -/
  | permission
  /-- A process is missing. -/
  | processLookup
  /-- The operation took too long. -/
  | timeout
  deriving DecidableEq, Repr, Inhabited

/-- The kind that a number stands for. -/
def SystemErrorKind.ofNumber (number : Int) : SystemErrorKind :=
  if number = 1 ∨ number = 13 then .permission
  else if number = 2 then .fileNotFound
  else if number = 3 then .processLookup
  else if number = 4 then .interrupted
  else if number = 10 then .childProcess
  else if number = 11 ∨ number = 114 ∨ number = 115 then .blocking
  else if number = 17 then .fileExists
  else if number = 20 then .notDirectory
  else if number = 21 then .isDirectory
  else if number = 32 ∨ number = 108 then .brokenPipe
  else if number = 103 then .connectionAborted
  else if number = 104 then .connectionReset
  else if number = 110 then .timeout
  else if number = 111 then .connectionRefused
  else .general

/-! ## Failures -/

/-- What a failure tells. -/
inductive SystemErrorDetail where
  /-- A text alone. -/
  | plain (text : String)
  /-- A number with its text and the path that it is about. -/
  | numbered (number : Int) (text : String) (path : Option Text.Codes)
  deriving DecidableEq, Repr, Inhabited

/-- A failure of the operating system. -/
structure SystemError where
  kind : SystemErrorKind
  detail : SystemErrorDetail
  deriving DecidableEq, Repr, Inhabited

namespace SystemError

/-- The wording of a failure. -/
def message (e : SystemError) : String :=
  match e.detail with
  | .plain text => text
  | .numbered number text none => s!"[Errno {number}] {text}"
  | .numbered number text (some path) =>
      s!"[Errno {number}] {text}: " ++ Text.quotedCodes path

/-- The failure with a number, of the kind that the number stands for. -/
def ofNumber (number : Int) (text : String) (path : Option Text.Codes) : SystemError :=
  ⟨.ofNumber number, .numbered number text path⟩

/-- The file does not exist. -/
def fileNotFound (path : Text.Codes) : SystemError :=
  ofNumber 2 "No such file or directory" (some path)

/-- A directory was opened as a file. -/
def isDirectory (path : Text.Codes) : SystemError :=
  ofNumber 21 "Is a directory" (some path)

/-- A file was used as a directory. -/
def notDirectory (path : Text.Codes) : SystemError :=
  ofNumber 20 "Not a directory" (some path)

/-- A name in the path is too long. -/
def nameTooLong (path : Text.Codes) : SystemError :=
  ofNumber 36 "File name too long" (some path)

end SystemError

end TapeMachine
