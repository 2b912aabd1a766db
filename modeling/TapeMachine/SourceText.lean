/-
  Source texts.

  A source text comes from a file or from the standard input.  A file is read with
  line feeds for all line ends; the standard input is taken as it is.  A half of a pair that
  an encoding gives is no command, and stands as the replacement character.
-/
import TapeMachine.Encoding
import TapeMachine.Host
import TapeMachine.Text.Lines

set_option autoImplicit false

namespace TapeMachine.SourceText

open Encoding (CharacterData Origin)

/-! ## Failures -/

/-- A byte order mark that an encoding insists on. -/
inductive Mark where
  /-- The mark of UTF-16. -/
  | utf16
  /-- The mark of UTF-32. -/
  | utf32
  deriving DecidableEq, Repr, Inhabited

/-- Why a source text is not loaded. -/
inductive LoadError where
  /-- The file cannot be opened. -/
  | unopened (error : OpenError)
  /-- The name of the encoding has halves of pairs. -/
  | brokenName (error : Encoding.EncodeError)
  /-- The name of the encoding has a null character. -/
  | nullCharacter
  /-- There is no encoding of the name. -/
  | unknownEncoding (name : String)
  /-- The name stands for a transformation that is no text encoding. -/
  | notTextEncoding (name : String) (origin : Origin)
  /-- The bytes have no text in the encoding of the name. -/
  | undecodable (failure : Encoding.Failure) (name : String) (origin : Origin)
  /-- The byte order mark is missing. -/
  | missingMark (mark : Mark)
  deriving DecidableEq, Repr

/-- The wording of a failure to load a source text. -/
def LoadError.message : LoadError → String
  | .unopened error => error.message
  | .brokenName error => error.message
  | .nullCharacter => "embedded null character"
  | .unknownEncoding name => "unknown encoding: " ++ name
  | .notTextEncoding name origin =>
      let opener :=
        match origin with
        | .file => "codecs.open()"
        | .input => "codecs.decode()"
      s!"'{name}' is not a text encoding; use {opener} to handle arbitrary codecs"
  | .undecodable (.bytes error) _ _ => error.message
  -- The labels are kept beside the wording, and so no other wording is put around it.
  | .undecodable (.label (.changed label other)) _ _ =>
      (Encoding.DomainLabel.Error.changed label other).message
  | .undecodable failure _ .file => failure.message
  | .undecodable failure name .input =>
      s!"decoding with '{name}' codec failed (UnicodeError: {failure.message})"
  | .missingMark .utf16 => "UTF-16 stream does not start with BOM"
  | .missingMark .utf32 => "UTF-32 stream does not start with BOM"

/-! ## Encodings by name -/

/-- The encoding of a name. -/
def encodingOf (name : String) (origin : Origin) : Except LoadError Encoding :=
  match Encoding.ofName name with
  | .encoding encoding => .ok encoding
  | .transformation => .error (.notTextEncoding name origin)
  | .unknown => .error (.unknownEncoding name)

/-- The name that stands for the encoding of the locale when a file is opened. -/
def localeName : String := "locale"

/-! ## Loading -/

/-- The text of the standard input.  Without bytes there is no need to know the
encoding. -/
def ofInput (data : CharacterData) (bytes : List UInt8) (encodingName : String) :
    Except LoadError (List Char) :=
  if encodingName.toList.contains '\x00' then .error .nullCharacter
  else if bytes.isEmpty then .ok []
  else do
    let encoding ← encodingOf encodingName .input
    (encoding.decode data .input bytes).mapError fun failure =>
      .undecodable failure encodingName .input

/-- The text of a file with the given bytes. -/
def ofFile (data : CharacterData) (bytes : List UInt8) (encodingName : String) :
    Except LoadError (List Char) := do
  let encoding ←
    if encodingName = localeName then pure .utf8 else encodingOf encodingName .file
  if encoding.isPartialMark bytes then return []
  let text ← (encoding.decode data .file bytes).mapError fun failure =>
    LoadError.undecodable failure encodingName .file
  if encoding.lacksMark bytes then
    throw (.missingMark (if encoding = .utf16Marked then .utf16 else .utf32))
  return Text.unifyLines text

/-- The path that stands for the standard input. -/
def inputPath : Text.Codes := .ofString "-"

/-- The source text that a path names, in an encoding whose name can be looked up. -/
def loadNamed (host : Host) (path : Text.Codes) (encodingName : String) :
    Except LoadError String :=
  String.ofList <$>
    if path = inputPath then ofInput host.characters host.input encodingName
    else if encodingName.toList.contains '\x00' then .error .nullCharacter
    else
      match host.readFile path with
      | .error e => .error (.unopened e)
      | .ok bytes => ofFile host.characters bytes encodingName

/-- The source text that a path names.  Nothing is read under a name that cannot be
written. -/
def load (host : Host) (path encodingName : Text.Codes) : Except LoadError String :=
  match Encoding.Utf8.writable encodingName with
  | .ok name => loadNamed host path (String.ofList name)
  | .error e => .error (.brokenName e)

theorem load_ofString (host : Host) (path : Text.Codes) (name : String) :
    load host path (.ofString name) = loadNamed host path name := by
  unfold load Text.Codes.ofString
  rw [Encoding.Utf8.writable_map_char]
  exact congrArg (loadNamed host path) String.ofList_toList

end TapeMachine.SourceText
