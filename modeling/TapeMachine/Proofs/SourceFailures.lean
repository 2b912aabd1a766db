/-
  Failures to load a source text.

  Main statement: a source text is not loaded exactly when the name of its encoding has a
  half of a pair or a null character, its file is not opened, or the bytes that are there
  come to no text under that name; and each of these causes has its own error.
-/
import TapeMachine.SourceText

set_option autoImplicit false

namespace TapeMachine

namespace SourceText

open Encoding (CharacterData Origin Naming)

/-! ## Causes -/

/-- What the name of an encoding stands for where the bytes come from. -/
def namingAt (name : String) : Origin → Naming
  | .file => if name = localeName then .encoding .utf8 else Encoding.ofName name
  | .input => Encoding.ofName name

/-- Bytes come to no text under the name of an encoding. -/
inductive Misreads (data : CharacterData) (name : String) :
    Origin → List UInt8 → LoadError → Prop
  | unknown {origin : Origin} {bytes : List UInt8} (hnaming : namingAt name origin = .unknown) :
      Misreads data name origin bytes (.unknownEncoding name)
  | notText {origin : Origin} {bytes : List UInt8}
      (hnaming : namingAt name origin = .transformation) :
      Misreads data name origin bytes (.notTextEncoding name origin)
  | undecodable {origin : Origin} {bytes : List UInt8} {encoding : Encoding}
      {failure : Encoding.Failure} (hnaming : namingAt name origin = .encoding encoding)
      (hwhole : origin = .file → encoding.isPartialMark bytes = false)
      (hdecode : encoding.decode data origin bytes = .error failure) :
      Misreads data name origin bytes (.undecodable failure name origin)
  | unmarked {bytes : List UInt8} {encoding : Encoding} {text : List Char}
      (hnaming : namingAt name .file = .encoding encoding)
      (hwhole : encoding.isPartialMark bytes = false)
      (hdecode : encoding.decode data .file bytes = .ok text)
      (hmark : encoding.lacksMark bytes = true) :
      Misreads data name .file bytes
        (.missingMark (if encoding = .utf16Marked then .utf16 else .utf32))

/-- The bytes that are to be decoded: those of the standard input, if there are any, or those
of a file. -/
inductive Supplies (host : Host) (path : Text.Codes) : Origin → List UInt8 → Prop
  | input (hpath : path = inputPath) (hbytes : host.input ≠ []) :
      Supplies host path .input host.input
  | file {bytes : List UInt8} (hpath : path ≠ inputPath)
      (hfile : host.readFile path = .ok bytes) : Supplies host path .file bytes

/-- Why the source text of a path is not loaded under the name of an encoding. -/
inductive Fails (host : Host) (path : Text.Codes) : Text.Codes → LoadError → Prop
  | brokenName (before : List Char) (code : Nat) (hcode : Text.CodePoint.isHalf code = true)
      (rest : Text.Codes) :
      Fails host path (before.map .char ++ .half code hcode :: rest)
        (.brokenName ⟨"utf-8", code, before.length,
          before.length + 1 + Encoding.Utf8.halvesRun rest, .halves⟩)
  | nullCharacter {name : String} (hname : '\x00' ∈ name.toList) :
      Fails host path (.ofString name) .nullCharacter
  | unopened {name : String} {error : OpenError} (hname : '\x00' ∉ name.toList)
      (hpath : path ≠ inputPath) (hfile : host.readFile path = .error error) :
      Fails host path (.ofString name) (.unopened error)
  | misreads {name : String} {origin : Origin} {bytes : List UInt8} {error : LoadError}
      (hname : '\x00' ∉ name.toList) (hbytes : Supplies host path origin bytes)
      (herror : Misreads host.characters name origin bytes error) :
      Fails host path (.ofString name) error

namespace Misreads

variable {data : CharacterData} {name : String} {origin : Origin} {bytes : List UInt8}
  {error : LoadError}

theorem eq_of_unknown (h : Misreads data name origin bytes error)
    (hnaming : namingAt name origin = .unknown) : error = .unknownEncoding name := by
  cases h with
  | unknown => rfl
  | notText hother | undecodable hother | unmarked hother =>
      rw [hnaming] at hother
      cases hother

theorem eq_of_transformation (h : Misreads data name origin bytes error)
    (hnaming : namingAt name origin = .transformation) : error = .notTextEncoding name origin := by
  cases h with
  | notText => rfl
  | unknown hother | undecodable hother | unmarked hother =>
      rw [hnaming] at hother
      cases hother

end Misreads

/-! ## Decoding under a name -/

/-- Decodes under the name of an encoding, when it stands for one. -/
def decodeNamed (name : String) (origin : Origin)
    (decodeIn : Encoding → Except LoadError (List Char)) : Except LoadError (List Char) :=
  match namingAt name origin with
  | .encoding encoding => decodeIn encoding
  | .transformation => .error (.notTextEncoding name origin)
  | .unknown => .error (.unknownEncoding name)

/-- The text of a file in an encoding that is known. -/
def decodeFile (data : CharacterData) (bytes : List UInt8) (name : String)
    (encoding : Encoding) : Except LoadError (List Char) := do
  if encoding.isPartialMark bytes then return []
  let text ← (encoding.decode data .file bytes).mapError fun failure =>
    LoadError.undecodable failure name .file
  if encoding.lacksMark bytes then
    throw (.missingMark (if encoding = .utf16Marked then .utf16 else .utf32))
  return Text.unifyLines text

/-- The text of the standard input in an encoding that is known. -/
def decodeInput (data : CharacterData) (bytes : List UInt8) (name : String)
    (encoding : Encoding) : Except LoadError (List Char) :=
  (encoding.decode data .input bytes).mapError fun failure => .undecodable failure name .input

theorem ofFile_eq (data : CharacterData) (bytes : List UInt8) (name : String) :
    ofFile data bytes name = decodeNamed name .file (decodeFile data bytes name) := by
  unfold ofFile decodeNamed namingAt encodingOf
  by_cases hlocale : name = localeName
  · subst hlocale
    rfl
  · simp only [hlocale, if_false]
    cases Encoding.ofName name with
    | unknown | transformation | encoding => rfl

theorem ofInput_eq {data : CharacterData} {bytes : List UInt8} {name : String}
    (hname : '\x00' ∉ name.toList) (hbytes : bytes ≠ []) :
    ofInput data bytes name = decodeNamed name .input (decodeInput data bytes name) := by
  unfold ofInput decodeNamed namingAt encodingOf
  simp only [List.contains_iff_mem, hname, if_false, List.isEmpty_iff, hbytes]
  cases Encoding.ofName name with
  | unknown | transformation | encoding => rfl

section Decoding

variable {data : CharacterData} {name : String} {origin : Origin} {bytes : List UInt8}
  {encoding : Encoding} {error : LoadError}

theorem decodeNamed_eq_error_iff {decodeIn : Encoding → Except LoadError (List Char)}
    (h : ∀ encoding, namingAt name origin = .encoding encoding →
      (decodeIn encoding = .error error ↔ Misreads data name origin bytes error)) :
    decodeNamed name origin decodeIn = .error error ↔ Misreads data name origin bytes error := by
  unfold decodeNamed
  cases hnaming : namingAt name origin with
  | encoding encoding => exact h encoding hnaming
  | transformation =>
      constructor
      · intro herror
        cases herror
        exact .notText hnaming
      · intro hmisreads
        rw [hmisreads.eq_of_transformation hnaming]
  | unknown =>
      constructor
      · intro herror
        cases herror
        exact .unknown hnaming
      · intro hmisreads
        rw [hmisreads.eq_of_unknown hnaming]

theorem decodeFile_eq_error_iff (hnaming : namingAt name .file = .encoding encoding) :
    decodeFile data bytes name encoding = .error error ↔ Misreads data name .file bytes error := by
  unfold decodeFile
  constructor
  · intro h
    split at h
    case isTrue => cases h
    case isFalse hwhole =>
      rw [Bool.not_eq_true] at hwhole
      cases hdecode : encoding.decode data .file bytes with
      | error failure =>
          rw [hdecode] at h
          cases h
          exact .undecodable hnaming (fun _ => hwhole) hdecode
      | ok text =>
          rw [hdecode] at h
          change (if encoding.lacksMark bytes then _ else _) = _ at h
          split at h
          case isTrue hmark =>
            cases h
            exact .unmarked hnaming hwhole hdecode hmark
          case isFalse => cases h
  · intro h
    cases h with
    | unknown hother | notText hother =>
        rw [hnaming] at hother
        cases hother
    | undecodable hsame hwhole hdecode =>
        obtain rfl := Naming.encoding.inj (hnaming.symm.trans hsame)
        rw [hwhole rfl, hdecode]
        rfl
    | unmarked hsame hwhole hdecode hmark =>
        obtain rfl := Naming.encoding.inj (hnaming.symm.trans hsame)
        rw [hwhole, hdecode, hmark]
        rfl

theorem decodeInput_eq_error_iff (hnaming : namingAt name .input = .encoding encoding) :
    decodeInput data bytes name encoding = .error error ↔
      Misreads data name .input bytes error := by
  unfold decodeInput
  constructor
  · intro h
    cases hdecode : encoding.decode data .input bytes with
    | error failure =>
        rw [hdecode] at h
        cases h
        exact .undecodable hnaming (fun horigin => by cases horigin) hdecode
    | ok text =>
        rw [hdecode] at h
        cases h
  · intro h
    cases h with
    | unknown hother | notText hother =>
        rw [hnaming] at hother
        cases hother
    | undecodable hsame _ hdecode =>
        obtain rfl := Naming.encoding.inj (hnaming.symm.trans hsame)
        rw [hdecode]
        rfl

end Decoding

/-! ## Loading -/

theorem map_eq_error_iff {ε α β : Type} {x : Except ε α} {f : α → β} {e : ε} :
    f <$> x = .error e ↔ x = .error e := by
  cases x with
  | error | ok => simp [Functor.map, Except.map]

section Loading

variable {host : Host} {path : Text.Codes} {name : String} {error : LoadError}

theorem loadNamed_of_nullCharacter (hname : '\x00' ∈ name.toList) :
    loadNamed host path name = .error .nullCharacter := by
  unfold loadNamed ofInput
  simp only [List.contains_iff_mem, hname, if_true]
  split <;> rfl

/-- Without bytes on the standard input the name of the encoding does not matter. -/
theorem loadNamed_of_input_eq_nil (hname : '\x00' ∉ name.toList) (hinput : host.input = []) :
    loadNamed host inputPath name = .ok "" := by
  unfold loadNamed ofInput
  simp only [List.contains_iff_mem, hname, hinput, if_true, if_false]
  rfl

theorem loadNamed_inputPath_eq_error_iff (hname : '\x00' ∉ name.toList)
    (hinput : host.input ≠ []) :
    loadNamed host inputPath name = .error error ↔
      Misreads host.characters name .input host.input error := by
  unfold loadNamed
  rw [map_eq_error_iff, if_pos rfl, ofInput_eq hname hinput]
  exact decodeNamed_eq_error_iff fun _ hnaming => decodeInput_eq_error_iff hnaming

theorem loadNamed_of_unopened (hname : '\x00' ∉ name.toList) (hpath : path ≠ inputPath)
    {e : OpenError} (hfile : host.readFile path = .error e) :
    loadNamed host path name = .error (.unopened e) := by
  unfold loadNamed
  simp only [hpath, List.contains_iff_mem, hname, if_false, hfile]
  rfl

theorem loadNamed_file_eq_error_iff (hname : '\x00' ∉ name.toList) (hpath : path ≠ inputPath)
    {bytes : List UInt8} (hfile : host.readFile path = .ok bytes) :
    loadNamed host path name = .error error ↔
      Misreads host.characters name .file bytes error := by
  unfold loadNamed
  simp only [hpath, List.contains_iff_mem, hname, if_false, hfile]
  rw [map_eq_error_iff, ofFile_eq]
  exact decodeNamed_eq_error_iff fun _ hnaming => decodeFile_eq_error_iff hnaming

/-- Under a name that can be looked up there are three causes. -/
theorem fails_of_loadNamed (h : loadNamed host path name = .error error) :
    Fails host path (.ofString name) error := by
  by_cases hname : '\x00' ∈ name.toList
  · obtain rfl := Except.error.inj ((loadNamed_of_nullCharacter hname).symm.trans h)
    exact .nullCharacter hname
  by_cases hpath : path = inputPath
  · subst hpath
    by_cases hinput : host.input = []
    · cases (loadNamed_of_input_eq_nil hname hinput).symm.trans h
    · have herror := (loadNamed_inputPath_eq_error_iff hname hinput).1 h
      exact .misreads hname (.input rfl hinput) herror
  · cases hfile : host.readFile path with
    | error e =>
        obtain rfl := Except.error.inj ((loadNamed_of_unopened hname hpath hfile).symm.trans h)
        exact .unopened hname hpath hfile
    | ok bytes =>
        have herror := (loadNamed_file_eq_error_iff hname hpath hfile).1 h
        exact .misreads hname (.file hpath hfile) herror

theorem load_of_brokenName (before : List Char) (code : Nat)
    (hcode : Text.CodePoint.isHalf code = true) (rest : Text.Codes) :
    load host path (before.map .char ++ .half code hcode :: rest) =
      .error (.brokenName ⟨"utf-8", code, before.length,
        before.length + 1 + Encoding.Utf8.halvesRun rest, .halves⟩) := by
  unfold load
  rw [Encoding.Utf8.writable_append_half]

/-- These are the reasons why a source text is not loaded, and there are no others. -/
theorem load_eq_error_iff {codes : Text.Codes} :
    load host path codes = .error error ↔ Fails host path codes error := by
  constructor
  · intro h
    rcases codes.characters_or_half with ⟨text, rfl⟩ | ⟨before, code, hcode, rest, rfl⟩
    · have hname : Text.Codes.ofString (String.ofList text) = text.map .char := by
        simp [Text.Codes.ofString]
      rw [← hname] at h ⊢
      rw [load_ofString] at h
      exact fails_of_loadNamed h
    · rw [load_of_brokenName] at h
      obtain rfl := Except.error.inj h
      exact .brokenName before code hcode rest
  · intro h
    cases h with
    | brokenName before code hcode rest => exact load_of_brokenName before code hcode rest
    | nullCharacter hname =>
        rw [load_ofString]
        exact loadNamed_of_nullCharacter hname
    | unopened hname hpath hfile =>
        rw [load_ofString]
        exact loadNamed_of_unopened hname hpath hfile
    | misreads hname hbytes herror =>
        rw [load_ofString]
        cases hbytes with
        | input hpath hinput =>
            subst hpath
            exact (loadNamed_inputPath_eq_error_iff hname hinput).2 herror
        | file hpath hfile => exact (loadNamed_file_eq_error_iff hname hpath hfile).2 herror

end Loading

end SourceText

end TapeMachine
