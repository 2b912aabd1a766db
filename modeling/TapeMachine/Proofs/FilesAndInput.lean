/-
  The same bytes in a file and on the standard input.

  Read from a file a source text has line feeds for all its line ends; from the standard input
  it comes as it is.  Main statement: in UTF-8, ASCII and Latin-1 the same bytes are refused in
  both places with the same failure, or they give two texts that compile to equal programs or
  to the fault of the same bracket.
-/
import TapeMachine.Proofs.CommandSymbols
import TapeMachine.Proofs.SourceFailures

set_option autoImplicit false

namespace TapeMachine

/-! ## Line ends -/

namespace Instruction

theorem lexChars_comment {c : Char} (h : ofSymbol? c = none) (before after : List Char) :
    lexChars (before ++ c :: after) = lexChars (before ++ after) := by
  rw [lexChars_append, lexChars_append, lexChars, lexChars, List.filterMap_cons_none h]
  rfl

/-- Line ends are comments, wherever and in whatever runs they stand. -/
theorem lexChars_unifyLinesFrom (done text : List Char) :
    lexChars (Text.unifyLinesFrom done text) = lexChars (done.reverse ++ text) := by
  have hreturn : ofSymbol? '\r' = none := rfl
  have hfeed : ofSymbol? '\n' = none := rfl
  fun_induction Text.unifyLinesFrom done text with
  | case1 done => rw [List.append_nil]
  | case2 done rest ih =>
      rw [ih, lexChars_comment hreturn, List.reverse_cons, List.append_assoc]
      rfl
  | case3 done rest _ ih =>
      rw [ih, lexChars_comment hreturn, List.reverse_cons, List.append_assoc]
      exact lexChars_comment hfeed done.reverse rest
  | case4 done c rest _ _ ih =>
      rw [ih, List.reverse_cons, List.append_assoc]
      rfl

theorem lexChars_unifyLines (text : List Char) :
    lexChars (Text.unifyLines text) = lexChars text :=
  lexChars_unifyLinesFrom [] text

end Instruction

/-! ## Encodings without a mark -/

/-- The encoding has no byte order mark and decodes in one way, and where it fails some of the
bytes are to blame. -/
structure Encoding.Markless (encoding : Encoding) : Prop where
  isPartialMark_eq : ∀ bytes, encoding.isPartialMark bytes = false
  lacksMark_eq : ∀ bytes, encoding.lacksMark bytes = false
  decode_nil : ∀ data origin, encoding.decode data origin [] = .ok []
  decode_cases : ∀ bytes,
    (∃ text, ∀ data origin, encoding.decode data origin bytes = .ok text) ∨
      ∃ error, ∀ data origin, encoding.decode data origin bytes = .error (.bytes error)

namespace Encoding

/-- Decoding that depends on the bytes alone either gives a text or blames some of them. -/
theorem decode_cases_of_eq {encoding : Encoding} {bytes : List UInt8}
    {decoded : Except DecodeError (List Char)}
    (h : ∀ data origin, encoding.decode data origin bytes = decoded.mapError .bytes) :
    (∃ text, ∀ data origin, encoding.decode data origin bytes = .ok text) ∨
      ∃ error, ∀ data origin, encoding.decode data origin bytes = .error (.bytes error) := by
  cases decoded with
  | ok text => exact Or.inl ⟨text, h⟩
  | error error => exact Or.inr ⟨error, h⟩

theorem markless_utf8 : Markless utf8 where
  isPartialMark_eq _ := rfl
  lacksMark_eq _ := rfl
  decode_nil _ _ := rfl
  decode_cases _ := decode_cases_of_eq fun _ _ => rfl

theorem markless_ascii : Markless ascii where
  isPartialMark_eq _ := rfl
  lacksMark_eq _ := rfl
  decode_nil _ _ := rfl
  decode_cases _ := decode_cases_of_eq fun _ _ => rfl

theorem markless_latin1 : Markless latin1 where
  isPartialMark_eq _ := rfl
  lacksMark_eq _ := rfl
  decode_nil _ _ := rfl
  decode_cases bytes := Or.inl ⟨SingleByte.decodeLatin1 bytes, fun _ _ => rfl⟩

end Encoding

/-! ## Loading -/

namespace SourceText

/-- What the same bytes come to in a file and on the standard input: to one failure, or to
texts that compile alike. -/
inductive LoadedAlike (name : String) :
    Except LoadError String → Except LoadError String → Prop
  | undecodable (error : Encoding.DecodeError) :
      LoadedAlike name (.error (.undecodable (.bytes error) name .file))
        (.error (.undecodable (.bytes error) name .input))
  | loaded {fromFile fromInput : String}
      (hlines : fromFile.toList = Text.unifyLines fromInput.toList)
      (h : Program.Alike (Program.compile fromFile) (Program.compile fromInput)) :
      LoadedAlike name (.ok fromFile) (.ok fromInput)

section Loading

variable {encoding : Encoding} {data : Encoding.CharacterData} {name : String}
  {bytes : List UInt8}

theorem ofFile_of_markless (h : encoding.Markless)
    (hnaming : namingAt name .file = .encoding encoding) :
    ofFile data bytes name =
      ((encoding.decode data .file bytes).mapError (LoadError.undecodable · name .file)).map
        Text.unifyLines := by
  rw [ofFile_eq, decodeNamed, hnaming]
  simp only [decodeFile, h.isPartialMark_eq, h.lacksMark_eq]
  cases encoding.decode data .file bytes with
  | error | ok => rfl

theorem ofInput_of_markless (h : encoding.Markless)
    (hnaming : namingAt name .input = .encoding encoding) (hname : '\x00' ∉ name.toList) :
    ofInput data bytes name =
      (encoding.decode data .input bytes).mapError (LoadError.undecodable · name .input) := by
  cases bytes with
  | nil =>
      rw [ofInput, if_neg (by simpa using hname), h.decode_nil]
      rfl
  | cons first rest =>
      rw [ofInput_eq hname (List.cons_ne_nil first rest), decodeNamed, hnaming]
      rfl

/-- A name of an encoding without a mark makes no difference between a file and the standard
input. -/
theorem loadedAlike_of_markless (h : encoding.Markless)
    (hnaming : ∀ origin, namingAt name origin = .encoding encoding)
    (hname : '\x00' ∉ name.toList) {host host' : Host} {path : Text.Codes}
    (hpath : path ≠ inputPath) (hfile : host.readFile path = .ok bytes)
    (hinput : host'.input = bytes) :
    LoadedAlike name (load host path (.ofString name)) (load host' inputPath (.ofString name)) := by
  have hnull : ¬ name.toList.contains '\x00' = true := by simpa using hname
  simp only [load_ofString, loadNamed, if_neg hpath, if_neg hnull, hfile, if_true, hinput,
    ofFile_of_markless h (hnaming .file), ofInput_of_markless h (hnaming .input) hname]
  rcases h.decode_cases bytes with ⟨text, htext⟩ | ⟨error, herror⟩
  · rw [htext, htext]
    refine .loaded ?_ (Program.alike_of_lex_eq ?_)
    · simp
    · simp [Instruction.lex, Instruction.lexChars_unifyLines]
  · rw [herror, herror]
    exact .undecodable error

end Loading

/-- A source text in UTF-8, ASCII or Latin-1 is the same program in a file and on the standard
input. -/
theorem loadedAlike_of_bytes {name : String} (hname : name ∈ ["utf-8", "ascii", "latin-1"])
    {host host' : Host} {path : Text.Codes} {bytes : List UInt8} (hpath : path ≠ inputPath)
    (hfile : host.readFile path = .ok bytes) (hinput : host'.input = bytes) :
    LoadedAlike name (load host path (.ofString name)) (load host' inputPath (.ofString name)) := by
  have hutf8 : Encoding.ofName "utf-8" = .encoding .utf8 := by decide +kernel
  have hascii : Encoding.ofName "ascii" = .encoding .ascii := by decide +kernel
  have hlatin1 : Encoding.ofName "latin-1" = .encoding .latin1 := by decide +kernel
  simp only [List.mem_cons, List.not_mem_nil, or_false] at hname
  rcases hname with rfl | rfl | rfl
  · exact loadedAlike_of_markless Encoding.markless_utf8
      (fun origin => by cases origin <;> exact hutf8) (by decide) hpath hfile hinput
  · exact loadedAlike_of_markless Encoding.markless_ascii
      (fun origin => by cases origin <;> exact hascii) (by decide) hpath hfile hinput
  · exact loadedAlike_of_markless Encoding.markless_latin1
      (fun origin => by cases origin <;> exact hlatin1) (by decide) hpath hfile hinput

/-- A loop around line ends of every kind. -/
theorem loadedAlike_of_bytes_returns :
    let bytes : List UInt8 := [0x5B, 0x0D, 0x0D, 0x0A, 0x2D, 0x0A, 0x0D, 0x5D]
    let host : Host := { readFile := fun _ => .ok bytes }
    let host' : Host :=
      { readFile := fun path => .error (.system (.fileNotFound path)), input := bytes }
    host.readFile (.ofString "loop") = .ok bytes ∧ host'.input = bytes ∧
      LoadedAlike "utf-8" (load host (.ofString "loop") (.ofString "utf-8"))
        (load host' (.ofString "-") (.ofString "utf-8")) := by
  intro bytes host host'
  exact ⟨rfl, rfl, loadedAlike_of_bytes (by decide) (by decide) rfl rfl⟩

end SourceText

end TapeMachine
