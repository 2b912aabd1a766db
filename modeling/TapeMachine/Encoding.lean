/-
  Text encodings.

  An encoding is chosen by name.  Letter case and punctuation in a name do not
  matter, and most encodings have several names.
-/
import TapeMachine.Encoding.CodePage.Iso8859
import TapeMachine.Encoding.CodePage.Macintosh
import TapeMachine.Encoding.CodePage.Mainframe
import TapeMachine.Encoding.CodePage.Personal
import TapeMachine.Encoding.CodePage.Regional
import TapeMachine.Encoding.CodePage.Windows
import TapeMachine.Encoding.DomainLabel
import TapeMachine.Encoding.EastAsian
import TapeMachine.Encoding.SingleByte
import TapeMachine.Encoding.UnicodeEscape
import TapeMachine.Encoding.Units
import TapeMachine.Encoding.Utf7
import TapeMachine.Encoding.Utf8

set_option autoImplicit false

namespace TapeMachine

/-- A text encoding. -/
inductive Encoding where
  /-- UTF-8. -/
  | utf8
  /-- UTF-8 behind an optional byte order mark. -/
  | utf8Marked
  /-- UTF-16 behind an optional byte order mark. -/
  | utf16Marked
  /-- UTF-16 in a fixed byte order. -/
  | utf16 (order : Encoding.Units.ByteOrder)
  /-- UTF-32 behind an optional byte order mark. -/
  | utf32Marked
  /-- UTF-32 in a fixed byte order. -/
  | utf32 (order : Encoding.Units.ByteOrder)
  /-- UTF-7. -/
  | utf7
  /-- Latin-1. -/
  | latin1
  /-- ASCII. -/
  | ascii
  /-- A code page. -/
  | codePage (page : Encoding.CodePage)
  /-- An encoding of East Asia. -/
  | eastAsian (encoding : Encoding.EastAsian)
  /-- Text with escapes. -/
  | escaped
  /-- Text with escapes by code point only. -/
  | rawEscaped
  /-- Punycode. -/
  | punycode
  /-- Internationalized domain names. -/
  | domainName
  /-- The encoding of no text at all. -/
  | undefined
  deriving DecidableEq, Repr

namespace Encoding

/-! ## Names -/

/-- Whether a character of a name is kept: an ASCII letter or digit, or a dot. -/
def isNameChar (c : Char) : Bool :=
  c.isAlphanum || c == '.'

/-- Lower case, with one underscore for each run of punctuation between kept
characters. -/
def normalizeChars (started gap : Bool) : List Char → List Char
  | [] => []
  | c :: rest =>
      if isNameChar c then
        if gap && started then '_' :: c.toLower :: normalizeChars true false rest
        else c.toLower :: normalizeChars true false rest
      else normalizeChars started true rest

/-- A name in its normal form. -/
def normalizeName (name : String) : String :=
  String.ofList (normalizeChars false false name.toList)

/-- What a name stands for. -/
inductive Naming where
  /-- A text encoding. -/
  | encoding (encoding : Encoding)
  /-- A transformation that is no text encoding. -/
  | transformation
  /-- Nothing known. -/
  | unknown
  deriving DecidableEq, Repr

/-- What has a name and other names, all in normal form. -/
structure Entry where
  naming : Naming
  name : String
  aliases : List String := []
  deriving DecidableEq, Repr

/-- The encodings that are neither code pages nor of East Asia. -/
def generalEntries : List Entry :=
  [⟨.encoding .utf8, "utf_8", ["cp65001", "u8", "utf", "utf8", "utf8_ucs2", "utf8_ucs4"]⟩,
   ⟨.encoding .utf8Marked, "utf_8_sig", []⟩,
   ⟨.encoding .utf16Marked, "utf_16", ["u16", "utf16"]⟩,
   ⟨.encoding (.utf16 .little), "utf_16_le", ["unicodelittleunmarked", "utf_16le"]⟩,
   ⟨.encoding (.utf16 .big), "utf_16_be", ["unicodebigunmarked", "utf_16be"]⟩,
   ⟨.encoding .utf32Marked, "utf_32", ["u32", "utf32"]⟩,
   ⟨.encoding (.utf32 .little), "utf_32_le", ["utf_32le"]⟩,
   ⟨.encoding (.utf32 .big), "utf_32_be", ["utf_32be"]⟩,
   ⟨.encoding .utf7, "utf_7", ["u7", "unicode_1_1_utf_7", "utf7"]⟩,
   ⟨.encoding .latin1, "latin_1",
     ["8859", "cp819", "csisolatin1", "ibm819", "iso8859", "iso8859_1", "iso_8859_1",
      "iso_8859_1_1987", "iso_ir_100", "l1", "latin", "latin1"]⟩,
   ⟨.encoding .latin1, "charmap", []⟩,
   ⟨.encoding .ascii, "ascii",
     ["646", "ansi_x3.4_1968", "ansi_x3.4_1986", "ansi_x3_4_1968", "cp367", "csascii",
      "ibm367", "iso646_us", "iso_646.irv_1991", "iso_ir_6", "us", "us_ascii"]⟩,
   ⟨.encoding .escaped, "unicode_escape", []⟩,
   ⟨.encoding .rawEscaped, "raw_unicode_escape", []⟩,
   ⟨.encoding .punycode, "punycode", []⟩,
   ⟨.encoding .domainName, "idna", []⟩,
   ⟨.encoding .undefined, "undefined", []⟩]

/-- The code pages. -/
def codePages : List CodePage :=
  CodePage.iso8859Pages ++ CodePage.windowsPages ++ CodePage.personalPages ++
    CodePage.mainframePages ++ CodePage.macintoshPages ++ CodePage.regionalPages

/-- Transformations between bytes, or between texts, which are no text encodings. -/
def transformationEntries : List Entry :=
  [⟨.transformation, "base64_codec", ["base64", "base_64"]⟩,
   ⟨.transformation, "bz2_codec", ["bz2"]⟩,
   ⟨.transformation, "hex_codec", ["hex"]⟩,
   ⟨.transformation, "quopri_codec", ["quopri", "quoted_printable", "quotedprintable"]⟩,
   ⟨.transformation, "rot_13", ["rot13"]⟩,
   ⟨.transformation, "uu_codec", ["uu"]⟩,
   ⟨.transformation, "zlib_codec", ["zip", "zlib"]⟩]

/-- All that has a name. -/
def entries : List Entry :=
  generalEntries ++
    codePages.map (fun page => ⟨.encoding (.codePage page), page.name, page.aliases⟩) ++
    EastAsian.all.map (fun (encoding, aliases) =>
      ⟨.encoding (.eastAsian encoding), encoding.name, aliases⟩) ++
    transformationEntries

/-- The entry with an alias. -/
def withAlias? (name : String) : Option Entry :=
  entries.find? fun entry => entry.aliases.contains name

/-- A name with underscores for its dots. -/
def withoutDots (name : String) : String :=
  name.map fun c => if c = '.' then '_' else c

/-- The entry with a name in normal form.  Only an alias may have other dots than those
it is listed with. -/
def entry? (name : String) : Option Entry :=
  match withAlias? name with
  | some entry => some entry
  | none =>
      match withAlias? (withoutDots name) with
      | some entry => some entry
      | none => entries.find? fun entry => entry.name == name

/-- Looks a name up. -/
def ofName (name : String) : Naming :=
  match entry? (normalizeName name) with
  | some entry => entry.naming
  | none => .unknown

/-! ## Decoding -/

/-- Where bytes come from. -/
inductive Origin where
  /-- A file. -/
  | file
  /-- The standard input. -/
  | input
  deriving DecidableEq, Repr, Inhabited

/-- Why bytes have no text in an encoding. -/
inductive Failure where
  /-- Some of the bytes are not the text of the encoding. -/
  | bytes (error : DecodeError)
  /-- The bytes are not in Punycode. -/
  | punycode (error : Punycode.Error)
  /-- The bytes are no domain name. -/
  | label (error : DomainLabel.Error)
  /-- The encoding has no texts. -/
  | undefined
  deriving DecidableEq, Repr

namespace Failure

/-- The wording of a failure. -/
def message : Failure → String
  | bytes error => error.message
  | punycode error => error.message
  | label error => error.message
  | undefined => "undefined encoding"

/-- The failure of Punycode: one of the bytes may be to blame. -/
def ofPunycode : Punycode.Error → Failure
  | .notAscii error => bytes error
  | error => punycode error

/-- The failure of a label: one of its bytes may be to blame. -/
def ofLabel : DomainLabel.Error → Failure
  | .punycode (.notAscii error) => bytes error
  | error => label error

end Failure

/-- The text of the bytes. -/
def decode (encoding : Encoding) (data : CharacterData) (origin : Origin) (bytes : List UInt8) :
    Except Failure (List Char) :=
  match encoding with
  | .utf8 => (Utf8.decode bytes).mapError .bytes
  | .utf8Marked => (Utf8.decodeMarked bytes).mapError .bytes
  | .utf16Marked => (Units.decode16Marked bytes).mapError .bytes
  | .utf16 order => (Units.decode16From order [] 0 bytes).mapError .bytes
  | .utf32Marked => (Units.decode32Marked bytes).mapError .bytes
  | .utf32 order => (Units.decode32From order [] 0 bytes).mapError .bytes
  | .utf7 => (Utf7.decode bytes).mapError .bytes
  | .latin1 => .ok (SingleByte.decodeLatin1 bytes)
  | .ascii => (SingleByte.decodeAscii bytes).mapError .bytes
  | .codePage page => (page.decode bytes).mapError .bytes
  | .eastAsian encoding => (encoding.decode bytes).mapError .bytes
  | .escaped => (UnicodeEscape.decode data bytes).mapError .bytes
  | .rawEscaped => (UnicodeEscape.decodeRaw bytes).mapError .bytes
  | .punycode =>
      match Punycode.decode bytes with
      | .ok text => .ok (text.map Text.CodePoint.standIn)
      | .error error => .error (.ofPunycode error)
  | .domainName =>
      match origin with
      | .file => (DomainLabel.decodeWhole data bytes).mapError .ofLabel
      | .input => (DomainLabel.decode data bytes).mapError .ofLabel
  | .undefined => .error .undefined

/-- Whether bytes read as a file lack a byte order mark that the encoding insists on
there.  An empty file needs none. -/
def lacksMark (encoding : Encoding) (bytes : List UInt8) : Bool :=
  match encoding with
  | .utf16Marked => !bytes.isEmpty && (Units.mark16? bytes).isNone
  | .utf32Marked => !bytes.isEmpty && (Units.mark32? bytes).isNone
  | _ => false

/-- Whether a file holds nothing but the beginning of a byte order mark, which counts
as no text. -/
def isPartialMark (encoding : Encoding) (bytes : List UInt8) : Bool :=
  encoding == .utf8Marked && decide (bytes.length < 3) && bytes.isPrefixOf Utf8.mark

end Encoding

end TapeMachine
