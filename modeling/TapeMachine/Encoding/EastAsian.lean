/-
  The encodings of East Asia.

  Each has one byte for an ASCII character and two or more for most others.
-/
import TapeMachine.Encoding.EastAsian.Designation
import TapeMachine.Encoding.EastAsian.Traditional

set_option autoImplicit false

namespace TapeMachine.Encoding

/-- An encoding of East Asia. -/
inductive EastAsian where
  /-- Big5. -/
  | traditional
  /-- Big5 with the Hong Kong supplement. -/
  | traditionalWithSupplement
  /-- Code page 932. -/
  | page932
  /-- Code page 949. -/
  | page949
  /-- Code page 950. -/
  | page950
  /-- The extended encoding of JIS X 0208 and JIS X 0212. -/
  | extendedJapanese
  /-- The extended encoding of an edition of JIS X 0213. -/
  | extended2000 (edition : EastAsian.Edition)
  /-- The extended encoding of KS X 1001. -/
  | extendedKorean
  /-- GB 18030. -/
  | gb18030
  /-- The extended encoding of GB 2312. -/
  | extendedChinese
  /-- GBK. -/
  | gbk
  /-- The mailing encoding of GB 2312. -/
  | mailing
  /-- An encoding that designates character sets. -/
  | designating (name : String) (repertoire : EastAsian.Repertoire)
  /-- The combining encoding of Korean. -/
  | combining
  /-- The shifted encoding of JIS X 0208. -/
  | shifted
  /-- The shifted encoding of an edition of JIS X 0213. -/
  | shifted2000 (edition : EastAsian.Edition)
  deriving DecidableEq, Repr

namespace EastAsian

/-- The name of an encoding in normal form. -/
def name : EastAsian → String
  | traditional => "big5"
  | traditionalWithSupplement => "big5hkscs"
  | page932 => "cp932"
  | page949 => "cp949"
  | page950 => "cp950"
  | extendedJapanese => "euc_jp"
  | extended2000 .first => "euc_jisx0213"
  | extended2000 .second => "euc_jis_2004"
  | extendedKorean => "euc_kr"
  | gb18030 => "gb18030"
  | extendedChinese => "gb2312"
  | gbk => "gbk"
  | mailing => "hz"
  | designating name _ => name
  | combining => "johab"
  | shifted => "shift_jis"
  | shifted2000 .first => "shift_jisx0213"
  | shifted2000 .second => "shift_jis_2004"

/-- The text of the bytes. -/
def decode (encoding : EastAsian) (bytes : List UInt8) : Except DecodeError (List Char) :=
  let simply := fun (read : Reader Unit) => read.decode encoding.name () bytes
  match encoding with
  | traditional => simply readBig5
  | traditionalWithSupplement => simply readHongKong
  | page932 => simply readPage932
  | page949 => simply readPage949
  | page950 => simply readPage950
  | extendedJapanese => simply readExtended
  | extended2000 edition => simply (readExtended2000 edition)
  | extendedKorean => simply readExtendedKorean
  | gb18030 => simply readGb18030
  | extendedChinese => simply readGb2312
  | gbk => simply readGbk
  | mailing => readMailing.decode encoding.name false bytes
  | designating _ repertoire =>
      (Designation.read repertoire).decode encoding.name { } bytes
  | combining => simply readCombining
  | shifted => simply readShifted
  | shifted2000 edition => simply (readShifted2000 edition)

/-! ## Encodings that designate character sets -/

/-- Both editions of JIS X 0208, and Roman letters. -/
def commonSets : List CharacterSet :=
  [.jisX0208 false, .roman, .jisX0208 true]

/-- The encodings of Japanese that designate character sets, and the one of Korean, each
with its aliases. -/
def designatingEncodings : List (EastAsian × List String) :=
  [(.designating "iso2022_jp" ⟨commonSets, false, false, true⟩,
     ["csiso2022jp", "iso2022jp", "iso_2022_jp"]),
   (.designating "iso2022_jp_1" ⟨.jisX0212 :: commonSets, false, false, true⟩,
     ["iso2022jp_1", "iso_2022_jp_1"]),
   (.designating "iso2022_jp_2"
      ⟨.jisX0212 :: .ksX1001 :: .gb2312 :: .latin :: .greek :: commonSets, false, true, true⟩,
     ["iso2022jp_2", "iso_2022_jp_2"]),
   (.designating "iso2022_jp_2004"
      ⟨[.firstPlane .second, .secondPlane, .jisX0208 false], false, false, true⟩,
     ["iso2022jp_2004", "iso_2022_jp_2004"]),
   (.designating "iso2022_jp_3"
      ⟨[.firstPlane .first, .secondPlane, .jisX0208 false], false, false, true⟩,
     ["iso2022jp_3", "iso_2022_jp_3"]),
   (.designating "iso2022_jp_ext"
      ⟨.jisX0212 :: .katakana :: commonSets, false, false, true⟩,
     ["iso2022jp_ext", "iso_2022_jp_ext"]),
   (.designating "iso2022_kr" ⟨[.ksX1001], true, false, false⟩,
     ["csiso2022kr", "iso2022kr", "iso_2022_kr"])]

/-! ## Names -/

/-- The encodings and their aliases. -/
def all : List (EastAsian × List String) :=
  [(.traditional, ["big5_tw", "csbig5", "x_mac_trad_chinese"]),
   (.traditionalWithSupplement, ["big5_hkscs", "hkscs"]),
   (.page932, ["932", "ms932", "ms_kanji", "mskanji"]),
   (.page949, ["949", "ms949", "uhc"]),
   (.page950, ["950", "ms950"]),
   (.extended2000 .second, ["euc_jis2004", "eucjis2004", "jisx0213"]),
   (.extended2000 .first, ["eucjisx0213"]),
   (.extendedJapanese, ["eucjp", "u_jis", "ujis"]),
   (.extendedKorean,
     ["euckr", "korean", "ks_c_5601", "ks_c_5601_1987", "ks_x_1001", "ksc5601", "ksx1001",
      "x_mac_korean"]),
   (.gb18030, ["gb18030_2000"]),
   (.extendedChinese,
     ["chinese", "csiso58gb231280", "euc_cn", "euccn", "eucgb2312_cn", "gb2312_1980",
      "gb2312_80", "iso_ir_58", "x_mac_simp_chinese"]),
   (.gbk, ["936", "cp936", "ms936"]),
   (.mailing, ["hz_gb", "hz_gb_2312", "hzgb"]),
   (.combining, ["cp1361", "ms1361"]),
   (.shifted, ["csshiftjis", "s_jis", "shiftjis", "sjis", "x_mac_japanese"]),
   (.shifted2000 .second, ["s_jis_2004", "shiftjis2004", "sjis_2004"]),
   (.shifted2000 .first, ["s_jisx0213", "shiftjisx0213", "sjisx0213"])] ++
    designatingEncodings

end EastAsian

end TapeMachine.Encoding
