/-
  Script systems of the Macintosh.

  Each has ASCII and the letters of a script or a group of languages.
-/
import TapeMachine.Encoding.CodePage

set_option autoImplicit false

namespace TapeMachine.Encoding.CodePage

/-- The script system for the languages of Western Europe. -/
def macRoman : CodePage where
  name := "mac_roman"
  aliases := ["macintosh", "macroman"]
  upperHalf :=
    "ÄÅÇÉÑÖÜáàâäãåçéè" ++
    "êëíìîïñóòôöõúùûü" ++
    "†°¢£§•¶ß®©™´¨≠ÆØ" ++
    "∞±≤≥¥µ∂∑∏π∫ªºΩæø" ++
    "¿¡¬√ƒ≈∆«»…\u00a0ÀÃÕŒœ" ++
    "–—“”‘’÷◊ÿŸ⁄€‹›ﬁﬂ" ++
    "‡·‚„‰ÂÊÁËÈÍÎÏÌÓÔ" ++
    "\uf8ffÒÚÛÙıˆ˜¯˘˙˚¸˝˛ˇ"

/-- The script system for the languages of Central Europe. -/
def macLatin2 : CodePage where
  name := "mac_latin2"
  aliases := ["mac_centeuro", "maccentraleurope", "maclatin2"]
  upperHalf :=
    "ÄĀāÉĄÖÜáąČäčĆćéŹ" ++
    "źĎíďĒēĖóėôöõúĚěü" ++
    "†°Ę£§•¶ß®©™ę¨≠ģĮ" ++
    "įĪ≤≥īĶ∂∑łĻļĽľĹĺŅ" ++
    "ņŃ¬√ńŇ∆«»…\u00a0ňŐÕőŌ" ++
    "–—“”‘’÷◊ōŔŕŘ‹›řŖ" ++
    "ŗŠ‚„šŚśÁŤťÍŽžŪÓÔ" ++
    "ūŮÚůŰűŲųÝýķŻŁżĢˇ"

/-- The script system for Croatian. -/
def macCroatian : CodePage where
  name := "mac_croatian"
  aliases := []
  upperHalf :=
    "ÄÅÇÉÑÖÜáàâäãåçéè" ++
    "êëíìîïñóòôöõúùûü" ++
    "†°¢£§•¶ß®Š™´¨≠ŽØ" ++
    "∞±≤≥∆µ∂∑∏š∫ªºΩžø" ++
    "¿¡¬√ƒ≈Ć«Č…\u00a0ÀÃÕŒœ" ++
    "Đ—“”‘’÷◊\uf8ff©⁄€‹›Æ»" ++
    "–·‚„‰ÂćÁčÈÍÎÏÌÓÔ" ++
    "đÒÚÛÙıˆ˜¯πË˚¸Êæˇ"

/-- The script system for Romanian. -/
def macRomanian : CodePage where
  name := "mac_romanian"
  aliases := []
  upperHalf :=
    "ÄÅÇÉÑÖÜáàâäãåçéè" ++
    "êëíìîïñóòôöõúùûü" ++
    "†°¢£§•¶ß®©™´¨≠ĂȘ" ++
    "∞±≤≥¥µ∂∑∏π∫ªºΩăș" ++
    "¿¡¬√ƒ≈∆«»…\u00a0ÀÃÕŒœ" ++
    "–—“”‘’÷◊ÿŸ⁄€‹›Țț" ++
    "‡·‚„‰ÂÊÁËÈÍÎÏÌÓÔ" ++
    "\uf8ffÒÚÛÙıˆ˜¯˘˙˚¸˝˛ˇ"

/-- The script system for Cyrillic. -/
def macCyrillic : CodePage where
  name := "mac_cyrillic"
  aliases := ["maccyrillic"]
  upperHalf :=
    "АБВГДЕЖЗИЙКЛМНОП" ++
    "РСТУФХЦЧШЩЪЫЬЭЮЯ" ++
    "†°Ґ£§•¶І®©™Ђђ≠Ѓѓ" ++
    "∞±≤≥іµґЈЄєЇїЉљЊњ" ++
    "јЅ¬√ƒ≈∆«»…\u00a0ЋћЌќѕ" ++
    "–—“”‘’÷„ЎўЏџ№Ёёя" ++
    "абвгдежзийклмноп" ++
    "рстуфхцчшщъыьэю€"

/-- The script system for Greek. -/
def macGreek : CodePage where
  name := "mac_greek"
  aliases := ["macgreek"]
  upperHalf :=
    "Ä¹²É³ÖÜ΅àâä΄¨çéè" ++
    "êë£™îï•½‰ôö¦€ùûü" ++
    "†ΓΔΘΛΞΠß®©ΣΪ§≠°·" ++
    "Α±≤≥¥ΒΕΖΗΙΚΜΦΫΨΩ" ++
    "άΝ¬ΟΡ≈Τ«»…\u00a0ΥΧΆΈœ" ++
    "–―“”‘’÷ΉΊΌΎέήίόΏ" ++
    "ύαβψδεφγηιξκλμνο" ++
    "πώρστθωςχυζϊϋΐΰ\u00ad"

/-- The script system for Icelandic. -/
def macIceland : CodePage where
  name := "mac_iceland"
  aliases := ["maciceland"]
  upperHalf :=
    "ÄÅÇÉÑÖÜáàâäãåçéè" ++
    "êëíìîïñóòôöõúùûü" ++
    "Ý°¢£§•¶ß®©™´¨≠ÆØ" ++
    "∞±≤≥¥µ∂∑∏π∫ªºΩæø" ++
    "¿¡¬√ƒ≈∆«»…\u00a0ÀÃÕŒœ" ++
    "–—“”‘’÷◊ÿŸ⁄€ÐðÞþ" ++
    "ý·‚„‰ÂÊÁËÈÍÎÏÌÓÔ" ++
    "\uf8ffÒÚÛÙıˆ˜¯˘˙˚¸˝˛ˇ"

/-- The script system for Turkish. -/
def macTurkish : CodePage where
  name := "mac_turkish"
  aliases := ["macturkish"]
  upperHalf :=
    "ÄÅÇÉÑÖÜáàâäãåçéè" ++
    "êëíìîïñóòôöõúùûü" ++
    "†°¢£§•¶ß®©™´¨≠ÆØ" ++
    "∞±≤≥¥µ∂∑∏π∫ªºΩæø" ++
    "¿¡¬√ƒ≈∆«»…\u00a0ÀÃÕŒœ" ++
    "–—“”‘’÷◊ÿŸĞğİıŞş" ++
    "‡·‚„‰ÂÊÁËÈÍÎÏÌÓÔ" ++
    "\uf8ffÒÚÛÙ\uf8a0ˆ˜¯˘˙˚¸˝˛ˇ"

/-- The script system for Arabic. -/
def macArabic : CodePage where
  name := "mac_arabic"
  aliases := []
  upperHalf :=
    "Ä\u00a0ÇÉÑÖÜáàâä\u06ba«çéè" ++
    "êëí…îïñó»ôö÷úùûü" ++
    " !\u0022#$٪&\u0027()*+،-.\u002f" ++
    "٠١٢٣٤٥٦٧٨٩:\u061b<=>\u061f" ++
    "❊\u0621\u0622\u0623\u0624\u0625\u0626\u0627" ++
    "\u0628\u0629\u062a\u062b\u062c\u062d\u062e\u062f" ++
    "\u0630\u0631\u0632\u0633\u0634\u0635\u0636\u0637\u0638\u0639\u063a[\u005c]^_" ++
    "\u0640\u0641\u0642\u0643\u0644\u0645\u0646\u0647" ++
    "\u0648\u0649\u064a\u064b\u064c\u064d\u064e\u064f" ++
    "\u0650\u0651\u0652\u067e\u0679\u0686\u06d5\u06a4" ++
    "\u06af\u0688\u0691\u007b|\u007d\u0698\u06d2"

/-- The script system for Farsi. -/
def macFarsi : CodePage where
  name := "mac_farsi"
  aliases := []
  upperHalf :=
    "Ä\u00a0ÇÉÑÖÜáàâä\u06ba«çéè" ++
    "êëí…îïñó»ôö÷úùûü" ++
    " !\u0022#$٪&\u0027()*+،-.\u002f" ++
    "۰۱۲۳۴۵۶۷۸۹:\u061b<=>\u061f" ++
    "❊\u0621\u0622\u0623\u0624\u0625\u0626\u0627" ++
    "\u0628\u0629\u062a\u062b\u062c\u062d\u062e\u062f" ++
    "\u0630\u0631\u0632\u0633\u0634\u0635\u0636\u0637\u0638\u0639\u063a[\u005c]^_" ++
    "\u0640\u0641\u0642\u0643\u0644\u0645\u0646\u0647" ++
    "\u0648\u0649\u064a\u064b\u064c\u064d\u064e\u064f" ++
    "\u0650\u0651\u0652\u067e\u0679\u0686\u06d5\u06a4" ++
    "\u06af\u0688\u0691\u007b|\u007d\u0698\u06d2"

/-- Script systems of the Macintosh. -/
def macintoshPages : List CodePage :=
  [macRoman, macLatin2, macCroatian, macRomanian, macCyrillic, macGreek, macIceland, macTurkish,
   macArabic, macFarsi]

end TapeMachine.Encoding.CodePage
