/-
  Code pages of personal computers.

  Each has ASCII, the letters of a group of languages and, for the most part, pieces
  of lines and boxes.
-/
import TapeMachine.Encoding.CodePage

set_option autoImplicit false

namespace TapeMachine.Encoding.CodePage

/-- The first code page of personal computers. -/
def page437 : CodePage where
  name := "cp437"
  aliases := ["437", "cspc8codepage437", "ibm437"]
  upperHalf :=
    "ÇüéâäàåçêëèïîìÄÅ" ++
    "ÉæÆôöòûùÿÖÜ¢£¥₧ƒ" ++
    "áíóúñÑªº¿⌐¬½¼¡«»" ++
    "░▒▓│┤╡╢╖╕╣║╗╝╜╛┐" ++
    "└┴┬├─┼╞╟╚╔╩╦╠═╬╧" ++
    "╨╤╥╙╘╒╓╫╪┘┌█▄▌▐▀" ++
    "αßΓπΣσµτΦΘΩδ∞φε∩" ++
    "≡±≥≤⌠⌡÷≈°∙·√ⁿ²■\u00a0"

/-- The code page for Arabic. -/
def page720 : CodePage where
  name := "cp720"
  aliases := []
  upperHalf :=
    "\u0080\u0081éâ\u0084à\u0086çêëèïî\u008d\u008e\u008f" ++
    "\u0090\u0651\u0652ô¤\u0640ûù\u0621\u0622\u0623\u0624£\u0625\u0626\u0627" ++
    "\u0628\u0629\u062a\u062b\u062c\u062d\u062e\u062f\u0630\u0631\u0632\u0633\u0634\u0635«»" ++
    "░▒▓│┤╡╢╖╕╣║╗╝╜╛┐" ++
    "└┴┬├─┼╞╟╚╔╩╦╠═╬╧" ++
    "╨╤╥╙╘╒╓╫╪┘┌█▄▌▐▀" ++
    "\u0636\u0637\u0638\u0639\u063a\u0641µ\u0642" ++
    "\u0643\u0644\u0645\u0646\u0647\u0648\u0649\u064a" ++
    "≡\u064b\u064c\u064d\u064e\u064f\u0650≈°∙·√ⁿ²■\u00a0"

/-- The code page for Greek. -/
def page737 : CodePage where
  name := "cp737"
  aliases := []
  upperHalf :=
    "ΑΒΓΔΕΖΗΘΙΚΛΜΝΞΟΠ" ++
    "ΡΣΤΥΦΧΨΩαβγδεζηθ" ++
    "ικλμνξοπρσςτυφχψ" ++
    "░▒▓│┤╡╢╖╕╣║╗╝╜╛┐" ++
    "└┴┬├─┼╞╟╚╔╩╦╠═╬╧" ++
    "╨╤╥╙╘╒╓╫╪┘┌█▄▌▐▀" ++
    "ωάέήϊίόύϋώΆΈΉΊΌΎ" ++
    "Ώ±≥≤ΪΫ÷≈°∙·√ⁿ²■\u00a0"

/-- The code page for the Baltic languages. -/
def page775 : CodePage where
  name := "cp775"
  aliases := ["775", "cspc775baltic", "ibm775"]
  upperHalf :=
    "ĆüéāäģåćłēŖŗīŹÄÅ" ++
    "ÉæÆōöĢ¢ŚśÖÜø£Ø×¤" ++
    "ĀĪóŻżź”¦©®¬½¼Ł«»" ++
    "░▒▓│┤ĄČĘĖ╣║╗╝ĮŠ┐" ++
    "└┴┬├─┼ŲŪ╚╔╩╦╠═╬Ž" ++
    "ąčęėįšųūž┘┌█▄▌▐▀" ++
    "ÓßŌŃõÕµńĶķĻļņĒŅ’" ++
    "\u00ad±“¾¶§÷„°∙·¹³²■\u00a0"

/-- The code page for the languages of Western Europe. -/
def page850 : CodePage where
  name := "cp850"
  aliases := ["850", "cspc850multilingual", "ibm850"]
  upperHalf :=
    "ÇüéâäàåçêëèïîìÄÅ" ++
    "ÉæÆôöòûùÿÖÜø£Ø×ƒ" ++
    "áíóúñÑªº¿®¬½¼¡«»" ++
    "░▒▓│┤ÁÂÀ©╣║╗╝¢¥┐" ++
    "└┴┬├─┼ãÃ╚╔╩╦╠═╬¤" ++
    "ðÐÊËÈıÍÎÏ┘┌█▄¦Ì▀" ++
    "ÓßÔÒõÕµþÞÚÛÙýÝ¯´" ++
    "\u00ad±‗¾¶§÷¸°¨·¹³²■\u00a0"

/-- The code page for the languages of Central Europe. -/
def page852 : CodePage where
  name := "cp852"
  aliases := ["852", "cspcp852", "ibm852"]
  upperHalf :=
    "ÇüéâäůćçłëŐőîŹÄĆ" ++
    "ÉĹĺôöĽľŚśÖÜŤťŁ×č" ++
    "áíóúĄąŽžĘę¬źČş«»" ++
    "░▒▓│┤ÁÂĚŞ╣║╗╝Żż┐" ++
    "└┴┬├─┼Ăă╚╔╩╦╠═╬¤" ++
    "đĐĎËďŇÍÎě┘┌█▄ŢŮ▀" ++
    "ÓßÔŃńňŠšŔÚŕŰýÝţ´" ++
    "\u00ad˝˛ˇ˘§÷¸°¨˙űŘř■\u00a0"

/-- The older code page for Cyrillic. -/
def page855 : CodePage where
  name := "cp855"
  aliases := ["855", "csibm855", "ibm855"]
  upperHalf :=
    "ђЂѓЃёЁєЄѕЅіІїЇјЈ" ++
    "љЉњЊћЋќЌўЎџЏюЮъЪ" ++
    "аАбБцЦдДеЕфФгГ«»" ++
    "░▒▓│┤хХиИ╣║╗╝йЙ┐" ++
    "└┴┬├─┼кК╚╔╩╦╠═╬¤" ++
    "лЛмМнНоОп┘┌█▄Пя▀" ++
    "ЯрРсСтТуУжЖвВьЬ№" ++
    "\u00adыЫзЗшШэЭщЩчЧ§■\u00a0"

/-- The older code page for Hebrew. -/
def page856 : CodePage where
  name := "cp856"
  aliases := []
  upperHalf :=
    "\u05d0\u05d1\u05d2\u05d3\u05d4\u05d5\u05d6\u05d7" ++
    "\u05d8\u05d9\u05da\u05db\u05dc\u05dd\u05de\u05df" ++
    "\u05e0\u05e1\u05e2\u05e3\u05e4\u05e5\u05e6\u05e7\u05e8\u05e9\u05ea\ufffd£\ufffd×\ufffd" ++
    "\ufffd\ufffd\ufffd\ufffd\ufffd\ufffd\ufffd\ufffd\ufffd®¬½¼\ufffd«»" ++
    "░▒▓│┤\ufffd\ufffd\ufffd©╣║╗╝¢¥┐" ++
    "└┴┬├─┼\ufffd\ufffd╚╔╩╦╠═╬¤" ++
    "\ufffd\ufffd\ufffd\ufffd\ufffd\ufffd\ufffd\ufffd\ufffd┘┌█▄¦\ufffd▀" ++
    "\ufffd\ufffd\ufffd\ufffd\ufffd\ufffdµ\ufffd\ufffd\ufffd\ufffd\ufffd\ufffd\ufffd¯´" ++
    "\u00ad±‗¾¶§÷¸°¨·¹³²■\u00a0"

/-- The code page for Turkish. -/
def page857 : CodePage where
  name := "cp857"
  aliases := ["857", "csibm857", "ibm857"]
  upperHalf :=
    "ÇüéâäàåçêëèïîıÄÅ" ++
    "ÉæÆôöòûùİÖÜø£ØŞş" ++
    "áíóúñÑĞğ¿®¬½¼¡«»" ++
    "░▒▓│┤ÁÂÀ©╣║╗╝¢¥┐" ++
    "└┴┬├─┼ãÃ╚╔╩╦╠═╬¤" ++
    "ºªÊËÈ\ufffdÍÎÏ┘┌█▄¦Ì▀" ++
    "ÓßÔÒõÕµ\ufffd×ÚÛÙìÿ¯´" ++
    "\u00ad±\ufffd¾¶§÷¸°¨·¹³²■\u00a0"

/-- Code page 850 with the euro sign. -/
def page858 : CodePage where
  name := "cp858"
  aliases := ["858", "csibm858", "ibm858"]
  upperHalf :=
    "ÇüéâäàåçêëèïîìÄÅ" ++
    "ÉæÆôöòûùÿÖÜø£Ø×ƒ" ++
    "áíóúñÑªº¿®¬½¼¡«»" ++
    "░▒▓│┤ÁÂÀ©╣║╗╝¢¥┐" ++
    "└┴┬├─┼ãÃ╚╔╩╦╠═╬¤" ++
    "ðÐÊËÈ€ÍÎÏ┘┌█▄¦Ì▀" ++
    "ÓßÔÒõÕµþÞÚÛÙýÝ¯´" ++
    "\u00ad±‗¾¶§÷¸°¨·¹³²■\u00a0"

/-- The code page for Portuguese. -/
def page860 : CodePage where
  name := "cp860"
  aliases := ["860", "csibm860", "ibm860"]
  upperHalf :=
    "ÇüéâãàÁçêÊèÍÔìÃÂ" ++
    "ÉÀÈôõòÚùÌÕÜ¢£Ù₧Ó" ++
    "áíóúñÑªº¿Ò¬½¼¡«»" ++
    "░▒▓│┤╡╢╖╕╣║╗╝╜╛┐" ++
    "└┴┬├─┼╞╟╚╔╩╦╠═╬╧" ++
    "╨╤╥╙╘╒╓╫╪┘┌█▄▌▐▀" ++
    "αßΓπΣσµτΦΘΩδ∞φε∩" ++
    "≡±≥≤⌠⌡÷≈°∙·√ⁿ²■\u00a0"

/-- The code page for Icelandic. -/
def page861 : CodePage where
  name := "cp861"
  aliases := ["861", "cp_is", "csibm861", "ibm861"]
  upperHalf :=
    "ÇüéâäàåçêëèÐðÞÄÅ" ++
    "ÉæÆôöþûÝýÖÜø£Ø₧ƒ" ++
    "áíóúÁÍÓÚ¿⌐¬½¼¡«»" ++
    "░▒▓│┤╡╢╖╕╣║╗╝╜╛┐" ++
    "└┴┬├─┼╞╟╚╔╩╦╠═╬╧" ++
    "╨╤╥╙╘╒╓╫╪┘┌█▄▌▐▀" ++
    "αßΓπΣσµτΦΘΩδ∞φε∩" ++
    "≡±≥≤⌠⌡÷≈°∙·√ⁿ²■\u00a0"

/-- The code page for Hebrew. -/
def page862 : CodePage where
  name := "cp862"
  aliases := ["862", "cspc862latinhebrew", "ibm862"]
  upperHalf :=
    "\u05d0\u05d1\u05d2\u05d3\u05d4\u05d5\u05d6\u05d7" ++
    "\u05d8\u05d9\u05da\u05db\u05dc\u05dd\u05de\u05df" ++
    "\u05e0\u05e1\u05e2\u05e3\u05e4\u05e5\u05e6\u05e7\u05e8\u05e9\u05ea¢£¥₧ƒ" ++
    "áíóúñÑªº¿⌐¬½¼¡«»" ++
    "░▒▓│┤╡╢╖╕╣║╗╝╜╛┐" ++
    "└┴┬├─┼╞╟╚╔╩╦╠═╬╧" ++
    "╨╤╥╙╘╒╓╫╪┘┌█▄▌▐▀" ++
    "αßΓπΣσµτΦΘΩδ∞φε∩" ++
    "≡±≥≤⌠⌡÷≈°∙·√ⁿ²■\u00a0"

/-- The code page for Canadian French. -/
def page863 : CodePage where
  name := "cp863"
  aliases := ["863", "csibm863", "ibm863"]
  upperHalf :=
    "ÇüéâÂà¶çêëèïî‗À§" ++
    "ÉÈÊôËÏûù¤ÔÜ¢£ÙÛƒ" ++
    "¦´óú¨¸³¯Î⌐¬½¼¾«»" ++
    "░▒▓│┤╡╢╖╕╣║╗╝╜╛┐" ++
    "└┴┬├─┼╞╟╚╔╩╦╠═╬╧" ++
    "╨╤╥╙╘╒╓╫╪┘┌█▄▌▐▀" ++
    "αßΓπΣσµτΦΘΩδ∞φε∩" ++
    "≡±≥≤⌠⌡÷≈°∙·√ⁿ²■\u00a0"

/-- The code page for Arabic presentation forms; its percent sign is the Arabic one. -/
def page864 : CodePage where
  name := "cp864"
  aliases := ["864", "csibm864", "ibm864"]
  lowerHalf :=
    "\u0000\u0001\u0002\u0003\u0004\u0005\u0006\u0007" ++
    "\u0008\u0009\u000a\u000b\u000c\u000d\u000e\u000f" ++
    "\u0010\u0011\u0012\u0013\u0014\u0015\u0016\u0017" ++
    "\u0018\u0019\u001a\u001b\u001c\u001d\u001e\u001f" ++
    " !\u0022#$٪&\u0027()*+,-.\u002f" ++
    "0123456789:;<=>?" ++
    "@ABCDEFGHIJKLMNO" ++
    "PQRSTUVWXYZ[\u005c]^_" ++
    "\u0060abcdefghijklmno" ++
    "pqrstuvwxyz\u007b|\u007d~\u007f"
  upperHalf :=
    "°·∙√▒─│┼┤┬├┴┐┌└┘" ++
    "β∞φ±½¼≈«»\ufef7\ufef8\ufffd\ufffd\ufefb\ufefc\ufffd" ++
    "\u00a0\u00ad\ufe82£¤\ufe84\ufffd\ufffd\ufe8e\ufe8f\ufe95\ufe99،\ufe9d\ufea1\ufea5" ++
    "٠١٢٣٤٥٦٧٨٩\ufed1\u061b\ufeb1\ufeb5\ufeb9\u061f" ++
    "¢\ufe80\ufe81\ufe83\ufe85\ufeca\ufe8b\ufe8d" ++
    "\ufe91\ufe93\ufe97\ufe9b\ufe9f\ufea3\ufea7\ufea9" ++
    "\ufeab\ufead\ufeaf\ufeb3\ufeb7\ufebb\ufebf\ufec1\ufec5\ufecb\ufecf¦¬÷×\ufec9" ++
    "\u0640\ufed3\ufed7\ufedb\ufedf\ufee3\ufee7\ufeeb" ++
    "\ufeed\ufeef\ufef3\ufebd\ufecc\ufece\ufecd\ufee1" ++
    "\ufe7d\u0651\ufee5\ufee9\ufeec\ufef0\ufef2\ufed0" ++
    "\ufed5\ufef5\ufef6\ufedd\ufed9\ufef1■\ufffd"

/-- The code page for the Nordic languages. -/
def page865 : CodePage where
  name := "cp865"
  aliases := ["865", "csibm865", "ibm865"]
  upperHalf :=
    "ÇüéâäàåçêëèïîìÄÅ" ++
    "ÉæÆôöòûùÿÖÜø£Ø₧ƒ" ++
    "áíóúñÑªº¿⌐¬½¼¡«¤" ++
    "░▒▓│┤╡╢╖╕╣║╗╝╜╛┐" ++
    "└┴┬├─┼╞╟╚╔╩╦╠═╬╧" ++
    "╨╤╥╙╘╒╓╫╪┘┌█▄▌▐▀" ++
    "αßΓπΣσµτΦΘΩδ∞φε∩" ++
    "≡±≥≤⌠⌡÷≈°∙·√ⁿ²■\u00a0"

/-- The code page for Cyrillic. -/
def page866 : CodePage where
  name := "cp866"
  aliases := ["866", "csibm866", "ibm866"]
  upperHalf :=
    "АБВГДЕЖЗИЙКЛМНОП" ++
    "РСТУФХЦЧШЩЪЫЬЭЮЯ" ++
    "абвгдежзийклмноп" ++
    "░▒▓│┤╡╢╖╕╣║╗╝╜╛┐" ++
    "└┴┬├─┼╞╟╚╔╩╦╠═╬╧" ++
    "╨╤╥╙╘╒╓╫╪┘┌█▄▌▐▀" ++
    "рстуфхцчшщъыьэюя" ++
    "ЁёЄєЇїЎў°∙·√№¤■\u00a0"

/-- The newer code page for Greek. -/
def page869 : CodePage where
  name := "cp869"
  aliases := ["869", "cp_gr", "csibm869", "ibm869"]
  upperHalf :=
    "\ufffd\ufffd\ufffd\ufffd\ufffd\ufffdΆ\ufffd·¬¦‘’Έ―Ή" ++
    "ΊΪΌ\ufffd\ufffdΎΫ©Ώ²³ά£έήί" ++
    "ϊΐόύΑΒΓΔΕΖΗ½ΘΙ«»" ++
    "░▒▓│┤ΚΛΜΝ╣║╗╝ΞΟ┐" ++
    "└┴┬├─┼ΠΡ╚╔╩╦╠═╬Σ" ++
    "ΤΥΦΧΨΩαβγ┘┌█▄δε▀" ++
    "ζηθικλμνξοπρσςτ΄" ++
    "\u00ad±υφχ§ψ΅°¨ωϋΰώ■\u00a0"

/-- The code page for Ukrainian Cyrillic. -/
def page1125 : CodePage where
  name := "cp1125"
  aliases := ["1125", "cp866u", "ibm1125", "ruscii"]
  upperHalf :=
    "АБВГДЕЖЗИЙКЛМНОП" ++
    "РСТУФХЦЧШЩЪЫЬЭЮЯ" ++
    "абвгдежзийклмноп" ++
    "░▒▓│┤╡╢╖╕╣║╗╝╜╛┐" ++
    "└┴┬├─┼╞╟╚╔╩╦╠═╬╧" ++
    "╨╤╥╙╘╒╓╫╪┘┌█▄▌▐▀" ++
    "рстуфхцчшщъыьэюя" ++
    "ЁёҐґЄєІіЇї·√№¤■\u00a0"

/-- Code pages of personal computers. -/
def personalPages : List CodePage :=
  [page437, page720, page737, page775, page850, page852, page855, page856, page857, page858,
   page860, page861, page862, page863, page864, page865, page866, page869, page1125]

end TapeMachine.Encoding.CodePage
