/-
  Code pages of mainframes.

  Letters, digits and marks stand at other places than in ASCII.
-/
import TapeMachine.Encoding.CodePage

set_option autoImplicit false

namespace TapeMachine.Encoding.CodePage

/-- The code page of the United States and Canada. -/
def page037 : CodePage where
  name := "cp037"
  aliases := ["037", "csibm037", "ebcdic_cp_ca", "ebcdic_cp_nl", "ebcdic_cp_us", "ebcdic_cp_wt",
    "ibm037", "ibm039"]
  lowerHalf :=
    "\u0000\u0001\u0002\u0003\u009c\u0009\u0086\u007f" ++
    "\u0097\u008d\u008e\u000b\u000c\u000d\u000e\u000f" ++
    "\u0010\u0011\u0012\u0013\u009d\u0085\u0008\u0087" ++
    "\u0018\u0019\u0092\u008f\u001c\u001d\u001e\u001f" ++
    "\u0080\u0081\u0082\u0083\u0084\u000a\u0017\u001b" ++
    "\u0088\u0089\u008a\u008b\u008c\u0005\u0006\u0007" ++
    "\u0090\u0091\u0016\u0093\u0094\u0095\u0096\u0004" ++
    "\u0098\u0099\u009a\u009b\u0014\u0015\u009e\u001a" ++
    " \u00a0âäàáãåçñ¢.<(+|" ++
    "&éêëèíîïìß!$*);¬" ++
    "-\u002fÂÄÀÁÃÅÇÑ¦,%_>?" ++
    "øÉÊËÈÍÎÏÌ\u0060:#@\u0027=\u0022"
  upperHalf :=
    "Øabcdefghi«»ðýþ±" ++
    "°jklmnopqrªºæ¸Æ¤" ++
    "µ~stuvwxyz¡¿ÐÝÞ®" ++
    "^£¥·©§¶¼½¾[]¯¨´×" ++
    "\u007bABCDEFGHI\u00adôöòóõ" ++
    "\u007dJKLMNOPQR¹ûüùúÿ" ++
    "\u005c÷STUVWXYZ²ÔÖÒÓÕ" ++
    "0123456789³ÛÜÙÚ\u009f"

/-- The code page of Germany and Austria. -/
def page273 : CodePage where
  name := "cp273"
  aliases := ["273", "csibm273", "ibm273"]
  lowerHalf :=
    "\u0000\u0001\u0002\u0003\u009c\u0009\u0086\u007f" ++
    "\u0097\u008d\u008e\u000b\u000c\u000d\u000e\u000f" ++
    "\u0010\u0011\u0012\u0013\u009d\u0085\u0008\u0087" ++
    "\u0018\u0019\u0092\u008f\u001c\u001d\u001e\u001f" ++
    "\u0080\u0081\u0082\u0083\u0084\u000a\u0017\u001b" ++
    "\u0088\u0089\u008a\u008b\u008c\u0005\u0006\u0007" ++
    "\u0090\u0091\u0016\u0093\u0094\u0095\u0096\u0004" ++
    "\u0098\u0099\u009a\u009b\u0014\u0015\u009e\u001a" ++
    " \u00a0â\u007bàáãåçñÄ.<(+!" ++
    "&éêëèíîïì~Ü$*);^" ++
    "-\u002fÂ[ÀÁÃÅÇÑö,%_>?" ++
    "øÉÊËÈÍÎÏÌ\u0060:#§\u0027=\u0022"
  upperHalf :=
    "Øabcdefghi«»ðýþ±" ++
    "°jklmnopqrªºæ¸Æ¤" ++
    "µßstuvwxyz¡¿ÐÝÞ®" ++
    "¢£¥·©@¶¼½¾¬|‾¨´×" ++
    "äABCDEFGHI\u00adô¦òóõ" ++
    "üJKLMNOPQR¹û\u007dùúÿ" ++
    "Ö÷STUVWXYZ²Ô\u005cÒÓÕ" ++
    "0123456789³Û]ÙÚ\u009f"

/-- The code page of Israel. -/
def page424 : CodePage where
  name := "cp424"
  aliases := ["424", "csibm424", "ebcdic_cp_he", "ibm424"]
  lowerHalf :=
    "\u0000\u0001\u0002\u0003\u009c\u0009\u0086\u007f" ++
    "\u0097\u008d\u008e\u000b\u000c\u000d\u000e\u000f" ++
    "\u0010\u0011\u0012\u0013\u009d\u0085\u0008\u0087" ++
    "\u0018\u0019\u0092\u008f\u001c\u001d\u001e\u001f" ++
    "\u0080\u0081\u0082\u0083\u0084\u000a\u0017\u001b" ++
    "\u0088\u0089\u008a\u008b\u008c\u0005\u0006\u0007" ++
    "\u0090\u0091\u0016\u0093\u0094\u0095\u0096\u0004" ++
    "\u0098\u0099\u009a\u009b\u0014\u0015\u009e\u001a" ++
    " \u05d0\u05d1\u05d2\u05d3\u05d4\u05d5\u05d6\u05d7\u05d8¢.<(+|" ++
    "&\u05d9\u05da\u05db\u05dc\u05dd\u05de\u05df\u05e0\u05e1!$*);¬" ++
    "-\u002f\u05e2\u05e3\u05e4\u05e5\u05e6\u05e7\u05e8\u05e9¦,%_>?" ++
    "\ufffd\u05ea\ufffd\ufffd\u00a0\ufffd\ufffd\ufffd‗\u0060:#@\u0027=\u0022"
  upperHalf :=
    "\ufffdabcdefghi«»\ufffd\ufffd\ufffd±" ++
    "°jklmnopqr\ufffd\ufffd\ufffd¸\ufffd¤" ++
    "µ~stuvwxyz\ufffd\ufffd\ufffd\ufffd\ufffd®" ++
    "^£¥·©§¶¼½¾[]¯¨´×" ++
    "\u007bABCDEFGHI\u00ad\ufffd\ufffd\ufffd\ufffd\ufffd" ++
    "\u007dJKLMNOPQR¹\ufffd\ufffd\ufffd\ufffd\ufffd" ++
    "\u005c÷STUVWXYZ²\ufffd\ufffd\ufffd\ufffd\ufffd" ++
    "0123456789³\ufffd\ufffd\ufffd\ufffd\u009f"

/-- The international code page. -/
def page500 : CodePage where
  name := "cp500"
  aliases := ["500", "csibm500", "ebcdic_cp_be", "ebcdic_cp_ch", "ibm500"]
  lowerHalf :=
    "\u0000\u0001\u0002\u0003\u009c\u0009\u0086\u007f" ++
    "\u0097\u008d\u008e\u000b\u000c\u000d\u000e\u000f" ++
    "\u0010\u0011\u0012\u0013\u009d\u0085\u0008\u0087" ++
    "\u0018\u0019\u0092\u008f\u001c\u001d\u001e\u001f" ++
    "\u0080\u0081\u0082\u0083\u0084\u000a\u0017\u001b" ++
    "\u0088\u0089\u008a\u008b\u008c\u0005\u0006\u0007" ++
    "\u0090\u0091\u0016\u0093\u0094\u0095\u0096\u0004" ++
    "\u0098\u0099\u009a\u009b\u0014\u0015\u009e\u001a" ++
    " \u00a0âäàáãåçñ[.<(+!" ++
    "&éêëèíîïìß]$*);^" ++
    "-\u002fÂÄÀÁÃÅÇÑ¦,%_>?" ++
    "øÉÊËÈÍÎÏÌ\u0060:#@\u0027=\u0022"
  upperHalf :=
    "Øabcdefghi«»ðýþ±" ++
    "°jklmnopqrªºæ¸Æ¤" ++
    "µ~stuvwxyz¡¿ÐÝÞ®" ++
    "¢£¥·©§¶¼½¾¬|¯¨´×" ++
    "\u007bABCDEFGHI\u00adôöòóõ" ++
    "\u007dJKLMNOPQR¹ûüùúÿ" ++
    "\u005c÷STUVWXYZ²ÔÖÒÓÕ" ++
    "0123456789³ÛÜÙÚ\u009f"

/-- The code page of Greece. -/
def page875 : CodePage where
  name := "cp875"
  aliases := []
  lowerHalf :=
    "\u0000\u0001\u0002\u0003\u009c\u0009\u0086\u007f" ++
    "\u0097\u008d\u008e\u000b\u000c\u000d\u000e\u000f" ++
    "\u0010\u0011\u0012\u0013\u009d\u0085\u0008\u0087" ++
    "\u0018\u0019\u0092\u008f\u001c\u001d\u001e\u001f" ++
    "\u0080\u0081\u0082\u0083\u0084\u000a\u0017\u001b" ++
    "\u0088\u0089\u008a\u008b\u008c\u0005\u0006\u0007" ++
    "\u0090\u0091\u0016\u0093\u0094\u0095\u0096\u0004" ++
    "\u0098\u0099\u009a\u009b\u0014\u0015\u009e\u001a" ++
    " ΑΒΓΔΕΖΗΘΙ[.<(+!" ++
    "&ΚΛΜΝΞΟΠΡΣ]$*);^" ++
    "-\u002fΤΥΦΧΨΩΪΫ|,%_>?" ++
    "¨ΆΈΉ\u00a0ΊΌΎΏ\u0060:#@\u0027=\u0022"
  upperHalf :=
    "΅abcdefghiαβγδεζ" ++
    "°jklmnopqrηθικλμ" ++
    "´~stuvwxyzνξοπρσ" ++
    "£άέήϊίόύϋώςτυφχψ" ++
    "\u007bABCDEFGHI\u00adωΐΰ‘―" ++
    "\u007dJKLMNOPQR±½\u001a·’¦" ++
    "\u005c\u001aSTUVWXYZ²§\u001a\u001a«¬" ++
    "0123456789³©\u001a\u001a»\u009f"

/-- The code page of Turkey. -/
def page1026 : CodePage where
  name := "cp1026"
  aliases := ["1026", "csibm1026", "ibm1026"]
  lowerHalf :=
    "\u0000\u0001\u0002\u0003\u009c\u0009\u0086\u007f" ++
    "\u0097\u008d\u008e\u000b\u000c\u000d\u000e\u000f" ++
    "\u0010\u0011\u0012\u0013\u009d\u0085\u0008\u0087" ++
    "\u0018\u0019\u0092\u008f\u001c\u001d\u001e\u001f" ++
    "\u0080\u0081\u0082\u0083\u0084\u000a\u0017\u001b" ++
    "\u0088\u0089\u008a\u008b\u008c\u0005\u0006\u0007" ++
    "\u0090\u0091\u0016\u0093\u0094\u0095\u0096\u0004" ++
    "\u0098\u0099\u009a\u009b\u0014\u0015\u009e\u001a" ++
    " \u00a0âäàáãå\u007bñÇ.<(+!" ++
    "&éêëèíîïìßĞİ*);^" ++
    "-\u002fÂÄÀÁÃÅ[Ñş,%_>?" ++
    "øÉÊËÈÍÎÏÌı:ÖŞ\u0027=Ü"
  upperHalf :=
    "Øabcdefghi«»\u007d\u0060¦±" ++
    "°jklmnopqrªºæ¸Æ¤" ++
    "µöstuvwxyz¡¿]$@®" ++
    "¢£¥·©§¶¼½¾¬|¯¨´×" ++
    "çABCDEFGHI\u00adô~òóõ" ++
    "ğJKLMNOPQR¹û\u005cùúÿ" ++
    "ü÷STUVWXYZ²Ô#ÒÓÕ" ++
    "0123456789³Û\u0022ÙÚ\u009f"

/-- Code page 037 with the euro sign. -/
def page1140 : CodePage where
  name := "cp1140"
  aliases := ["1140", "ibm1140"]
  lowerHalf :=
    "\u0000\u0001\u0002\u0003\u009c\u0009\u0086\u007f" ++
    "\u0097\u008d\u008e\u000b\u000c\u000d\u000e\u000f" ++
    "\u0010\u0011\u0012\u0013\u009d\u0085\u0008\u0087" ++
    "\u0018\u0019\u0092\u008f\u001c\u001d\u001e\u001f" ++
    "\u0080\u0081\u0082\u0083\u0084\u000a\u0017\u001b" ++
    "\u0088\u0089\u008a\u008b\u008c\u0005\u0006\u0007" ++
    "\u0090\u0091\u0016\u0093\u0094\u0095\u0096\u0004" ++
    "\u0098\u0099\u009a\u009b\u0014\u0015\u009e\u001a" ++
    " \u00a0âäàáãåçñ¢.<(+|" ++
    "&éêëèíîïìß!$*);¬" ++
    "-\u002fÂÄÀÁÃÅÇÑ¦,%_>?" ++
    "øÉÊËÈÍÎÏÌ\u0060:#@\u0027=\u0022"
  upperHalf :=
    "Øabcdefghi«»ðýþ±" ++
    "°jklmnopqrªºæ¸Æ€" ++
    "µ~stuvwxyz¡¿ÐÝÞ®" ++
    "^£¥·©§¶¼½¾[]¯¨´×" ++
    "\u007bABCDEFGHI\u00adôöòóõ" ++
    "\u007dJKLMNOPQR¹ûüùúÿ" ++
    "\u005c÷STUVWXYZ²ÔÖÒÓÕ" ++
    "0123456789³ÛÜÙÚ\u009f"

/-- Code pages of mainframes. -/
def mainframePages : List CodePage :=
  [page037, page273, page424, page500, page875, page1026, page1140]

end TapeMachine.Encoding.CodePage
