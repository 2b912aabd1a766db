/-
  Line ends of text files.

  A file may end its lines with a line feed, a carriage return or both; read as
  text, every line ends with one line feed.
-/
set_option autoImplicit false

namespace TapeMachine.Text

/-- Turns the line ends of a text into line feeds.  `done` holds the characters
written so far, the last one first. -/
def unifyLinesFrom (done : List Char) : List Char → List Char
  | [] => done.reverse
  | '\r' :: '\n' :: rest => unifyLinesFrom ('\n' :: done) rest
  | '\r' :: rest => unifyLinesFrom ('\n' :: done) rest
  | c :: rest => unifyLinesFrom (c :: done) rest

/-- The text with line feeds for all line ends. -/
def unifyLines (text : List Char) : List Char :=
  unifyLinesFrom [] text

/-- The text without a line feed at its end. -/
def withoutLineFeed (text : List Char) : List Char :=
  if text.getLast? = some '\n' then text.dropLast else text

end TapeMachine.Text
