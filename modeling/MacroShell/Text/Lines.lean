/-! # The lines of a text

A line ends at a line feed, and one carriage return right before that line feed belongs to the
ending. The last line needs no ending; unterminated, it keeps a carriage return at its end.
-/

namespace MacroShell.Text

/-- The text of a terminated line, from its characters in reverse order. -/
def closeLine : List Char → List Char
  | '\r' :: rest => rest.reverse
  | rest => rest.reverse

/-- Splits into lines; `reversed` holds the characters of the current line, last one first. -/
def linesFrom (reversed : List Char) : List Char → List (List Char)
  | [] => if reversed.isEmpty then [] else [reversed.reverse]
  | '\n' :: rest => closeLine reversed :: linesFrom [] rest
  | c :: rest => linesFrom (c :: reversed) rest

def lines (s : String) : List String := (linesFrom [] s.toList).map String.ofList

end MacroShell.Text
