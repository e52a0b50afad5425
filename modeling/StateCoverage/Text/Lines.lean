/-!
# Line ends

Text is read with one kind of line end: a carriage return, alone or before a
line feed, counts as a line feed.
-/

namespace StateCoverage.Text

/-- Turns line ends of all kinds into line feeds. -/
def unifyLineEnds : List Char → List Char
  | '\r' :: '\n' :: cs => '\n' :: unifyLineEnds cs
  | '\r' :: cs => '\n' :: unifyLineEnds cs
  | c :: cs => c :: unifyLineEnds cs
  | [] => []

end StateCoverage.Text
