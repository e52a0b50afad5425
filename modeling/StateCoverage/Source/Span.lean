/-!
# Positions in source text

A position is a line and a column; lines count from one and columns count the
UTF-8 bytes before the position on its line.  A span runs from the first byte
of a piece of source to the byte just after its last one.
-/

namespace StateCoverage

/-- A place in source text: a line counted from one and a byte column counted
from zero. -/
structure Pos where
  line : Nat
  column : Nat
  deriving Repr, DecidableEq, Inhabited

/-- A stretch of source text, `stop` excluded. -/
structure Span where
  start : Pos
  stop : Pos
  deriving Repr, DecidableEq, Inhabited

/-- The number of bytes that a character takes in UTF-8. -/
def byteWidth (c : Char) : Nat :=
  if c.toNat < 0x80 then 1
  else if c.toNat < 0x800 then 2
  else if c.toNat < 0x10000 then 3
  else 4

/-- The position after one more character; a line feed starts the next line. -/
def Pos.advance (p : Pos) (c : Char) : Pos :=
  if c = '\n' then ⟨p.line + 1, 0⟩ else ⟨p.line, p.column + byteWidth c⟩

/-- The position after all the given characters. -/
def Pos.advanceAll (p : Pos) (cs : List Char) : Pos :=
  cs.foldl Pos.advance p

end StateCoverage
