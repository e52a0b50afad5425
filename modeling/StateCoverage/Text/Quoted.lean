import StateCoverage.Text.Printable

/-!
# Quoted text

Text in quotes, as it is shown inside values: single quotes, or double quotes
if the text has single quotes only.  Backslashes, the quote in use and
unprintable characters are escaped.
-/

namespace StateCoverage.Text

/-- A number in hexadecimal, padded with zeros to a width. -/
def hex (width n : Nat) : List Char :=
  let ds := Nat.toDigits 16 n
  List.replicate (width - ds.length) '0' ++ ds

/-- An escape by code point, as short as the code point allows. -/
def codeEscape (n : Nat) : List Char :=
  if n < 0x100 then '\\' :: 'x' :: hex 2 n
  else if n < 0x10000 then '\\' :: 'u' :: hex 4 n
  else '\\' :: 'U' :: hex 8 n

/-- The escapes that every quoted text uses. -/
def escapeControl? (quote c : Char) : Option (List Char) :=
  if c = quote || c = '\\' then some ['\\', c]
  else if c = '\t' then some ['\\', 't']
  else if c = '\n' then some ['\\', 'n']
  else if c = '\r' then some ['\\', 'r']
  else none

/-- The quote in which characters are shown. -/
def quoteFor (cs : List Char) : Char :=
  if '\'' ∈ cs && !('"' ∈ cs) then '"' else '\''

/-- A text in quotes. -/
def quoted (s : String) : String :=
  let cs := s.toList
  let quote := quoteFor cs
  let escape := fun c =>
    (escapeControl? quote c).getD (if isPrintable c then [c] else codeEscape c.toNat)
  String.ofList (quote :: cs.flatMap escape ++ [quote])

/-- Bytes in quotes, after a `b`; bytes beyond ASCII are escaped. -/
def quotedBytes (bs : List UInt8) : String :=
  let cs := bs.map fun b => Char.ofNat b.toNat
  let quote := quoteFor cs
  let escape := fun c =>
    (escapeControl? quote c).getD
      (if 0x20 ≤ c.toNat && c.toNat < 0x7f then [c] else codeEscape c.toNat)
  String.ofList ('b' :: quote :: cs.flatMap escape ++ [quote])

end StateCoverage.Text
