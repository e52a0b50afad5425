import StateCoverage.Source.Number
import StateCoverage.Source.Token
import StateCoverage.Text.Identifier
import StateCoverage.Text.Lines

/-!
# From source text to tokens

`moduleTokens?` reads a whole text and gives its tokens, or nothing if some part of
it is no token: an unknown character, an unfinished string, brackets that do
not match, indentation that fits no enclosing block.

Inside brackets line ends and indentation do not count, lines that are blank or
hold only a comment give no tokens, and a backslash joins a line to the next.
-/

namespace StateCoverage.Source

open StateCoverage.Text

/-- A place in the text and what follows it. -/
structure Cursor where
  pos : Pos
  rest : List Char

/-- Moves over characters that are known to come next. -/
def Cursor.skip (c : Cursor) (taken : List Char) : Cursor :=
  ⟨c.pos.advanceAll taken, c.rest.drop taken.length⟩

/-- The text with a line end after its last line. -/
def endLastLine (cs : List Char) : List Char :=
  if cs.getLast? = some '\n' then cs else cs ++ ['\n']

/-! ## Indentation -/

/-- The width of indentation, once with tabs that reach to columns of eight and
once with tabs as wide as a blank.  Blocks must compare alike in both. -/
structure Indentation where
  wide : Nat
  narrow : Nat
  deriving Repr, DecidableEq

/-- The most blocks that may be open inside each other, the module included. -/
def mostBlocks : Nat := 100

/-- The most brackets that may be open inside each other. -/
def mostBrackets : Nat := 200

/-- The indentation at the start of a line and the cursor after it.  Where
lines are joined inside it, the first of them that has any decides. -/
def indentation? (joined : Nat) (width : Indentation) (pos : Pos) :
    List Char → Option (Indentation × Cursor)
  | ' ' :: cs => indentation? joined ⟨width.wide + 1, width.narrow + 1⟩ (pos.advance ' ') cs
  | '\t' :: cs =>
      indentation? joined ⟨(width.wide / 8 + 1) * 8, width.narrow + 1⟩ (pos.advance '\t') cs
  | '\x0c' :: cs => indentation? joined ⟨0, 0⟩ (pos.advance '\x0c') cs
  | '\\' :: '\n' :: cs =>
      if cs.isEmpty then none
      else indentation? (if joined = 0 then width.wide else joined) width
        ((pos.advance '\\').advance '\n') cs
  | '\\' :: _ => none
  | cs => some (if joined = 0 then width else ⟨joined, joined⟩, ⟨pos, cs⟩)

/-- The open blocks after a line with the given indentation, and the layout
tokens that lead there. -/
def openBlocks? (width : Indentation) : List Indentation → Option (List Indentation × List TokenKind)
  | [] => none
  | top :: outer =>
      if width.wide = top.wide then
        if width.narrow = top.narrow then some (top :: outer, []) else none
      else if top.wide < width.wide then
        if mostBlocks ≤ outer.length + 1 || width.narrow ≤ top.narrow then none
        else some (width :: top :: outer, [.indent])
      else dedent? (top :: outer) []
where
  dedent? : List Indentation → List TokenKind → Option (List Indentation × List TokenKind)
    | [], _ => none
    | top :: outer, closed =>
        if width.wide < top.wide && !outer.isEmpty then dedent? outer (.dedent :: closed)
        else if width = top then some (top :: outer, closed)
        else none

/-! ## Words, strings and operators -/

/-- The word at the start of a text, which must be a well-formed identifier. -/
def word? (cs : List Char) : Option (List Char) :=
  match cs.takeWhile isWordChar with
  | c :: w => if isIdentifierStart c && w.all isIdentifierRest then some (c :: w) else none
  | [] => none

/-- The marks that may stand before the quotes of a string. -/
def stringMarks : List (List Char) :=
  [[], ['b'], ['r'], ['u'], ['f'], ['b', 'r'], ['r', 'b'], ['f', 'r'], ['r', 'f']]

/-- Whether a character is a quote. -/
def isQuote (c : Char) : Bool := c = '"' || c = '\''

/-- The marks of the string that starts here, if one does. -/
def stringMark? (cs : List Char) : Option (List Char) :=
  let start := cs.take 3
  let mark := start.takeWhile fun c => !isQuote c
  if mark.length < start.length && (mark.map Char.toLower) ∈ stringMarks then some mark else none

/-- The body of a string up to its closing quotes, and what follows these.  A
backslash keeps the next character from closing the string. -/
def stringBody? (quote : Char) (isTriple : Bool) : List Char → Option (List Char × List Char)
  | [] => none
  | '\\' :: c :: cs => (stringBody? quote isTriple cs).map fun r => ('\\' :: c :: r.1, r.2)
  | c :: cs =>
      if isTriple then
        if [quote, quote, quote].isPrefixOf (c :: cs) then some ([], cs.drop 2)
        else (stringBody? quote isTriple cs).map fun r => (c :: r.1, r.2)
      else if c = quote then some ([], cs)
      else if c = '\n' then none
      else (stringBody? quote isTriple cs).map fun r => (c :: r.1, r.2)

/-- The string literal at a cursor, after its marks. -/
def string? (mark : List Char) (at' : Cursor) : Option (TokenKind × Cursor) := do
  let opening := at'.skip mark
  let quote ← opening.rest.head?
  let isTriple := [quote, quote, quote].isPrefixOf opening.rest
  let quotes := if isTriple then [quote, quote, quote] else [quote]
  let inside := opening.skip quotes
  let (body, _) ← stringBody? quote isTriple inside.rest
  let has := fun c => (mark.map Char.toLower).contains c
  let text : QuotedText := ⟨has 'r', has 'b', has 'f', inside.pos, body⟩
  return (.string text, (inside.skip body).skip quotes)

/-- The operator at the start of a text. -/
def operator? (cs : List Char) : Option String :=
  operatorTexts.find? fun o => o.toList.isPrefixOf cs

/-- The open brackets after an operator, innermost first; fails on a bracket
that closes nothing or the wrong one, and on too many. -/
def brackets? (op : String) (opened : List String) : Option (List String) :=
  if op = "(" || op = "[" || op = "\x7b" then
    if mostBrackets ≤ opened.length then none else some (op :: opened)
  else if op = ")" || op = "]" || op = "\x7d" then
    match opened with
    | o :: outer =>
        if (o, op) = ("(", ")") || (o, op) = ("[", "]") || (o, op) = ("\x7b", "\x7d") then some outer
        else none
    | [] => none
  else some opened

/-! ## The whole text -/

/-- What the lexer keeps between tokens. -/
structure LexState where
  at' : Cursor
  /-- Whether a line starts here. -/
  atLineStart : Bool
  /-- Whether nothing but a comment stands on this line. -/
  isBlank : Bool
  blocks : List Indentation
  brackets : List String

/-- The state before a text that starts at `pos`. -/
def LexState.start (pos : Pos) (cs : List Char) : LexState :=
  ⟨⟨pos, cs⟩, true, false, [⟨0, 0⟩], []⟩

/-- A token of no width. -/
def layoutToken (pos : Pos) (kind : TokenKind) : Token := ⟨kind, ⟨pos, pos⟩⟩

/-- One step of the lexer: the tokens it gives and the state after it, or no
state if the text has ended. -/
def LexState.step? (s : LexState) : Option (List Token × Option LexState) :=
  if s.atLineStart then do
    let (width, after) ← indentation? 0 ⟨0, 0⟩ s.at'.pos s.at'.rest
    let isBlank := after.rest.head? = some '#' || after.rest.head? = some '\n'
    let next := { s with at' := after, atLineStart := false, isBlank }
    if isBlank || !s.brackets.isEmpty then return ([], some next)
    else
      let (blocks, layout) ← openBlocks? width s.blocks
      return (layout.map (layoutToken after.pos), some { next with blocks })
  else
    match s.at'.rest with
    | [] =>
        if s.brackets.isEmpty then
          some ([layoutToken s.at'.pos .endOfInput], none)
        else none
    | c :: cs =>
        let token (kind : TokenKind) (after : Cursor) : List Token × Option LexState :=
          ([⟨kind, ⟨s.at'.pos, after.pos⟩⟩], some { s with at' := after })
        if c = ' ' || c = '\t' || c = '\x0c' then
          some ([], some { s with at' := s.at'.skip [c] })
        else if c = '#' then
          some ([], some { s with at' := s.at'.skip ((c :: cs).takeWhile (· ≠ '\n')) })
        else if c = '\n' then
          let next := { s with at' := s.at'.skip [c], atLineStart := true }
          if s.isBlank || !s.brackets.isEmpty then some ([], some next)
          else some ([layoutToken s.at'.pos .newline], some next)
        else if c = '\\' then
          match cs with
          | '\n' :: _ :: _ => some ([], some { s with at' := s.at'.skip ['\\', '\n'] })
          | _ => none
        else
          match stringMark? (c :: cs) with
          | some mark => (string? mark s.at').map fun r => token r.1 r.2
          | none =>
              if isIdentifierStart c || 128 ≤ c.toNat then do
                let w ← word? (c :: cs)
                let text := String.ofList w
                let kind := if text ∈ reservedWords then .keyword text else .name text
                return token kind (s.at'.skip w)
              else if c.isDigit || (c = '.' && cs.head?.any Char.isDigit) then do
                let n ← number? (c :: cs)
                return token (.number n.isImaginary) (s.at'.skip n.text)
              else do
                let op ← operator? (c :: cs)
                let brackets ← brackets? op s.brackets
                let after := s.at'.skip op.toList
                return ([⟨.operator op, ⟨s.at'.pos, after.pos⟩⟩],
                  some { s with at' := after, brackets })

/-- Runs the lexer for at most the given number of steps. -/
def LexState.run? : Nat → LexState → Option (List Token)
  | 0, _ => none
  | n + 1, s => do
      let (tokens, next) ← s.step?
      match next with
      | none => return tokens
      | some next => return tokens ++ (← next.run? n)

/-- The tokens of a text that starts at `pos`.  Every step but the one at a
line start moves over a character, and no two line starts follow each other. -/
def tokenizeAt? (pos : Pos) (cs : List Char) : Option (List Token) :=
  (LexState.start pos cs).run? (2 * cs.length + 2)

/-- The tokens of the source text of a module, whose last line need not have a
line end. -/
def moduleTokens? (cs : List Char) : Option (List Token) :=
  tokenizeAt? ⟨1, 0⟩ (endLastLine (unifyLineEnds cs))

end StateCoverage.Source
