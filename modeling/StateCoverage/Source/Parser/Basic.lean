import StateCoverage.Source.Literal
import StateCoverage.Source.Tree
import StateCoverage.Text.NormalForm

/-!
# Parsers over tokens

A parser takes tokens from the front of a list or fails.  A failed alternative
leaves no trace, so `p <|> q` tries `q` where `p` was tried.  The input also
remembers where the last token of the code ended: a tree spans from its first
token to there, which leaves line ends and indentation out.
-/

namespace StateCoverage.Source

/-- The tokens still to read, the end of the last one read that is part of the
code, and the characters that literals can name. -/
structure Input where
  tokens : List Token
  lastStop : Pos
  names : CharNames

/-- A parser of trees. -/
abbrev Parser (α : Type) := StateT Input Option α

namespace Parser

/-- The parser that accepts nothing. -/
def reject {α : Type} : Parser α := fun _ => none

/-- The kind of the next token. -/
def peek : Parser TokenKind := fun s =>
  some (((s.tokens.head?).map Token.kind).getD .endOfInput, s)

/-- The kind of the token after the next one. -/
def peekSecond : Parser TokenKind := fun s =>
  some (((s.tokens[1]?).map Token.kind).getD .endOfInput, s)

/-- Where the next token starts. -/
def here : Parser Pos := fun s =>
  some (((s.tokens.head?).map fun t => t.span.start).getD s.lastStop, s)

/-- Takes the next token. -/
def next : Parser Token := fun s =>
  match s.tokens with
  | [] => none
  | t :: rest =>
      some (t, { s with tokens := rest, lastStop := if t.isCode then t.span.stop else s.lastStop })

/-- The span from a position to the end of the last token of the code. -/
def spanFrom (start : Pos) : Parser Span := fun s =>
  some (⟨start, s.lastStop⟩, s)

/-- Takes a token of the given kind. -/
def token (kind : TokenKind) : Parser Unit := do
  if (← peek) = kind then discard next else reject

/-- Takes a token of the given kind if it comes next, and tells. -/
def accept (kind : TokenKind) : Parser Bool := do
  if (← peek) = kind then
    discard next
    return true
  else return false

/-- Whether a token of the given kind comes next. -/
def nextIs (kind : TokenKind) : Parser Bool :=
  return (← peek) = kind

/-- Takes an operator. -/
def op (text : String) : Parser Unit := token (.operator text)

/-- Takes a keyword. -/
def keyword (text : String) : Parser Unit := token (.keyword text)

/-- Takes an operator if it comes next. -/
def acceptOp (text : String) : Parser Bool := accept (.operator text)

/-- Takes a keyword if it comes next. -/
def acceptKeyword (text : String) : Parser Bool := accept (.keyword text)

/-- Whether an operator comes next. -/
def nextIsOp (text : String) : Parser Bool := nextIs (.operator text)

/-- Whether a keyword comes next. -/
def nextIsKeyword (text : String) : Parser Bool := nextIs (.keyword text)

/-- Takes one of several operators. -/
def oneOp (texts : List String) : Parser Unit := do
  match ← peek with
  | .operator o => if o ∈ texts then discard next else reject
  | _ => reject

/-- The normal form of a name. -/
def normalName (text : String) : String := String.ofList (Text.normalForm text.toList)

/-- Takes a name. -/
def name : Parser String := do
  match ← peek with
  | .name text =>
      discard next
      return normalName text
  | _ => reject

/-- Repeats a step on a value until it fails, at most as often as there are
tokens. -/
def iterate {α : Type} (step : α → Parser α) (init : α) : Parser α := fun s =>
  some (go s.tokens.length init s)
where
  go : Nat → α → Input → α × Input
    | 0, a, s => (a, s)
    | n + 1, a, s =>
        match step a s with
        | some (a', s') => go n a' s'
        | none => (a, s)

/-- As many trees as there are. -/
def many {α : Type} (p : Parser α) : Parser (List α) := do
  return (← iterate (fun acc => do return (← p) :: acc) []).reverse

/-- One or more trees. -/
def many1 {α : Type} (p : Parser α) : Parser (List α) := do
  let first ← p
  return first :: (← many p)

/-- A tree, if there is one. -/
def perhaps {α : Type} (p : Parser α) : Parser (Option α) :=
  (some <$> p) <|> pure none

/-- One or more trees with commas between them. -/
def commaSeparated {α : Type} (p : Parser α) : Parser (List α) := do
  let first ← p
  return first :: (← many (do op ","; p))

/-- One or more trees with commas between them, and whether a comma follows the
last. -/
def commaTerminated {α : Type} (p : Parser α) : Parser (List α × Bool) := do
  let items ← commaSeparated p
  return (items, ← acceptOp ",")

/-- A tree in a pair of brackets. -/
def between {α : Type} (opening closing : String) (p : Parser α) : Parser α := do
  op opening
  let a ← p
  op closing
  return a

end Parser

/-- The syntactic classes that contain themselves. -/
inductive Category where
  | starExpressions
  | expression
  | disjunction
  | inversion
  | bitwiseOr
  | factor
  | pattern
  | statements

/-- What a syntactic class is parsed to. -/
def Category.Tree : Category → Type
  | .starExpressions | .expression | .disjunction | .inversion | .bitwiseOr | .factor => Expr
  | .pattern => Pattern
  | .statements => List Stmt

/-- Parsers for the classes that contain themselves.  A rule takes such parsers
for the parts inside it and calls them only after a token of its own. -/
abbrev Rules := (c : Category) → Parser c.Tree

namespace Rules

/-- One or more expressions, a tuple if there is a comma. -/
def starExpressions (self : Rules) : Parser Expr := self .starExpressions

/-- A whole expression. -/
def expression (self : Rules) : Parser Expr := self .expression

/-- An expression without `lambda` and `if … else`. -/
def disjunction (self : Rules) : Parser Expr := self .disjunction

/-- The operand of `not`. -/
def inversion (self : Rules) : Parser Expr := self .inversion

/-- An operand of a comparison. -/
def bitwiseOr (self : Rules) : Parser Expr := self .bitwiseOr

/-- The operand of a sign. -/
def factor (self : Rules) : Parser Expr := self .factor

/-- A pattern. -/
def pattern (self : Rules) : Parser Pattern := self .pattern

/-- The statements of a block. -/
def statements (self : Rules) : Parser (List Stmt) := self .statements

end Rules

end StateCoverage.Source
