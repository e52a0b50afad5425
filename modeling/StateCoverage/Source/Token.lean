import StateCoverage.Source.Span

/-!
# Tokens of Python source

What the lexer makes of source text.  Layout is part of the token stream: the
end of a logical line, an increase of indentation and each level of a decrease
are tokens of their own.
-/

namespace StateCoverage

/-- A string literal as written: its flags and the characters between the
quotes, which start at `start`. -/
structure QuotedText where
  isRaw : Bool
  isBytes : Bool
  isFormat : Bool
  start : Pos
  body : List Char
  deriving Repr, DecidableEq, Inhabited

/-- The kinds of tokens. -/
inductive TokenKind where
  | name (text : String)
  | keyword (text : String)
  | number (isImaginary : Bool)
  | string (text : QuotedText)
  | operator (text : String)
  | newline
  | indent
  | dedent
  | endOfInput
  deriving Repr, DecidableEq, Inhabited

/-- A token with its place. -/
structure Token where
  kind : TokenKind
  span : Span
  deriving Repr, DecidableEq, Inhabited

/-- The reserved words. -/
def reservedWords : List String :=
  ["False", "None", "True", "and", "as", "assert", "async", "await", "break", "class", "continue",
   "def", "del", "elif", "else", "except", "finally", "for", "from", "global", "if", "import",
   "in", "is", "lambda", "nonlocal", "not", "or", "pass", "raise", "return", "try", "while",
   "with", "yield"]

/-- Operators and delimiters, longer ones first. -/
def operatorTexts : List String :=
  ["**=", "//=", ">>=", "<<=", "...",
   "!=", "%=", "&=", "**", "*=", "+=", "-=", "->", "//", "/=", ":=", "<<", "<=", "<>", "==", ">=",
   ">>", "@=", "^=", "|=",
   "%", "&", "(", ")", "*", "+", ",", "-", ".", "/", ":", ";", "<", "=", ">", "@", "[", "]", "^",
   "\x7b", "|", "\x7d", "~"]

/-- Whether a token is part of the code, not of its layout. -/
def Token.isCode (t : Token) : Bool :=
  match t.kind with
  | .newline | .indent | .dedent | .endOfInput => false
  | _ => true

end StateCoverage
