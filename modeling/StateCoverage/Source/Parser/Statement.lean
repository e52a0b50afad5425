import StateCoverage.Source.Parser.Expression
import StateCoverage.Source.Parser.Pattern

/-!
# Statements

Simple statements stand on a line, separated by semicolons; compound statements
carry blocks, which are either such a line or an indented list of statements.
-/

namespace StateCoverage.Source

open Parser

/-! ## Simple statements -/

/-- The operators that assign in place. -/
def augmentedOperators : List String :=
  ["+=", "-=", "*=", "@=", "/=", "%=", "&=", "|=", "^=", "<<=", ">>=", "**=", "//="]

/-- The right side of an assignment. -/
def assignedValue (self : Rules) : Parser Expr := do
  if ← nextIsKeyword "yield" then yieldExpression self else starExpressionsRule self

/-- An expression as a target, or failure. -/
def asTarget (target? : Option Expr) : Parser Expr :=
  match target? with
  | some t => return t
  | none => reject

/-- An expression statement or an assignment of any kind. -/
def expressionStatement (self : Rules) : Parser Stmt := do
  let start ← here
  let first ← starExpressionsRule self
  match ← peek with
  | .operator ":" =>
      let target ← asTarget first.singleTarget?
      discard next
      let declared ← self.expression
      let value? ← do
        if ← acceptOp "=" then some <$> assignedValue self else pure none
      return .simple (← spanFrom start) .typedAssign (target :: declared :: value?.toList)
  | .operator "=" =>
      let rest ← many1 (do op "="; assignedValue self)
      let sides := first :: rest
      let targets ← sides.dropLast.mapM fun e => asTarget e.storeTarget?
      return .simple (← spanFrom start) .assign (targets ++ sides.getLast?.toList)
  | .operator o =>
      if o ∈ augmentedOperators then
        let target ← asTarget first.singleTarget?
        discard next
        let value ← assignedValue self
        return .simple (← spanFrom start) .augmentedAssign [target, value]
      else return .simple (← spanFrom start) .expression [first]
  | _ => return .simple (← spanFrom start) .expression [first]

/-- A name with dots in it. -/
def dottedName : Parser String := do
  let first ← name
  let rest ← many (do op "."; name)
  return ".".intercalate (first :: rest)

/-- An imported name with its optional other name. -/
def importAlias (imported : Parser String) : Parser Alias := do
  let start ← here
  let id ← imported
  let asName? ← perhaps (do keyword "as"; name)
  return ⟨← spanFrom start, id, asName?⟩

/-- The names that `from … import` takes. -/
def importedNames : Parser (List Alias) := do
  let start ← here
  if ← acceptOp "*" then return [⟨← spanFrom start, "*", none⟩]
  else if ← acceptOp "(" then
    let (aliases, _) ← commaTerminated (importAlias name)
    op ")"
    return aliases
  else
    let (aliases, hasComma) ← commaTerminated (importAlias name)
    if hasComma then reject else return aliases

/-- `from … import …`. -/
def importFromStatement (start : Pos) : Parser Stmt := do
  let dots ← many (oneOp [".", "..."])
  match ← peek with
  | .name _ => discard dottedName
  | _ => if dots.isEmpty then reject
  keyword "import"
  let aliases ← importedNames
  return .importing (← spanFrom start) true aliases

/-- What `del` removes. -/
def deleteTarget (self : Rules) : Parser Expr := do
  asTarget (← bitwiseOrRule self).deleteTarget?

/-- A statement that starts with a keyword and fits on a line. -/
def keywordStatement (self : Rules) (word : String) : Parser Stmt := do
  let start ← here
  let simple (form : SimpleForm) (parts : List Expr) : Parser Stmt :=
    return .simple (← spanFrom start) form parts
  match word with
  | "return" =>
      discard next
      let value? ← perhaps (starExpressionsRule self)
      return .ret (← spanFrom start) value?
  | "import" =>
      discard next
      let aliases ← commaSeparated (importAlias dottedName)
      return .importing (← spanFrom start) false aliases
  | "from" =>
      discard next
      importFromStatement start
  | "raise" =>
      discard next
      match ← perhaps self.expression with
      | none => simple .raising []
      | some raised =>
          let cause? ← perhaps (do keyword "from"; self.expression)
          simple .raising (raised :: cause?.toList)
  | "pass" =>
      discard next
      simple .passing []
  | "del" =>
      discard next
      let (targets, _) ← commaTerminated (deleteTarget self)
      match ← peek with
      | .operator ";" | .newline => simple .delete targets
      | _ => reject
  | "yield" =>
      let e ← yieldExpression self
      simple .expression [e]
  | "assert" =>
      discard next
      let test ← self.expression
      let message? ← perhaps (do op ","; self.expression)
      simple .assertion (test :: message?.toList)
  | "break" =>
      discard next
      simple .breaking []
  | "continue" =>
      discard next
      simple .continuing []
  | "global" =>
      discard next
      let names ← commaSeparated name
      return .declaration (← spanFrom start) .global names
  | "nonlocal" =>
      discard next
      let names ← commaSeparated name
      return .declaration (← spanFrom start) .nonlocal names
  | _ => expressionStatement self

/-- A statement that fits on a line. -/
def simpleStatement (self : Rules) : Parser Stmt := do
  match ← peek with
  | .keyword word => keywordStatement self word
  | _ => expressionStatement self

/-- The statements of a line. -/
def statementLine (self : Rules) : Parser (List Stmt) := do
  let first ← simpleStatement self
  let rest ← many (do op ";"; simpleStatement self)
  discard (acceptOp ";")
  token .newline
  return first :: rest

/-! ## Compound statements -/

/-- The block of a compound statement, with the colon before it. -/
def block (self : Rules) : Parser (List Stmt) := do
  op ":"
  if ← accept .newline then
    token .indent
    let body ← self.statements
    token .dedent
    return body
  else statementLine self

/-- A block after a keyword, if the keyword comes next. -/
def keywordBlock (self : Rules) (word : String) : Parser (Option (List Stmt)) := do
  if ← acceptKeyword word then some <$> block self else return none

/-- The `else` block, empty if there is none. -/
def elseBlock (self : Rules) : Parser (List Stmt) :=
  return (← keywordBlock self "else").getD []

/-- `if` with its `elif`s, each of which is an `if` in the `else` part of the
one before. -/
def ifStatement (self : Rules) : Parser Stmt := do
  let start ← here
  keyword "if"
  let test ← namedExpression self
  let body ← block self
  let alternatives ← many do
    let start ← here
    keyword "elif"
    let test ← namedExpression self
    return (start, test, ← block self)
  let final ← elseBlock self
  let stop := (← spanFrom start).stop
  let orelse := alternatives.foldr
    (fun (s, t, b) rest => [.conditional ⟨s, stop⟩ t b rest]) final
  return .conditional ⟨start, stop⟩ test body orelse

/-- `while`. -/
def whileStatement (self : Rules) : Parser Stmt := do
  let start ← here
  keyword "while"
  let test ← namedExpression self
  let body ← block self
  let orelse ← elseBlock self
  return .loop (← spanFrom start) .whileLoop [test] body orelse

/-- `for`, from its keyword on. -/
def forStatement (self : Rules) (start : Pos) (isAsync : Bool) : Parser Stmt := do
  keyword "for"
  let target ← starTargets self
  keyword "in"
  let iterable ← starExpressionsRule self
  let body ← block self
  let orelse ← elseBlock self
  let form := if isAsync then LoopForm.asyncForLoop else .forLoop
  return .loop (← spanFrom start) form [target, iterable] body orelse

/-- One item of a `with`. -/
def withItem (self : Rules) : Parser WithItem := do
  let context ← self.expression
  (do
    keyword "as"
    let target ← starTarget self
    match ← peek with
    | .operator "," | .operator ")" | .operator ":" => return ⟨context, some target⟩
    | _ => reject) <|> pure ⟨context, none⟩

/-- The items of a `with`, possibly in parentheses, up to the colon. -/
def withItems (self : Rules) : Parser (List WithItem) :=
  (do
    op "("
    let (items, _) ← commaTerminated (withItem self)
    op ")"
    if ← nextIsOp ":" then return items else reject)
  <|> commaSeparated (withItem self)

/-- `with`, from its keyword on. -/
def withStatement (self : Rules) (start : Pos) (isAsync : Bool) : Parser Stmt := do
  keyword "with"
  let items ← withItems self
  let body ← block self
  return .within (← spanFrom start) isAsync items body

/-- An `except` clause with a star or without one. -/
def exceptClause (self : Rules) (isStar : Bool) : Parser Handler := do
  let start ← here
  keyword "except"
  if isStar then op "*"
  if !isStar && (← nextIsOp ":") then
    let body ← block self
    return ⟨← spanFrom start, none, none, body⟩
  else
    let type ← self.expression
    let name? ← perhaps (do keyword "as"; name)
    let body ← block self
    return ⟨← spanFrom start, some type, name?, body⟩

/-- `try`: handlers of one sort with an optional `else`, and a `finally` if
there are no handlers. -/
def tryStatement (self : Rules) : Parser Stmt := do
  let start ← here
  keyword "try"
  let body ← block self
  let isStar := match ← peek, ← peekSecond with
    | .keyword "except", .operator "*" => true
    | _, _ => false
  let handlers ← many (exceptClause self isStar)
  let orelse ← if handlers.isEmpty then pure [] else elseBlock self
  match ← keywordBlock self "finally" with
  | some final => return .attempt (← spanFrom start) isStar body handlers orelse final
  | none =>
      if handlers.isEmpty then reject
      else return .attempt (← spanFrom start) isStar body handlers orelse []

/-- A `def`, from its keyword on. -/
def functionStatement (self : Rules) (start : Pos) (isAsync : Bool) (decorators : List Expr) :
    Parser Stmt := do
  keyword "def"
  let id ← name
  let ps ← between "(" ")" (params self true)
  let returns? ← do
    if ← acceptOp "->" then some <$> self.expression else pure none
  let body ← block self
  return .function ⟨← spanFrom start, isAsync, id, ps, body, decorators, returns?⟩

/-- A `class`, from its keyword on. -/
def classStatement (self : Rules) (decorators : List Expr) : Parser Stmt := do
  let start ← here
  keyword "class"
  let id ← name
  let (bases, keywords) ← do
    if ← nextIsOp "(" then classArguments self else pure ([], [])
  let body ← block self
  return .classDef ⟨← spanFrom start, id, bases, keywords, body, decorators⟩

/-- A decorator and the end of its line. -/
def decorator (self : Rules) : Parser Expr := do
  op "@"
  let e ← namedExpression self
  token .newline
  return e

/-- A definition with the decorators before it. -/
def definition (self : Rules) (decorators : List Expr) : Parser Stmt := do
  let start ← here
  match ← peek with
  | .keyword "async" =>
      discard next
      functionStatement self start true decorators
  | .keyword "def" => functionStatement self start false decorators
  | _ => classStatement self decorators

/-- A statement that starts with `async`. -/
def asyncStatement (self : Rules) : Parser Stmt := do
  let start ← here
  keyword "async"
  match ← peek with
  | .keyword "def" => functionStatement self start true []
  | .keyword "for" => forStatement self start true
  | _ => withStatement self start true

/-- A `case`. -/
def caseBlock (self : Rules) : Parser MatchCase := do
  token (.name "case")
  let pattern ← casePattern self
  let guard? ← do
    if ← acceptKeyword "if" then some <$> namedExpression self else pure none
  return ⟨pattern, guard?, ← block self⟩

/-- What a `match` compares: a comma makes it a tuple. -/
def matchSubject (self : Rules) : Parser Expr := do
  let e ← commaExpressions (starNamedExpression self)
  if isStarred e then reject else return e

/-- `match`, which is a name everywhere else. -/
def matchStatement (self : Rules) : Parser Stmt := do
  let start ← here
  token (.name "match")
  let subject ← matchSubject self
  op ":"
  token .newline
  token .indent
  let cases ← many1 (caseBlock self)
  token .dedent
  return .branch (← spanFrom start) subject cases

/-- One compound statement or one line of simple ones. -/
def statement (self : Rules) : Parser (List Stmt) := do
  let one (p : Parser Stmt) : Parser (List Stmt) := return [← p]
  match ← peek with
  | .keyword "if" => one (ifStatement self)
  | .keyword "while" => one (whileStatement self)
  | .keyword "for" => one (forStatement self (← here) false)
  | .keyword "with" => one (withStatement self (← here) false)
  | .keyword "try" => one (tryStatement self)
  | .keyword "def" | .keyword "class" => one (definition self [])
  | .keyword "async" => one (asyncStatement self)
  | .operator "@" => do
      let decorators ← many1 (decorator self)
      one (definition self decorators)
  | .name "match" => one (matchStatement self) <|> statementLine self
  | _ => statementLine self

/-- The statements of a block. -/
def statementsRule (self : Rules) : Parser (List Stmt) :=
  return (← many1 (statement self)).flatten

end StateCoverage.Source
