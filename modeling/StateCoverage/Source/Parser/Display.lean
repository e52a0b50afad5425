import StateCoverage.Source.Parser.Params
import StateCoverage.Source.Parser.StringLiteral
import StateCoverage.Source.Parser.Target

/-!
# Atoms, displays, calls and subscripts

The expressions that bind closest: names, literals, whatever stands in
brackets, and the attributes, calls and subscripts that follow them.
-/

namespace StateCoverage.Source

open Parser

/-! ## Parts of displays and calls -/

/-- `name := value`, if that is what comes next. -/
def assignmentExpression (self : Rules) : Parser Expr := do
  let start ← here
  let id ← name
  let idSpan ← spanFrom start
  op ":="
  let value ← self.expression
  return .compound (← spanFrom start) .named [.name idSpan id .store, value]

/-- Whether `name :=` comes next. -/
def nextIsAssignmentExpression : Parser Bool := do
  match ← peek, ← peekSecond with
  | .name _, .operator ":=" => return true
  | _, _ => return false

/-- An expression that may be an assignment expression. -/
def namedExpression (self : Rules) : Parser Expr := do
  if ← nextIsAssignmentExpression then assignmentExpression self
  else
    let e ← self.expression
    if ← nextIsOp ":=" then reject else return e

/-- One or more operands with one of several left-associative operators between
them. -/
def leftAssociative (ops : List String) (operand : Parser Expr) : Parser Expr := do
  let start ← here
  let first ← operand
  iterate (fun left => do
    oneOp ops
    let right ← operand
    return .compound (← spanFrom start) .binary [left, right]) first

/-- Whether an expression is an unpacking. -/
def isStarred : Expr → Bool
  | .compound _ .starred _ => true
  | _ => false

/-- `*operand`. -/
def starred (operand : Parser Expr) : Parser Expr := do
  let start ← here
  op "*"
  let e ← operand
  return .compound (← spanFrom start) .starred [e]

/-- A target of a loop, a comprehension or a `with` item. -/
def starTarget (self : Rules) : Parser Expr := do
  let e ← if ← nextIsOp "*" then starred self.bitwiseOr else self.bitwiseOr
  match e.storeTarget? with
  | some t => return t
  | none => reject

/-- One or more targets; a comma makes them a tuple. -/
def starTargets (self : Rules) : Parser Expr := do
  let start ← here
  let (targets, hasComma) ← commaTerminated (starTarget self)
  match targets, hasComma with
  | [t], false => return t
  | ts, _ => return .sequence (← spanFrom start) .tuple ts

/-- One `for` clause of a comprehension. -/
def comprehensionClause (self : Rules) : Parser Clause := do
  discard (acceptKeyword "async")
  keyword "for"
  let target ← starTargets self
  keyword "in"
  let iterable ← self.disjunction
  let conditions ← many (do keyword "if"; self.disjunction)
  return ⟨target, iterable, conditions⟩

/-- Whether a `for` clause comes next. -/
def nextIsClause : Parser Bool := do
  match ← peek, ← peekSecond with
  | .keyword "for", _ => return true
  | .keyword "async", .keyword "for" => return true
  | _, _ => return false

/-- One argument of a call. -/
inductive Argument where
  | positional (e : Expr)
  | starred (e : Expr)
  | named (k : Keyword)
  | spread (k : Keyword)

/-- One argument of a call or a class. -/
def argument (self : Rules) : Parser Argument := do
  let start ← here
  if ← nextIsOp "*" then return .starred (← starred self.expression)
  else if ← acceptOp "**" then
    let value ← self.expression
    return .spread ⟨← spanFrom start, none, value⟩
  else
    match ← peek, ← peekSecond with
    | .name _, .operator "=" =>
        let id ← name
        op "="
        let value ← self.expression
        return .named ⟨← spanFrom start, some id, value⟩
    | _, _ => return .positional (← namedExpression self)

/-- Whether arguments stand in an allowed order: positional ones before
keywords, and unpacked sequences before unpacked mappings. -/
def argumentsOrdered (seenName seenSpread : Bool) : List Argument → Bool
  | [] => true
  | .positional _ :: rest => !seenName && !seenSpread && argumentsOrdered seenName seenSpread rest
  | .starred _ :: rest => !seenSpread && argumentsOrdered seenName seenSpread rest
  | .named _ :: rest => argumentsOrdered true seenSpread rest
  | .spread _ :: rest => argumentsOrdered seenName true rest

/-- The value of an argument given by place. -/
def Argument.byPlace? : Argument → Option Expr
  | .positional e | .starred e => some e
  | _ => none

/-- The keyword of an argument given by name. -/
def Argument.byName? : Argument → Option Keyword
  | .named k | .spread k => some k
  | _ => none

/-- Arguments sorted into those by place and those by name. -/
def splitArguments (as : List Argument) : Parser (List Expr × List Keyword) :=
  if argumentsOrdered false false as then
    return (as.filterMap Argument.byPlace?, as.filterMap Argument.byName?)
  else reject

/-- The arguments in the parentheses of a class. -/
def classArguments (self : Rules) : Parser (List Expr × List Keyword) :=
  between "(" ")" do
    match ← perhaps (commaTerminated (argument self)) with
    | none => return ([], [])
    | some (as, _) => splitArguments as

/-! ## Displays -/

/-- An element of a list, tuple or set display. -/
def starNamedExpression (self : Rules) : Parser Expr := do
  if ← nextIsOp "*" then starred self.bitwiseOr else namedExpression self

/-- An expression with `yield`. -/
def yieldExpression (self : Rules) : Parser Expr := do
  let start ← here
  keyword "yield"
  if ← acceptKeyword "from" then
    let e ← self.expression
    return .compound (← spanFrom start) .yieldedFrom [e]
  else
    let e ← perhaps self.starExpressions
    return .compound (← spanFrom start) .yielded e.toList

/-- What stands in parentheses: a tuple, a generator or a single expression,
which keeps its own span. -/
def parenthesized (self : Rules) :
    Parser Expr := do
  let start ← here
  op "("
  if ← acceptOp ")" then return .sequence (← spanFrom start) .tuple []
  else if ← nextIsKeyword "yield" then
    let e ← yieldExpression self
    op ")"
    return e
  else
    let first ← starNamedExpression self
    if ← nextIsOp "," then
      let rest ← many (do op ","; starNamedExpression self)
      discard (acceptOp ",")
      op ")"
      return .sequence (← spanFrom start) .tuple (first :: rest)
    else if isStarred first then reject
    else if ← nextIsClause then
      let clauses ← many1 (comprehensionClause self)
      op ")"
      return .comprehension (← spanFrom start) .generator [first] clauses
    else
      op ")"
      return first

/-- A list display or comprehension. -/
def bracketed (self : Rules) : Parser Expr := do
  let start ← here
  op "["
  if ← acceptOp "]" then return .sequence (← spanFrom start) .list []
  else
    let first ← starNamedExpression self
    if !isStarred first && (← nextIsClause) then
      let clauses ← many1 (comprehensionClause self)
      op "]"
      return .comprehension (← spanFrom start) .list [first] clauses
    else
      let rest ← many (do op ","; starNamedExpression self)
      discard (acceptOp ",")
      op "]"
      return .sequence (← spanFrom start) .list (first :: rest)

/-- An entry of a dict display. -/
def dictEntry (self : Rules) : Parser Entry := do
  if ← acceptOp "**" then return .spread (← self.bitwiseOr)
  else
    let key ← self.expression
    op ":"
    return .pair key (← self.expression)

/-- The rest of a dict display after its first entry. -/
def dictRest (self : Rules) (start : Pos) (first : Entry) :
    Parser Expr := do
  let rest ← many (do op ","; dictEntry self)
  discard (acceptOp ",")
  op "\x7d"
  return .dict (← spanFrom start) (first :: rest)

/-- A dict or set, as a display or comprehension. -/
def braced (self : Rules) : Parser Expr := do
  let start ← here
  op "\x7b"
  if ← acceptOp "\x7d" then return .dict (← spanFrom start) []
  else if ← nextIsOp "**" then
    dictRest self start (← dictEntry self)
  else
    let isNamed ← nextIsAssignmentExpression
    let first ← starNamedExpression self
    let isKey := !isNamed && !isStarred first
    if isKey && (← nextIsOp ":") then
      op ":"
      let value ← self.expression
      if ← nextIsClause then
        let clauses ← many1 (comprehensionClause self)
        op "\x7d"
        return .comprehension (← spanFrom start) .dict [first, value] clauses
      else dictRest self start (.pair first value)
    else if !isStarred first && (← nextIsClause) then
      let clauses ← many1 (comprehensionClause self)
      op "\x7d"
      return .comprehension (← spanFrom start) .set [first] clauses
    else
      let rest ← many (do op ","; starNamedExpression self)
      discard (acceptOp ",")
      op "\x7d"
      return .compound (← spanFrom start) .set (first :: rest)

/-! ## Atoms and what follows them -/

/-- A name, a literal or something in brackets. -/
def atom (self : Rules) : Parser Expr := do
  let start ← here
  match ← peek with
  | .name _ =>
      let id ← name
      return .name (← spanFrom start) id .load
  | .number _ | .operator "..." | .keyword "None" | .keyword "True" | .keyword "False" =>
      discard next
      return .constant (← spanFrom start)
  | .string _ => strings self
  | .operator "(" => parenthesized self 
  | .operator "[" => bracketed self
  | .operator "\x7b" => braced self
  | _ => reject

/-- The bounds of a slice after its first colon. -/
def sliceRest (self : Rules) (start : Pos) (lower? : Option Expr) : Parser Expr := do
  op ":"
  let upper? ← perhaps self.expression
  let step? ← do
    if ← acceptOp ":" then perhaps self.expression else pure none
  return .compound (← spanFrom start) .slice (lower?.toList ++ upper?.toList ++ step?.toList)

/-- One subscript: a slice, an unpacking or an expression. -/
def subscriptItem (self : Rules) : Parser Expr := do
  let start ← here
  if ← nextIsOp "*" then starred self.expression
  else if ← nextIsOp ":" then sliceRest self start none
  else if ← nextIsAssignmentExpression then assignmentExpression self
  else
    let e ← self.expression
    if ← nextIsOp ":" then sliceRest self start (some e)
    else if ← nextIsOp ":=" then reject
    else return e

/-- What stands in the brackets of a subscript; a comma or an unpacking makes
it a tuple. -/
def subscripts (self : Rules) : Parser Expr := do
  let start ← here
  let (items, hasComma) ← commaTerminated (subscriptItem self)
  match items, hasComma with
  | [e], false => if isStarred e then return .sequence (← spanFrom start) .tuple [e] else return e
  | es, _ => return .sequence (← spanFrom start) .tuple es

/-- The arguments of a call.  A generator needs no parentheses of its own if it
is the only argument. -/
def callArguments (self : Rules) :
    Parser (List Expr × List Keyword) := do
  let start ← here
  op "("
  if ← acceptOp ")" then return ([], [])
  else
    let first ← argument self
    match first, ← nextIsClause with
    | .positional e, true =>
        let clauses ← many1 (comprehensionClause self)
        op ")"
        return ([.comprehension (← spanFrom start) .generator [e] clauses], [])
    | _, _ =>
        let rest ← many (do op ","; argument self)
        discard (acceptOp ",")
        op ")"
        splitArguments (first :: rest)

/-- One attribute, call or subscript after an expression. -/
def trailer (self : Rules) (start : Pos) (e : Expr) :
    Parser Expr := do
  match ← peek with
  | .operator "." =>
      discard next
      let attr ← name
      return .member (← spanFrom start) e attr
  | .operator "(" =>
      let (args, keywords) ← callArguments self
      return .call ⟨← spanFrom start, e, args, keywords⟩
  | .operator "[" =>
      discard next
      let item ← subscripts self
      op "]"
      return .compound (← spanFrom start) .subscript [e, item]
  | _ => reject

end StateCoverage.Source
