import StateCoverage.Source.Parser.Display

/-!
# Expressions

The levels of operators, from the closest to the loosest: `await`, powers,
signs, arithmetic and bitwise operators, comparisons, `not`, `and`, `or`,
conditional expressions and lambdas, and the tuples made by bare commas.
-/

namespace StateCoverage.Source

open Parser

/-- An atom with its attributes, calls and subscripts. -/
def primary (self : Rules) : Parser Expr := do
  let start ← here
  let first ← atom self
  iterate (trailer self start) first

/-- A primary, possibly awaited. -/
def awaited (self : Rules) : Parser Expr := do
  let start ← here
  if ← acceptKeyword "await" then
    let e ← primary self
    return .compound (← spanFrom start) .awaited [e]
  else primary self

/-- A power; its exponent may have a sign. -/
def power (self : Rules) : Parser Expr := do
  let start ← here
  let base ← awaited self
  (do
    op "**"
    let exponent ← self.factor
    return .compound (← spanFrom start) .binary [base, exponent]) <|> pure base

/-- An operand with its signs. -/
def factorRule (self : Rules) : Parser Expr := do
  let start ← here
  match ← peek with
  | .operator "+" | .operator "-" | .operator "~" =>
      discard next
      let e ← self.factor
      return .compound (← spanFrom start) .unary [e]
  | _ => power self

/-- Arithmetic and bitwise operators, by how close they bind. -/
def bitwiseOrRule (self : Rules) : Parser Expr :=
  [["*", "/", "//", "%", "@"], ["+", "-"], ["<<", ">>"], ["&"], ["^"], ["|"]].foldl
    (fun operand ops => leftAssociative ops operand) (factorRule self)

/-- One comparison operator. -/
def comparisonOperator : Parser Unit := do
  match ← peek with
  | .operator o =>
      if o ∈ ["==", "!=", "<=", "<", ">=", ">"] then discard next else reject
  | .keyword "in" => discard next
  | .keyword "not" =>
      discard next
      keyword "in"
  | .keyword "is" =>
      discard next
      discard (acceptKeyword "not")
  | _ => reject

/-- A chain of comparisons. -/
def comparison (self : Rules) : Parser Expr := do
  let start ← here
  let first ← bitwiseOrRule self
  match ← many (do comparisonOperator; bitwiseOrRule self) with
  | [] => return first
  | rest => return .compound (← spanFrom start) .comparison (first :: rest)

/-- A comparison, possibly negated. -/
def inversionRule (self : Rules) : Parser Expr := do
  let start ← here
  if ← acceptKeyword "not" then
    let e ← self.inversion
    return .compound (← spanFrom start) .unary [e]
  else comparison self

/-- Operands joined by `and` or `or`. -/
def booleanOperation (word : String) (operand : Parser Expr) : Parser Expr := do
  let start ← here
  let first ← operand
  match ← many (do keyword word; operand) with
  | [] => return first
  | rest => return .compound (← spanFrom start) .boolean (first :: rest)

/-- Operands joined by `and` and `or`. -/
def disjunctionRule (self : Rules) : Parser Expr :=
  booleanOperation "or" (booleanOperation "and" (inversionRule self))

/-- A lambda. -/
def lambdaExpression (self : Rules) : Parser Expr := do
  let start ← here
  keyword "lambda"
  let ps ← params self false
  op ":"
  let body ← self.expression
  return .lambda ⟨← spanFrom start, ps, body⟩

/-- A whole expression. -/
def expressionRule (self : Rules) : Parser Expr := do
  if ← nextIsKeyword "lambda" then lambdaExpression self
  else
    let start ← here
    let body ← disjunctionRule self
    (do
      keyword "if"
      let test ← self.disjunction
      keyword "else"
      let orelse ← self.expression
      return .conditional (← spanFrom start) test body orelse) <|> pure body

/-- An expression or an unpacking. -/
def starExpression (self : Rules) : Parser Expr := do
  if ← nextIsOp "*" then starred self.bitwiseOr else expressionRule self

/-- Expressions with commas between them; a comma makes them a tuple. -/
def commaExpressions (item : Parser Expr) : Parser Expr := do
  let start ← here
  let (items, hasComma) ← commaTerminated item
  match items, hasComma with
  | [e], false => return e
  | es, _ => return .sequence (← spanFrom start) .tuple es

/-- One or more expressions or unpackings. -/
def starExpressionsRule (self : Rules) : Parser Expr :=
  commaExpressions (starExpression self)

end StateCoverage.Source
