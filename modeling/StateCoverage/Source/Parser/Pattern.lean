import StateCoverage.Source.Parser.Display

/-!
# Patterns

The rules for the patterns of a `case`: literals, captures, values, groups,
sequences, mappings and classes, their alternatives and their names.
-/

namespace StateCoverage.Source

open Parser

/-- A number token, which must be imaginary or must not be if that is given. -/
def patternNumber (imaginary? : Option Bool) : Parser Unit := do
  match ← peek with
  | .number isImaginary =>
      if imaginary?.all (· = isImaginary) then discard next else reject
  | _ => reject

/-- A number with an optional minus sign. -/
def signedNumber (imaginary? : Option Bool) : Parser Expr := do
  let start ← here
  if ← acceptOp "-" then
    let inner ← here
    patternNumber imaginary?
    let operand := Expr.constant (← spanFrom inner)
    return .compound (← spanFrom start) .unary [operand]
  else
    patternNumber imaginary?
    return .constant (← spanFrom start)

/-- A sum of a real and an imaginary number. -/
def complexNumber : Parser Expr := do
  let start ← here
  let real ← signedNumber (some false)
  oneOp ["+", "-"]
  let inner ← here
  patternNumber (some true)
  let imaginary := Expr.constant (← spanFrom inner)
  return .compound (← spanFrom start) .binary [real, imaginary]

/-- A number that stands in a pattern. -/
def patternNumeral : Parser Expr :=
  (do
    let e ← signedNumber none
    match ← peek with
    | .operator "+" | .operator "-" => reject
    | _ => return e) <|> complexNumber

/-- Whether a literal that is no name constant comes next. -/
def nextIsPatternLiteral : Parser Bool := do
  match ← peek with
  | .number _ | .operator "-" | .string _ => return true
  | _ => return false

/-- A number or string in a pattern. -/
def patternLiteral (self : Rules) : Parser Expr := do
  match ← peek with
  | .string _ => strings self
  | _ => patternNumeral

/-- Whether one of the constants `None`, `True` and `False` comes next. -/
def nextIsNamedConstant : Parser Bool := do
  match ← peek with
  | .keyword "None" | .keyword "True" | .keyword "False" => return true
  | _ => return false

/-- A name with the attributes that follow it. -/
def dottedValue : Parser Expr := do
  let start ← here
  let id ← name
  let first := Expr.name (← spanFrom start) id .load
  iterate (fun e => do
    op "."
    let attr ← name
    return .member (← spanFrom start) e attr) first

/-- Whether an expression is an attribute. -/
def isMember : Expr → Bool
  | .member .. => true
  | _ => false

/-- A name that a pattern binds: no underscore, and nothing that would make it
part of a value, class or keyword follows. -/
def captureTarget : Parser String := do
  if ← nextIs (.name "_") then reject
  let id ← name
  match ← peek with
  | .operator "." | .operator "(" | .operator "=" => reject
  | _ => return id

/-- `*name` or `*_`. -/
def starPattern : Parser Pattern := do
  let start ← here
  op "*"
  match ← peek with
  | .name "_" =>
      discard next
      return .star (← spanFrom start) none
  | _ =>
      let id ← captureTarget
      return .star (← spanFrom start) (some id)

/-- An item of a sequence pattern. -/
def sequenceItem (self : Rules) : Parser Pattern := do
  if ← nextIsOp "*" then starPattern else self.pattern

/-- Whether a pattern is a star pattern. -/
def isStarPattern : Pattern → Bool
  | .star .. => true
  | _ => false

/-- A group or a sequence in parentheses: a comma makes it a sequence. -/
def parenthesizedPattern (self : Rules) : Parser Pattern := do
  let start ← here
  op "("
  if ← acceptOp ")" then return .sequence (← spanFrom start) []
  else
    let (items, hasComma) ← commaTerminated (sequenceItem self)
    op ")"
    match items, hasComma with
    | [p], false => if isStarPattern p then reject else return p
    | ps, _ => return .sequence (← spanFrom start) ps

/-- A sequence in brackets. -/
def bracketedPattern (self : Rules) : Parser Pattern := do
  let start ← here
  op "["
  if ← acceptOp "]" then return .sequence (← spanFrom start) []
  else
    let (ps, _) ← commaTerminated (sequenceItem self)
    op "]"
    return .sequence (← spanFrom start) ps

/-- The key of a mapping pattern. -/
def mappingKey (self : Rules) : Parser Expr := do
  if ← nextIsPatternLiteral then patternLiteral self
  else if ← nextIsNamedConstant then
    let start ← here
    discard next
    return .constant (← spanFrom start)
  else
    let e ← dottedValue
    if isMember e then return e else reject

/-- One `key: pattern` of a mapping pattern. -/
def mappingItem (self : Rules) : Parser (Expr × Pattern) := do
  let key ← mappingKey self
  op ":"
  return (key, ← self.pattern)

/-- A mapping pattern; `**rest` comes last. -/
def mappingPattern (self : Rules) : Parser Pattern := do
  let start ← here
  op "\x7b"
  let items ← perhaps (commaSeparated (mappingItem self))
  let rest? ←
    match items with
    | none => perhaps (do op "**"; captureTarget)
    | some _ => perhaps (do op ","; op "**"; captureTarget)
  if items.isSome || rest?.isSome then discard (acceptOp ",")
  op "\x7d"
  let pairs := items.getD []
  return .mapping (← spanFrom start) (pairs.map Prod.fst) (pairs.map Prod.snd) rest?

/-- One argument of a class pattern, and whether it is given by name. -/
def classPatternItem (self : Rules) : Parser (Bool × Pattern) := do
  match ← peek, ← peekSecond with
  | .name _, .operator "=" =>
      discard next
      discard next
      return (true, ← self.pattern)
  | _, _ => return (false, ← self.pattern)

/-- The arguments of a class pattern, those given by name after the others. -/
def classPatternItems (self : Rules) : Parser (List Pattern × List Pattern) := do
  match ← perhaps (commaTerminated (classPatternItem self)) with
  | none => return ([], [])
  | some (items, _) =>
      let positional := items.takeWhile fun i => !i.1
      let named := items.dropWhile fun i => !i.1
      if named.all Prod.fst then return (positional.map Prod.snd, named.map Prod.snd) else reject

/-- A capture, the wildcard, a value or a class pattern: all start with a name. -/
def namePattern (self : Rules) : Parser Pattern := do
  let start ← here
  match ← peek with
  | .name "_" =>
      discard next
      return .capture (← spanFrom start) none none
  | _ =>
      let value ← dottedValue
      match ← peek, value with
      | .operator "(", _ =>
          let (ps, ks) ← between "(" ")" (classPatternItems self)
          return .classOf (← spanFrom start) value ps ks
      | .operator "=", _ | .operator ".", _ => reject
      | _, .name _ id _ => return .capture (← spanFrom start) none (some id)
      | _, _ => return .value (← spanFrom start) value

/-- A pattern without alternatives. -/
def closedPattern (self : Rules) : Parser Pattern := do
  let start ← here
  if ← nextIsPatternLiteral then
    let e ← patternLiteral self
    return .value (← spanFrom start) e
  else if ← nextIsNamedConstant then
    discard next
    return .singleton (← spanFrom start)
  else
    match ← peek with
    | .name _ => namePattern self
    | .operator "(" => parenthesizedPattern self
    | .operator "[" => bracketedPattern self
    | .operator "\x7b" => mappingPattern self
    | _ => reject

/-- Alternatives. -/
def orPattern (self : Rules) : Parser Pattern := do
  let start ← here
  let first ← closedPattern self
  match ← many (do op "|"; closedPattern self) with
  | [] => return first
  | rest => return .alternatives (← spanFrom start) (first :: rest)

/-- A pattern, possibly with a name for what it matches. -/
def patternRule (self : Rules) : Parser Pattern := do
  let start ← here
  let p ← orPattern self
  (do
    keyword "as"
    let id ← captureTarget
    return .capture (← spanFrom start) (some p) (some id)) <|> pure p

/-- The pattern of a `case`: a comma makes it a sequence. -/
def casePattern (self : Rules) : Parser Pattern := do
  let start ← here
  let (items, hasComma) ←
    commaTerminated (do if ← nextIsOp "*" then starPattern else patternRule self)
  match items, hasComma with
  | [p], false => if isStarPattern p then reject else return p
  | ps, _ => return .sequence (← spanFrom start) ps

end StateCoverage.Source
