import StateCoverage.Source.Node

/-!
# Shapes of syntax

The closed set of shapes that the analysis consults.  Every node has exactly
one; a node outside the set is unrecognized and no part of the analysis looks
into it.
-/

namespace StateCoverage

/-- The shapes that the analysis tells apart. -/
inductive Shape where
  /-- `foo`. -/
  | name
  /-- `a.b.foo`. -/
  | qualifiedName
  /-- `{"k": v}`. -/
  | literalMapping
  /-- `[a, b]` or `(a, b)`. -/
  | literalSequence
  /-- `"text"`. -/
  | stringLiteral
  /-- `lambda: expr`. -/
  | expressionFunction
  /-- `def f(): ...`, not `async def`. -/
  | blockFunction
  /-- `return expr`. -/
  | returning
  /-- `if` and `a if c else b`. -/
  | conditional
  /-- `match`. -/
  | multiWayBranch
  /-- `case ...:`. -/
  | branchCase
  /-- `for`, `while`, `with`, `try` and `except`. -/
  | statementBlock
  /-- Anything else. -/
  | unrecognized
  deriving Repr, DecidableEq, Inhabited

/-- The shape of an expression. -/
def Expr.shape : Expr → Shape
  | .name .. => .name
  | .member .. => .qualifiedName
  | .dict .. => .literalMapping
  | .sequence .. => .literalSequence
  | .text .. => .stringLiteral
  | .lambda .. => .expressionFunction
  | .conditional .. => .conditional
  | _ => .unrecognized

/-- The shape of a statement. -/
def Stmt.shape : Stmt → Shape
  | .function f => if f.isAsync then .unrecognized else .blockFunction
  | .ret .. => .returning
  | .conditional .. => .conditional
  | .branch .. => .multiWayBranch
  | .loop .. | .within .. | .attempt .. => .statementBlock
  | _ => .unrecognized

/-- The shape of a node. -/
def Node.shape : Node → Shape
  | .expr e => e.shape
  | .stmt s => s.shape
  | .case _ => .branchCase
  | .handler _ => .statementBlock
  | _ => .unrecognized

end StateCoverage
