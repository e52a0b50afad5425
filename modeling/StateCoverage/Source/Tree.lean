import StateCoverage.Source.Span

/-!
# The syntax tree of a Python module

One type for each syntactic class: expressions, patterns and statements, with
the small records that stand between them.  The tree keeps what an analysis of
names, displays and control flow can see.  Expressions that only join other
expressions (operators, subscripts, f-strings and the like) share the
constructor `Expr.compound`, which lists their parts in field order, and plain
statements that only hold expressions share `Stmt.simple`.
-/

namespace StateCoverage

/-- What an occurrence of a name does with it. -/
inductive NameUse where
  | load
  | store
  | delete
  deriving Repr, DecidableEq, Inhabited

/-- The two sequence displays. -/
inductive SequenceForm where
  | list
  | tuple
  deriving Repr, DecidableEq, Inhabited

/-- The four comprehensions. -/
inductive ComprehensionForm where
  | list
  | set
  | dict
  | generator
  deriving Repr, DecidableEq, Inhabited

/-- Expressions that do no more than join their parts. -/
inductive CompoundForm where
  | boolean
  | named
  | binary
  | unary
  | set
  | awaited
  | yielded
  | yieldedFrom
  | comparison
  | formatted
  | joinedText
  | subscript
  | starred
  | slice
  deriving Repr, DecidableEq, Inhabited

mutual

/-- Expressions. -/
inductive Expr where
  /-- A bare name. -/
  | name (span : Span) (id : String) (use : NameUse)
  /-- `value.attr`. -/
  | member (span : Span) (value : Expr) (attr : String)
  /-- A dict display. -/
  | dict (span : Span) (entries : List Entry)
  /-- A list or tuple display. -/
  | sequence (span : Span) (form : SequenceForm) (elements : List Expr)
  /-- A string literal. -/
  | text (span : Span) (value : String)
  /-- A literal that is not a string. -/
  | constant (span : Span)
  /-- A lambda. -/
  | lambda (fn : Lambda)
  /-- `body if test else orelse`. -/
  | conditional (span : Span) (test body orelse : Expr)
  /-- A call. -/
  | call (call : Call)
  /-- A comprehension: its one or two elements, then its `for` clauses. -/
  | comprehension (span : Span) (form : ComprehensionForm) (elements : List Expr)
      (clauses : List Clause)
  /-- Any other expression, as the list of its parts. -/
  | compound (span : Span) (form : CompoundForm) (parts : List Expr)

/-- One entry of a dict display. -/
inductive Entry where
  /-- `key: value`. -/
  | pair (key value : Expr)
  /-- `**value`. -/
  | spread (value : Expr)

/-- A keyword argument; `**value` has no name. -/
structure Keyword where
  span : Span
  name? : Option String
  value : Expr

/-- A call with its positional and keyword arguments. -/
structure Call where
  span : Span
  callee : Expr
  args : List Expr
  keywords : List Keyword

/-- One `for target in iterable if … if …` clause of a comprehension. -/
structure Clause where
  target : Expr
  iterable : Expr
  conditions : List Expr

/-- A parameter with its optional type and default. -/
structure Param where
  span : Span
  name : String
  declaredType? : Option Expr
  default? : Option Expr

/-- A parameter list. -/
structure Params where
  posOnly : List Param
  plain : List Param
  vararg? : Option Param
  kwOnly : List Param
  kwarg? : Option Param

/-- A function that is one expression. -/
structure Lambda where
  span : Span
  params : Params
  body : Expr

end

/-- Patterns of a `case`. -/
inductive Pattern where
  | value (span : Span) (value : Expr)
  | singleton (span : Span)
  | sequence (span : Span) (patterns : List Pattern)
  | mapping (span : Span) (keys : List Expr) (patterns : List Pattern) (rest? : Option String)
  | classOf (span : Span) (cls : Expr) (patterns keywordPatterns : List Pattern)
  | star (span : Span) (name? : Option String)
  | capture (span : Span) (pattern? : Option Pattern) (name? : Option String)
  | alternatives (span : Span) (patterns : List Pattern)

/-- An imported name and the name it is bound to, if another one. -/
structure Alias where
  span : Span
  name : String
  asName? : Option String
  deriving Repr, DecidableEq, Inhabited

/-- One `context as target` of a `with` statement. -/
structure WithItem where
  context : Expr
  target? : Option Expr

/-- Statements that only hold expressions. -/
inductive SimpleForm where
  | delete
  | assign
  | augmentedAssign
  | typedAssign
  | raising
  | assertion
  | expression
  | passing
  | breaking
  | continuing
  deriving Repr, DecidableEq, Inhabited

/-- The three loops. -/
inductive LoopForm where
  | forLoop
  | asyncForLoop
  | whileLoop
  deriving Repr, DecidableEq, Inhabited

/-- Declarations that a name belongs to another scope. -/
inductive DeclarationForm where
  | global
  | nonlocal
  deriving Repr, DecidableEq, Inhabited

mutual

/-- Statements. -/
inductive Stmt where
  /-- A `def` or `async def`. -/
  | function (fn : FunctionDef)
  /-- A `class`. -/
  | classDef (cls : ClassDef)
  /-- `return value`. -/
  | ret (span : Span) (value? : Option Expr)
  /-- `if`; an `elif` is an `if` alone in `orelse`. -/
  | conditional (span : Span) (test : Expr) (body orelse : List Stmt)
  /-- `match`. -/
  | branch (span : Span) (subject : Expr) (cases : List MatchCase)
  /-- A loop: target and iterable, or the test, then the blocks. -/
  | loop (span : Span) (form : LoopForm) (heads : List Expr) (body orelse : List Stmt)
  /-- `with` or `async with`. -/
  | within (span : Span) (isAsync : Bool) (items : List WithItem) (body : List Stmt)
  /-- `try`, with `except` or `except*` handlers. -/
  | attempt (span : Span) (isStar : Bool) (body : List Stmt) (handlers : List Handler)
      (orelse finalbody : List Stmt)
  /-- `import` or `from … import`. -/
  | importing (span : Span) (isFrom : Bool) (aliases : List Alias)
  /-- `global` or `nonlocal`. -/
  | declaration (span : Span) (form : DeclarationForm) (names : List String)
  /-- Any other statement, as the list of its expressions. -/
  | simple (span : Span) (form : SimpleForm) (parts : List Expr)

/-- A statement-bodied function. -/
structure FunctionDef where
  span : Span
  isAsync : Bool
  name : String
  params : Params
  body : List Stmt
  decorators : List Expr
  returns? : Option Expr

/-- A class. -/
structure ClassDef where
  span : Span
  name : String
  bases : List Expr
  keywords : List Keyword
  body : List Stmt
  decorators : List Expr

/-- An `except` clause. -/
structure Handler where
  span : Span
  type? : Option Expr
  name? : Option String
  body : List Stmt

/-- A `case` of a `match`. -/
structure MatchCase where
  pattern : Pattern
  guard? : Option Expr
  body : List Stmt

end

/-- A module: a list of statements. -/
structure Module where
  body : List Stmt
  deriving Inhabited

/-- A program that is one expression. -/
structure LoneExpr where
  body : Expr

instance : Inhabited Expr := ⟨.constant default⟩

instance : Inhabited Stmt := ⟨.simple default .passing []⟩

/-- The span of an expression. -/
def Expr.span : Expr → Span
  | .name s _ _ | .member s _ _ | .dict s _ | .sequence s _ _ | .text s _ | .constant s
  | .conditional s _ _ _ | .comprehension s _ _ _ | .compound s _ _ => s
  | .lambda f => f.span
  | .call c => c.span

/-- The span of a pattern. -/
def Pattern.span : Pattern → Span
  | .value s _ | .singleton s | .sequence s _ | .mapping s _ _ _ | .classOf s _ _ _
  | .star s _ | .capture s _ _ | .alternatives s _ => s

/-- The span of a statement; a decorated definition starts at its `def` or
`class`. -/
def Stmt.span : Stmt → Span
  | .function f => f.span
  | .classDef c => c.span
  | .ret s _ | .conditional s _ _ _ | .branch s _ _ | .loop s _ _ _ _ | .within s _ _ _
  | .attempt s _ _ _ _ _ | .importing s _ _ | .declaration s _ _ | .simple s _ _ => s

namespace Entry

/-- The key of an entry, which a spread does not have. -/
def key? : Entry → Option Expr
  | .pair k _ => some k
  | .spread _ => none

/-- The value of an entry. -/
def value : Entry → Expr
  | .pair _ v | .spread v => v

end Entry

namespace Params

/-- The list without parameters. -/
def empty : Params := ⟨[], [], none, [], none⟩

/-- Every parameter: positional, then keyword-only, then the two collectors. -/
def all (ps : Params) : List Param :=
  ps.posOnly ++ ps.plain ++ ps.kwOnly ++ ps.vararg?.toList ++ ps.kwarg?.toList

/-- Every name that the list binds. -/
def names (ps : Params) : List String :=
  ps.all.map Param.name

/-- Defaults of the positional parameters. -/
def defaults (ps : Params) : List Expr :=
  (ps.posOnly ++ ps.plain).filterMap Param.default?

/-- Defaults of the keyword-only parameters. -/
def kwDefaults (ps : Params) : List Expr :=
  ps.kwOnly.filterMap Param.default?

end Params

end StateCoverage
