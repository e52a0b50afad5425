import StateCoverage.Source.Tree

/-!
# Nodes of a syntax tree

A `Node` is any element of a tree, whatever its syntactic class.  Its children
are listed in field order, which is not always source order: a dict display
gives its keys before its values, a definition its body before its decorators
and a conditional expression its test first.

* `Node.children` — the nodes directly below a node.
* `Node.sizeOf_lt_of_mem_children` — a child is smaller than its parent, so
  every walk along children ends.
* `Node.preorder` — all nodes of a tree, parents before children.
-/

namespace StateCoverage

/-- Any element of a syntax tree. -/
inductive Node where
  | module (m : Module)
  | expression (e : LoneExpr)
  | stmt (s : Stmt)
  | expr (e : Expr)
  | params (ps : Params)
  | param (p : Param)
  | keyword (k : Keyword)
  | clause (c : Clause)
  | withItem (i : WithItem)
  | handler (h : Handler)
  | case (c : MatchCase)
  | pattern (p : Pattern)
  | imported (a : Alias)

instance : Inhabited Node := ⟨.module ⟨[]⟩⟩

/-! ## Children -/

/-- Children of an expression. -/
def Expr.children : Expr → List Node
  | .name .. | .text .. | .constant .. => []
  | .member _ v _ => [.expr v]
  | .dict _ es => (es.filterMap Entry.key?).map .expr ++ es.map fun e => .expr e.value
  | .sequence _ _ es => es.map .expr
  | .lambda f => [.params f.params, .expr f.body]
  | .conditional _ t b o => [.expr t, .expr b, .expr o]
  | .call c => .expr c.callee :: c.args.map .expr ++ c.keywords.map .keyword
  | .comprehension _ _ es cs => es.map .expr ++ cs.map .clause
  | .compound _ _ ps => ps.map .expr

/-- Children of a pattern. -/
def Pattern.children : Pattern → List Node
  | .value _ v => [.expr v]
  | .singleton _ | .star .. => []
  | .sequence _ ps | .alternatives _ ps => ps.map .pattern
  | .mapping _ ks ps _ => ks.map .expr ++ ps.map .pattern
  | .classOf _ c ps ks => .expr c :: ps.map .pattern ++ ks.map .pattern
  | .capture _ p _ => p.toList.map .pattern

/-- Children of a statement. -/
def Stmt.children : Stmt → List Node
  | .function f => .params f.params :: f.body.map .stmt ++ f.decorators.map .expr
      ++ f.returns?.toList.map .expr
  | .classDef c => c.bases.map .expr ++ c.keywords.map .keyword ++ c.body.map .stmt
      ++ c.decorators.map .expr
  | .ret _ v => v.toList.map .expr
  | .conditional _ t b o => .expr t :: b.map .stmt ++ o.map .stmt
  | .branch _ s cs => .expr s :: cs.map .case
  | .loop _ _ hs b o => hs.map .expr ++ b.map .stmt ++ o.map .stmt
  | .within _ _ is b => is.map .withItem ++ b.map .stmt
  | .attempt _ _ b hs o f => b.map .stmt ++ hs.map .handler ++ o.map .stmt ++ f.map .stmt
  | .importing _ _ as => as.map .imported
  | .declaration .. => []
  | .simple _ _ ps => ps.map .expr

/-- Children of a parameter list. -/
def Params.children (ps : Params) : List Node :=
  ps.posOnly.map .param ++ ps.plain.map .param ++ ps.vararg?.toList.map .param
    ++ ps.kwOnly.map .param ++ ps.kwDefaults.map .expr ++ ps.kwarg?.toList.map .param
    ++ ps.defaults.map .expr

/-- The nodes directly below a node, in field order. -/
def Node.children : Node → List Node
  | .module m => m.body.map .stmt
  | .expression e => [.expr e.body]
  | .stmt s => s.children
  | .expr e => e.children
  | .params ps => ps.children
  | .param p => p.declaredType?.toList.map .expr
  | .keyword k => [.expr k.value]
  | .clause c => .expr c.target :: .expr c.iterable :: c.conditions.map .expr
  | .withItem i => .expr i.context :: i.target?.toList.map .expr
  | .handler h => h.type?.toList.map .expr ++ h.body.map .stmt
  | .case c => .pattern c.pattern :: c.guard?.toList.map .expr ++ c.body.map .stmt
  | .pattern p => p.children
  | .imported _ => []

/-! ## Children are smaller -/

/-- The value of an option is smaller than the option. -/
theorem sizeOf_lt_of_mem_toList {α : Type _} [SizeOf α] {a : α} {o : Option α}
    (h : a ∈ o.toList) : sizeOf a < sizeOf o := by
  cases o with
  | none => simp at h
  | some b => simp at h; subst h; simp

theorem Entry.sizeOf_value_lt (e : Entry) : sizeOf e.value < sizeOf e := by
  cases e with
  | pair k v => simp only [Entry.value, Entry.pair.sizeOf_spec]; omega
  | spread v => simp only [Entry.value, Entry.spread.sizeOf_spec]; omega

theorem Entry.sizeOf_key_lt {e : Entry} {k : Expr} (h : e.key? = some k) :
    sizeOf k < sizeOf e := by
  cases e <;> simp [Entry.key?] at h
  subst h; simp; omega

theorem Param.sizeOf_default_lt {p : Param} {d : Expr} (h : p.default? = some d) :
    sizeOf d < sizeOf p := by
  cases p; simp at h; subst h; simp; omega

theorem Expr.sizeOf_lt_of_mem_children {e : Expr} {c : Node} (h : c ∈ e.children) :
    sizeOf c < 1 + sizeOf e := by
  cases e with
  | dict _ es =>
    simp only [Expr.children, List.mem_append, List.mem_map, List.mem_filterMap] at h
    rcases h with ⟨k, ⟨e, he, hk⟩, rfl⟩ | ⟨e, he, rfl⟩
    · have := List.sizeOf_lt_of_mem he; have := Entry.sizeOf_key_lt hk; simp; omega
    · have := List.sizeOf_lt_of_mem he; have := e.sizeOf_value_lt; simp; omega
  | lambda f => cases f; simp [Expr.children] at h; rcases h with rfl | rfl <;> simp <;> omega
  | call k =>
    cases k
    simp only [Expr.children, List.mem_append, List.mem_cons, List.mem_map] at h
    rcases h with (rfl | ⟨a, ha, rfl⟩) | ⟨a, ha, rfl⟩
    · simp; omega
    · have := List.sizeOf_lt_of_mem ha; simp; omega
    · have := List.sizeOf_lt_of_mem ha; simp; omega
  | comprehension _ _ es cs =>
    simp only [Expr.children, List.mem_append, List.mem_map] at h
    rcases h with ⟨a, ha, rfl⟩ | ⟨a, ha, rfl⟩ <;>
      (have small := List.sizeOf_lt_of_mem ha; simp; omega)
  | sequence _ _ es | compound _ _ es =>
    simp only [Expr.children, List.mem_map] at h
    obtain ⟨a, ha, rfl⟩ := h
    have := List.sizeOf_lt_of_mem ha; simp; omega
  | member _ v _ => simp [Expr.children] at h; subst h; simp; omega
  | conditional _ t b o =>
    simp [Expr.children] at h
    rcases h with rfl | rfl | rfl <;> simp <;> omega
  | name _ _ _ | text _ _ | constant _ => simp [Expr.children] at h

theorem Pattern.sizeOf_lt_of_mem_children {p : Pattern} {c : Node} (h : c ∈ p.children) :
    sizeOf c < 1 + sizeOf p := by
  cases p with
  | value _ v =>
    simp only [Pattern.children, List.mem_singleton] at h
    subst h
    simp only [Node.expr.sizeOf_spec, Pattern.value.sizeOf_spec]
    omega
  | singleton _ | star _ _ => simp [Pattern.children] at h
  | sequence _ ps | alternatives _ ps =>
    simp only [Pattern.children, List.mem_map] at h
    obtain ⟨a, ha, rfl⟩ := h
    have := List.sizeOf_lt_of_mem ha; simp; omega
  | mapping _ ks ps _ =>
    simp only [Pattern.children, List.mem_append, List.mem_map] at h
    rcases h with ⟨a, ha, rfl⟩ | ⟨a, ha, rfl⟩ <;>
      (have small := List.sizeOf_lt_of_mem ha; simp; omega)
  | classOf _ k ps ks =>
    simp only [Pattern.children, List.mem_append, List.mem_cons, List.mem_map] at h
    rcases h with (rfl | ⟨a, ha, rfl⟩) | ⟨a, ha, rfl⟩
    · simp; omega
    · have := List.sizeOf_lt_of_mem ha; simp; omega
    · have := List.sizeOf_lt_of_mem ha; simp; omega
  | capture _ q _ =>
    simp only [Pattern.children, List.mem_map] at h
    obtain ⟨a, ha, rfl⟩ := h
    have := sizeOf_lt_of_mem_toList ha; simp; omega

theorem Params.sizeOf_lt_of_mem_children {ps : Params} {c : Node} (h : c ∈ ps.children) :
    sizeOf c < 1 + sizeOf ps := by
  cases ps with
  | mk po pl va kw ka =>
    simp only [Params.children, Params.kwDefaults, Params.defaults, List.mem_append,
      List.mem_map, List.mem_filterMap] at h
    rcases h with (((((⟨a, ha, rfl⟩ | ⟨a, ha, rfl⟩) | ⟨a, ha, rfl⟩) | ⟨a, ha, rfl⟩)
      | ⟨d, ⟨a, ha, hd⟩, rfl⟩) | ⟨a, ha, rfl⟩) | ⟨d, ⟨a, ha | ha, hd⟩, rfl⟩
    · have := List.sizeOf_lt_of_mem ha; simp; omega
    · have := List.sizeOf_lt_of_mem ha; simp; omega
    · have := sizeOf_lt_of_mem_toList ha; simp; omega
    · have := List.sizeOf_lt_of_mem ha; simp; omega
    · have := List.sizeOf_lt_of_mem ha; have := Param.sizeOf_default_lt hd; simp; omega
    · have := sizeOf_lt_of_mem_toList ha; simp; omega
    · have := List.sizeOf_lt_of_mem ha; have := Param.sizeOf_default_lt hd; simp; omega
    · have := List.sizeOf_lt_of_mem ha; have := Param.sizeOf_default_lt hd; simp; omega

theorem Stmt.sizeOf_lt_of_mem_children {s : Stmt} {c : Node} (h : c ∈ s.children) :
    sizeOf c < 1 + sizeOf s := by
  cases s with
  | function f =>
    cases f
    simp only [Stmt.children, List.mem_append, List.mem_cons, List.mem_map] at h
    rcases h with ((rfl | ⟨a, ha, rfl⟩) | ⟨a, ha, rfl⟩) | ⟨a, ha, rfl⟩
    · simp; omega
    · have := List.sizeOf_lt_of_mem ha; simp; omega
    · have := List.sizeOf_lt_of_mem ha; simp; omega
    · have := sizeOf_lt_of_mem_toList ha; simp; omega
  | classDef k =>
    cases k
    simp only [Stmt.children, List.mem_append, List.mem_map] at h
    rcases h with ((⟨a, ha, rfl⟩ | ⟨a, ha, rfl⟩) | ⟨a, ha, rfl⟩) | ⟨a, ha, rfl⟩ <;>
      (have small := List.sizeOf_lt_of_mem ha; simp; omega)
  | ret _ v =>
    simp only [Stmt.children, List.mem_map] at h
    obtain ⟨a, ha, rfl⟩ := h
    have := sizeOf_lt_of_mem_toList ha; simp; omega
  | conditional _ t b o =>
    simp only [Stmt.children, List.mem_append, List.mem_cons, List.mem_map] at h
    rcases h with (rfl | ⟨a, ha, rfl⟩) | ⟨a, ha, rfl⟩
    · simp; omega
    · have := List.sizeOf_lt_of_mem ha; simp; omega
    · have := List.sizeOf_lt_of_mem ha; simp; omega
  | branch _ s cs =>
    simp only [Stmt.children, List.mem_cons, List.mem_map] at h
    rcases h with rfl | ⟨a, ha, rfl⟩
    · simp; omega
    · have := List.sizeOf_lt_of_mem ha; simp; omega
  | loop _ _ hs b o =>
    simp only [Stmt.children, List.mem_append, List.mem_map] at h
    rcases h with (⟨a, ha, rfl⟩ | ⟨a, ha, rfl⟩) | ⟨a, ha, rfl⟩ <;>
      (have small := List.sizeOf_lt_of_mem ha; simp; omega)
  | within _ _ is b =>
    simp only [Stmt.children, List.mem_append, List.mem_map] at h
    rcases h with ⟨a, ha, rfl⟩ | ⟨a, ha, rfl⟩ <;>
      (have small := List.sizeOf_lt_of_mem ha; simp; omega)
  | attempt _ _ b hs o f =>
    simp only [Stmt.children, List.mem_append, List.mem_map] at h
    rcases h with ((⟨a, ha, rfl⟩ | ⟨a, ha, rfl⟩) | ⟨a, ha, rfl⟩) | ⟨a, ha, rfl⟩ <;>
      (have small := List.sizeOf_lt_of_mem ha; simp; omega)
  | importing _ _ as | simple _ _ ps =>
    simp only [Stmt.children, List.mem_map] at h
    obtain ⟨a, ha, rfl⟩ := h
    have := List.sizeOf_lt_of_mem ha; simp; omega
  | declaration _ _ _ => simp [Stmt.children] at h

/-- A child is smaller than its parent. -/
theorem Node.sizeOf_lt_of_mem_children {n c : Node} (h : c ∈ n.children) :
    sizeOf c < sizeOf n := by
  cases n with
  | module m =>
    cases m
    simp only [Node.children, List.mem_map] at h
    obtain ⟨a, ha, rfl⟩ := h
    have := List.sizeOf_lt_of_mem ha; simp; omega
  | expression e => cases e; simp [Node.children] at h; subst h; simp
  | stmt s => simpa using Stmt.sizeOf_lt_of_mem_children h
  | expr e => simpa using Expr.sizeOf_lt_of_mem_children h
  | params ps => simpa using Params.sizeOf_lt_of_mem_children h
  | param p =>
    cases p
    simp only [Node.children, List.mem_map] at h
    obtain ⟨a, ha, rfl⟩ := h
    have := sizeOf_lt_of_mem_toList ha; simp; omega
  | keyword k =>
    cases k
    simp only [Node.children, List.mem_singleton] at h
    subst h
    simp only [Node.expr.sizeOf_spec, Node.keyword.sizeOf_spec, Keyword.mk.sizeOf_spec]
    omega
  | clause k =>
    cases k
    simp only [Node.children, List.mem_cons, List.mem_map] at h
    rcases h with rfl | rfl | ⟨a, ha, rfl⟩
    · simp; omega
    · simp; omega
    · have := List.sizeOf_lt_of_mem ha; simp; omega
  | withItem i =>
    cases i
    simp only [Node.children, List.mem_cons, List.mem_map] at h
    rcases h with rfl | ⟨a, ha, rfl⟩
    · simp; omega
    · have := sizeOf_lt_of_mem_toList ha; simp; omega
  | handler k =>
    cases k
    simp only [Node.children, List.mem_append, List.mem_map] at h
    rcases h with ⟨a, ha, rfl⟩ | ⟨a, ha, rfl⟩
    · have := sizeOf_lt_of_mem_toList ha; simp; omega
    · have := List.sizeOf_lt_of_mem ha; simp; omega
  | case k =>
    cases k
    simp only [Node.children, List.mem_append, List.mem_cons, List.mem_map] at h
    rcases h with (rfl | ⟨a, ha, rfl⟩) | ⟨a, ha, rfl⟩
    · simp; omega
    · have := sizeOf_lt_of_mem_toList ha; simp; omega
    · have := List.sizeOf_lt_of_mem ha; simp; omega
  | pattern p => simpa using Pattern.sizeOf_lt_of_mem_children h
  | imported a => simp [Node.children] at h

/-- A module stands at the root of its tree only. -/
theorem Node.ne_module_of_mem_children {n c : Node} (h : c ∈ n.children) (m : Module) :
    c ≠ .module m := by
  rintro rfl
  cases n with
  | stmt s => cases s <;> simp [Node.children, Stmt.children] at h
  | expr e => cases e <;> simp [Node.children, Expr.children] at h
  | pattern p => cases p <;> simp [Node.children, Pattern.children] at h
  | params ps => simp [Node.children, Params.children] at h
  | _ => simp [Node.children] at h

/-! ## Walking a tree -/

namespace Node

/-- All nodes of a tree, a node before its children and these from left to
right. -/
def preorder (n : Node) : List Node :=
  n :: n.children.attach.flatMap fun ⟨c, _⟩ => c.preorder
termination_by sizeOf n
decreasing_by exact sizeOf_lt_of_mem_children ‹_›

theorem preorder_eq (n : Node) : n.preorder = n :: n.children.flatMap preorder := by
  rw [preorder, List.flatMap_subtype fun _ _ => rfl, List.unattach_attach]

/-- What holds of a node whenever it holds of all its children holds of every
node. -/
theorem induction {motive : Node → Prop}
    (step : ∀ n, (∀ c ∈ n.children, motive c) → motive n) (n : Node) : motive n :=
  step n fun c _ => induction step c
termination_by sizeOf n
decreasing_by exact sizeOf_lt_of_mem_children ‹_›

end Node

/-! ## Kinds and places -/

/-- The name of a compound expression in the language's grammar. -/
def CompoundForm.kind : CompoundForm → String
  | .boolean => "BoolOp"
  | .named => "NamedExpr"
  | .binary => "BinOp"
  | .unary => "UnaryOp"
  | .set => "Set"
  | .awaited => "Await"
  | .yielded => "Yield"
  | .yieldedFrom => "YieldFrom"
  | .comparison => "Compare"
  | .formatted => "FormattedValue"
  | .joinedText => "JoinedStr"
  | .subscript => "Subscript"
  | .starred => "Starred"
  | .slice => "Slice"

/-- The name of a comprehension in the language's grammar. -/
def ComprehensionForm.kind : ComprehensionForm → String
  | .list => "ListComp"
  | .set => "SetComp"
  | .dict => "DictComp"
  | .generator => "GeneratorExp"

/-- The name of an expression in the language's grammar. -/
def Expr.kind : Expr → String
  | .name .. => "Name"
  | .member .. => "Attribute"
  | .dict .. => "Dict"
  | .sequence _ .list _ => "List"
  | .sequence _ .tuple _ => "Tuple"
  | .text .. | .constant .. => "Constant"
  | .lambda .. => "Lambda"
  | .conditional .. => "IfExp"
  | .call .. => "Call"
  | .comprehension _ f .. => f.kind
  | .compound _ f .. => f.kind

/-- The name of a pattern in the language's grammar. -/
def Pattern.kind : Pattern → String
  | .value .. => "MatchValue"
  | .singleton .. => "MatchSingleton"
  | .sequence .. => "MatchSequence"
  | .mapping .. => "MatchMapping"
  | .classOf .. => "MatchClass"
  | .star .. => "MatchStar"
  | .capture .. => "MatchAs"
  | .alternatives .. => "MatchOr"

/-- The name of a plain statement in the language's grammar. -/
def SimpleForm.kind : SimpleForm → String
  | .delete => "Delete"
  | .assign => "Assign"
  | .augmentedAssign => "AugAssign"
  | .typedAssign => "AnnAssign"
  | .raising => "Raise"
  | .assertion => "Assert"
  | .expression => "Expr"
  | .passing => "Pass"
  | .breaking => "Break"
  | .continuing => "Continue"

/-- The name of a loop in the language's grammar. -/
def LoopForm.kind : LoopForm → String
  | .forLoop => "For"
  | .asyncForLoop => "AsyncFor"
  | .whileLoop => "While"

/-- The name of a scope declaration in the language's grammar. -/
def DeclarationForm.kind : DeclarationForm → String
  | .global => "Global"
  | .nonlocal => "Nonlocal"

/-- The name of a statement in the language's grammar. -/
def Stmt.kind : Stmt → String
  | .function f => if f.isAsync then "AsyncFunctionDef" else "FunctionDef"
  | .classDef _ => "ClassDef"
  | .ret .. => "Return"
  | .conditional .. => "If"
  | .branch .. => "Match"
  | .loop _ f .. => f.kind
  | .within _ isAsync .. => if isAsync then "AsyncWith" else "With"
  | .attempt _ isStar .. => if isStar then "TryStar" else "Try"
  | .importing _ isFrom .. => if isFrom then "ImportFrom" else "Import"
  | .declaration _ f .. => f.kind
  | .simple _ f .. => f.kind

namespace Node

/-- The name of a node in the language's grammar. -/
def kind : Node → String
  | .module _ => "Module"
  | .expression _ => "Expression"
  | .stmt s => s.kind
  | .expr e => e.kind
  | .params _ => "arguments"
  | .param _ => "arg"
  | .keyword _ => "keyword"
  | .clause _ => "comprehension"
  | .withItem _ => "withitem"
  | .handler _ => "ExceptHandler"
  | .case _ => "match_case"
  | .pattern p => p.kind
  | .imported _ => "alias"

/-- The span of a node, for those that have a place of their own. -/
def span? : Node → Option Span
  | .stmt s => some s.span
  | .expr e => some e.span
  | .param p => some p.span
  | .keyword k => some k.span
  | .handler h => some h.span
  | .pattern p => some p.span
  | .imported a => some a.span
  | .module _ | .expression _ | .params _ | .clause _ | .withItem _ | .case _ => none

end Node

end StateCoverage
