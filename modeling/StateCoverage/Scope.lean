import StateCoverage.Source.Node

/-!
# Scopes and name resolution

A scope lists the bindings that a parameter list and a body make.  A bare name
resolves to a `def` when the nearest scope that binds the name binds it exactly
once and by that `def`; in every other case it stays unresolved.

* `Node.bindings` — the binding occurrences at and below a node that belong to
  the scope around it.
* `Scope.function?` — the `def` that a scope alone binds to a name.
* `locate` — the function that a node stands for, with the scopes it is
  defined in.
-/

namespace StateCoverage

/-- One binding of a name; `function?` is the `def` that made it, if one did. -/
structure Binding where
  name : String
  function? : Option FunctionDef

/-- The bindings of one function's parameters and body, or of a class body. -/
structure Scope where
  isClass : Bool
  bindings : List Binding

/-! ## Binding occurrences -/

/-- The name that an import binds: the name given to it, or else the first
segment of the dotted name. -/
def Alias.boundName (a : Alias) : String :=
  a.asName?.getD (String.ofList (a.name.toList.takeWhile (· ≠ '.')))

/-- A binding by anything but a `def`. -/
def Binding.other (name : String) : Binding := ⟨name, none⟩

/-- The bindings that a node makes by itself.  A name declared to belong
elsewhere counts twice, so that it never resolves here. -/
def Node.ownBindings : Node → List Binding
  | .stmt (.function f) => [⟨f.name, if f.isAsync then none else some f⟩]
  | .stmt (.classDef c) => [.other c.name]
  | .stmt (.declaration _ _ names) => names.flatMap fun n => [.other n, .other n]
  | .expr (.name _ id .store) | .expr (.name _ id .delete) => [.other id]
  | .imported a => [.other a.boundName]
  | .handler h => h.name?.toList.map .other
  | .pattern (.capture _ _ name?) | .pattern (.star _ name?) => name?.toList.map .other
  | .pattern (.mapping _ _ _ rest?) => rest?.toList.map .other
  | _ => []

/-- The nodes below a node that belong to the same scope as the node.  Of a
definition these are the parts evaluated around it: decorators, and defaults or
bases and class keywords.  Lambdas and comprehensions have none. -/
def Node.sameScope : Node → List Node
  | .stmt (.function f) =>
      (f.decorators ++ f.params.defaults ++ f.params.kwDefaults).map .expr
  | .stmt (.classDef c) =>
      (c.decorators ++ c.bases ++ c.keywords.map Keyword.value).map .expr
  | .expr (.lambda _) | .expr (.comprehension ..) => []
  | n => n.children

theorem Params.sizeOf_lt_of_mem_defaults {ps : Params} {d : Expr}
    (h : d ∈ ps.defaults ∨ d ∈ ps.kwDefaults) : sizeOf d < sizeOf ps := by
  have mem : Node.expr d ∈ ps.children := by
    simp only [Params.children, List.mem_append, List.mem_map]
    rcases h with h | h
    · exact .inr ⟨d, h, rfl⟩
    · exact .inl (.inl (.inr ⟨d, h, rfl⟩))
  have := Params.sizeOf_lt_of_mem_children mem
  simp at this
  omega

theorem Keyword.sizeOf_value_lt (k : Keyword) : sizeOf k.value < sizeOf k := by
  cases k
  simp only [Keyword.mk.sizeOf_spec]
  omega

theorem Node.sizeOf_lt_of_mem_sameScope {n c : Node} (h : c ∈ n.sameScope) :
    sizeOf c < sizeOf n := by
  unfold Node.sameScope at h
  split at h
  · rename_i f
    simp only [List.mem_map, List.mem_append] at h
    obtain ⟨e, (he | he) | he, rfl⟩ := h
    · have := List.sizeOf_lt_of_mem he; cases f; simp at *; omega
    · have := Params.sizeOf_lt_of_mem_defaults (.inl he); cases f; simp at *; omega
    · have := Params.sizeOf_lt_of_mem_defaults (.inr he); cases f; simp at *; omega
  · rename_i k
    simp only [List.mem_map, List.mem_append] at h
    obtain ⟨e, (he | he) | ⟨w, hw, rfl⟩, rfl⟩ := h
    · have := List.sizeOf_lt_of_mem he; cases k; simp at *; omega
    · have := List.sizeOf_lt_of_mem he; cases k; simp at *; omega
    · have := List.sizeOf_lt_of_mem hw
      have := w.sizeOf_value_lt
      cases k; simp at *; omega
  · simp at h
  · simp at h
  · exact Node.sizeOf_lt_of_mem_children h

/-- The binding occurrences that a node contributes to the scope around it. -/
def Node.bindings (n : Node) : List Binding :=
  n.ownBindings ++ n.sameScope.attach.flatMap fun ⟨c, _⟩ => c.bindings
termination_by sizeOf n
decreasing_by exact Node.sizeOf_lt_of_mem_sameScope ‹_›

theorem Node.bindings_eq (n : Node) :
    n.bindings = n.ownBindings ++ n.sameScope.flatMap Node.bindings := by
  rw [Node.bindings, List.flatMap_subtype fun _ _ => rfl, List.unattach_attach]

/-- What holds of a node whenever it holds of all nodes below it in the same
scope holds of every node. -/
theorem Node.sameScope_induction {motive : Node → Prop}
    (step : ∀ n, (∀ c ∈ n.sameScope, motive c) → motive n) (n : Node) : motive n :=
  step n fun c _ => Node.sameScope_induction step c
termination_by sizeOf n
decreasing_by exact Node.sizeOf_lt_of_mem_sameScope ‹_›

/-! ## Scopes -/

namespace Scope

/-- The scope of a parameter list and a body. -/
def ofBody (isClass : Bool) (params : Params) (body : List Stmt) : Scope where
  isClass := isClass
  bindings := params.names.map .other ++ body.flatMap fun s => (Node.stmt s).bindings

/-- The bindings of a name. -/
def occurrences (s : Scope) (name : String) : List Binding :=
  s.bindings.filter fun b => b.name = name

/-- Whether the scope binds a name at all. -/
def binds (s : Scope) (name : String) : Bool :=
  s.bindings.any fun b => b.name = name

/-- The `def` bound to a name, if that is the only binding of the name. -/
def function? (s : Scope) (name : String) : Option FunctionDef :=
  match s.occurrences name with
  | [b] => b.function?
  | _ => none

/-- The `def` that a name means in a chain of scopes, innermost first, together
with the scope that binds it and those outside it. -/
def lookup (name : String) : List Scope → Option (FunctionDef × List Scope)
  | [] => none
  | s :: outer =>
      if s.binds name then (s.function? name).map (·, s :: outer) else lookup name outer

/-- The scopes of a chain that code inside a new function can see. -/
def visibleInside (scopes : List Scope) : List Scope :=
  scopes.filter fun s => !s.isClass

end Scope

/-- The scope that a node opens for the nodes below it. -/
def Node.opens? : Node → Option Scope
  | .module m => some (.ofBody false .empty m.body)
  | .stmt (.function f) => some (.ofBody false f.params f.body)
  | .stmt (.classDef c) => some (.ofBody true .empty c.body)
  | .expr (.lambda f) => some (.ofBody false f.params [])
  | _ => none

/-! ## Functions -/

/-- A function whose code is in the file: a lambda or a plain `def`. -/
inductive Callable where
  | lambda (f : Lambda)
  | block (f : FunctionDef)

namespace Callable

/-- The node of the function. -/
def node : Callable → Node
  | .lambda f => .expr (.lambda f)
  | .block f => .stmt (.function f)

/-- The function that a node is; an `async def` is none. -/
def ofNode? : Node → Option Callable
  | .expr (.lambda f) => some (.lambda f)
  | .stmt (.function f) => if f.isAsync then none else some (.block f)
  | _ => none

/-- The span of the function. -/
def span : Callable → Span
  | .lambda f => f.span
  | .block f => f.span

/-- The function's own scope: its parameters, and the body of a `def`. -/
def scope : Callable → Scope
  | .lambda f => .ofBody false f.params []
  | .block f => .ofBody false f.params f.body

/-- The scopes visible from inside the function's body, innermost first. -/
def innerScopes (f : Callable) (definedIn : List Scope) : List Scope :=
  f.scope :: Scope.visibleInside definedIn

end Callable

/-- The function that a node stands for and the scopes it is defined in.  A
lambda or `def` is defined right there, a name where `Scope.lookup` finds it. -/
def locate (n : Node) (scopes : List Scope) : Option (Callable × List Scope) :=
  match Callable.ofNode? n, n with
  | some f, _ => some (f, scopes)
  | none, .expr (.name _ id _) => (Scope.lookup id scopes).map fun r => (.block r.1, r.2)
  | none, _ => none

end StateCoverage
