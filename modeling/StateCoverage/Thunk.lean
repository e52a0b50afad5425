import StateCoverage.Scope
import StateCoverage.Source.Display

/-!
# Command factories and the states they can return

A command factory is a function that returns a dict display with an `execute`
entry.  The function bound to `execute` is the thunk; the states it can return
are the string literals under `id` in the dict displays it visibly returns.

* `executeThunk?` — the thunk of a factory.
* `returnedStates` — the states that a thunk can return, each once, in the
  order in which a depth-first walk meets them.
-/

namespace StateCoverage

/-! ## The thunk of a factory -/

/-- The dict display that a statement returns. -/
def Stmt.returnedDisplay? : Stmt → Option (List Entry)
  | .ret _ (some v) => v.dict?
  | _ => none

/-- The dict display that a factory returns: the body of a lambda, or the first
dict display returned at the top level of a `def`. -/
def Callable.product? : Callable → Option (List Entry)
  | .lambda f => f.body.dict?
  | .block f => f.body.findSome? Stmt.returnedDisplay?

/-- The function bound to `execute` in what a factory returns.  Names in the
factory are resolved where the factory is defined, not where it is used. -/
def executeThunk? (factory : Node) (scopes : List Scope) : Option Callable := do
  let (f, definedIn) ← locate factory scopes
  let product ← f.product?
  let execute ← (textEntries product).find? "execute"
  let (thunk, _) ← locate (.expr execute) (f.innerScopes definedIn)
  return thunk

/-! ## The states that a thunk returns -/

/-- The literal states of a returned value: the `id` of a dict display, and of
both branches of a conditional expression. -/
def Expr.stateIds : Expr → List String
  | .conditional _ _ b o => b.stateIds ++ o.stateIds
  | .dict _ es => (((textEntries es).find? "id").bind Expr.text?).toList
  | _ => []

/-- The states that a node returns by itself. -/
def Node.stateIds : Node → List String
  | .expr (.lambda f) => f.body.stateIds
  | .stmt (.ret _ (some v)) => v.stateIds
  | _ => []

/-- The nodes below a node that can hold further returns of the same call.
Nested definitions have none: they run elsewhere. -/
def Node.continuations : Node → List Node
  | .expr (.lambda f) => [.expr f.body]
  | .expr (.conditional _ _ b o) => [.expr b, .expr o]
  | .stmt (.ret _ v) => v.toList.map .expr
  | .stmt (.conditional _ _ b o) => b.map .stmt ++ o.map .stmt
  | .stmt (.branch _ _ cs) => cs.map .case
  | .stmt (.loop _ _ _ b o) => b.map .stmt ++ o.map .stmt
  | .stmt (.within _ _ _ b) => b.map .stmt
  | .stmt (.attempt _ _ b hs o f) =>
      b.map .stmt ++ hs.map .handler ++ o.map .stmt ++ f.map .stmt
  | .case c => c.body.map .stmt
  | .handler h => h.body.map .stmt
  | _ => []

/-- A function is a node of one of two shapes.  A node without a recognized shape
stands for none, returns no state and leads nowhere. -/
theorem Node.followed_iff_shape (n : Node) (scopes : List Scope) :
    ((Callable.ofNode? n).isSome ↔
      n.shape = .expressionFunction ∨ n.shape = .blockFunction) ∧
    (n.shape = .unrecognized →
      locate n scopes = none ∧ n.stateIds = [] ∧ n.continuations = []) := by
  cases n with
  | expr e =>
    cases e <;>
      simp [Callable.ofNode?, Node.shape, Expr.shape, locate, Node.stateIds, Node.continuations]
  | stmt s =>
    cases s with
    | function f =>
      cases h : f.isAsync <;>
        simp [Callable.ofNode?, Node.shape, Stmt.shape, locate, Node.stateIds,
          Node.continuations, h]
    | _ =>
      simp [Callable.ofNode?, Node.shape, Stmt.shape, locate, Node.stateIds, Node.continuations]
  | _ => simp [Callable.ofNode?, Node.shape, locate, Node.stateIds, Node.continuations]

/-- The total size of a list of nodes. -/
noncomputable def totalSize : List Node → Nat
  | [] => 0
  | n :: ns => sizeOf n + totalSize ns

@[simp] theorem totalSize_nil : totalSize [] = 0 := rfl

@[simp] theorem totalSize_cons (n : Node) (ns : List Node) :
    totalSize (n :: ns) = sizeOf n + totalSize ns := rfl

@[simp] theorem totalSize_append (ms ns : List Node) :
    totalSize (ms ++ ns) = totalSize ms + totalSize ns := by
  induction ms with
  | nil => simp
  | cons m ms ih =>
    rw [List.cons_append, totalSize_cons, totalSize_cons, ih]
    omega

theorem totalSize_map_lt {α : Type _} [SizeOf α] {f : α → Node}
    (h : ∀ a, sizeOf (f a) = 1 + sizeOf a) (as : List α) :
    totalSize (as.map f) < sizeOf as := by
  induction as with
  | nil => simp
  | cons a as ih => simp [h]; omega

theorem totalSize_continuations_lt (n : Node) : totalSize n.continuations < sizeOf n := by
  have stmts := totalSize_map_lt (f := Node.stmt) (fun _ => by simp)
  have cases' := totalSize_map_lt (f := Node.case) (fun _ => by simp)
  have handlers := totalSize_map_lt (f := Node.handler) (fun _ => by simp)
  unfold Node.continuations
  split
  · rename_i f; cases f; simp; omega
  · rename_i s t _ _; cases s; simp; omega
  · rename_i v; cases v <;> simp <;> omega
  · rename_i b o; have := stmts b; have := stmts o; simp; omega
  · rename_i cs; have := cases' cs; simp; omega
  · rename_i b o; have := stmts b; have := stmts o; simp; omega
  · rename_i b; have := stmts b; simp; omega
  · rename_i b hs o f
    have := stmts b; have := handlers hs; have := stmts o; have := stmts f
    simp; omega
  · rename_i c; have := stmts c.body; cases c; simp at *; omega
  · rename_i h; have := stmts h.body; cases h; simp at *; omega
  · cases n <;> simp only [totalSize_nil] <;> simp +arith

/-- Adds to a list of distinct states those that are not yet in it. -/
def record (found : List String) (ids : List String) : List String :=
  ids.foldl (fun acc id => if id ∈ acc then acc else acc ++ [id]) found

/-- Walks the pending nodes depth first and records the states that they
return. -/
def collectStates (pending : List Node) (found : List String) : List String :=
  match pending with
  | [] => found
  | n :: rest => collectStates (n.continuations ++ rest) (record found n.stateIds)
termination_by totalSize pending
decreasing_by
  have := totalSize_continuations_lt n
  simp
  omega

/-- The nodes where the walk of a thunk starts. -/
def Callable.startNodes : Callable → List Node
  | .lambda f => [.expr (.lambda f)]
  | .block f => f.body.map .stmt

/-- The distinct states that a thunk can return, in the order met. -/
def returnedStates (thunk : Callable) : List String :=
  collectStates thunk.startNodes []

end StateCoverage
