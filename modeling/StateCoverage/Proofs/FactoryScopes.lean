import StateCoverage.Proofs.ScopeChains

/-!
# The scopes that the `execute` of a factory sees

A thunk is found by two look-ups.  The factory is looked up from its site, and
the name under `execute` from inside the factory.  The second look-up sees what
the first one leaves: the chain from the scope that binds the factory, without
its classes.  So what lies between the site and that scope plays no part, and
neither do the class bodies around a factory.

* `Callable.thunkIn?` — the second look-up alone.
* `DropsClasses` — a chain with some of its class scopes deleted.
* `executeThunk?_eq_where_defined` — two chains that differ before the scope
  that binds the factory, and in classes after it, give the same thunk.
-/

namespace StateCoverage

/-! ## The two look-ups -/

/-- The function bound to `execute` in what a factory returns, for a factory
that is defined in the scopes `definedIn`. -/
def Callable.thunkIn? (f : Callable) (definedIn : List Scope) : Option Callable := do
  let product ← f.product?
  let execute ← (textEntries product).find? "execute"
  (locate (.expr execute) (f.innerScopes definedIn)).map Prod.fst

/-- The thunk of a factory is found by locating the factory first and then, in
the scopes it is defined in, its `execute`. -/
theorem executeThunk?_eq_bind (factory : Node) (scopes : List Scope) :
    executeThunk? factory scopes =
      (locate factory scopes).bind fun located => located.1.thunkIn? located.2 := by
  simp only [executeThunk?, Callable.thunkIn?, Option.bind_eq_bind, Option.map_eq_bind]
  rfl

/-- A lambda or `def` needs no first look-up; an `async def` is no function. -/
theorem executeThunk?_node (f : Callable) (scopes : List Scope) :
    executeThunk? f.node scopes =
      (Callable.ofNode? f.node).bind fun g => g.thunkIn? scopes := by
  have hlocate : locate f.node scopes = (Callable.ofNode? f.node).map (·, scopes) := by
    cases f with
    | lambda f => rfl
    | block f => cases h : f.isAsync <;> simp [locate, Callable.node, Callable.ofNode?, h]
  rw [executeThunk?_eq_bind, hlocate, Option.bind_map]
  rfl

theorem Scope.lookup_append {name : String} {inner : List Scope}
    (h : ∀ t ∈ inner, t.binds name = false) (chain : List Scope) :
    Scope.lookup name (inner ++ chain) = Scope.lookup name chain := by
  induction inner with
  | nil => rfl
  | cons t inner ih =>
    have ht : ¬t.binds name = true := by simp [h t]
    rw [List.cons_append, Scope.lookup, if_neg ht]
    exact ih fun u hu => h u (List.mem_cons_of_mem t hu)

/-- The thunk of a named factory is that of the `def` bound to the name, found
from the scope that binds it. -/
theorem executeThunk?_name {name : String} {inner outer : List Scope} {s : Scope}
    (hinner : ∀ t ∈ inner, t.binds name = false) (hs : s.binds name = true) (span : Span)
    (use : NameUse) :
    executeThunk? (.expr (.name span name use)) (inner ++ s :: outer) =
      (s.function? name).bind fun d => (Callable.block d).thunkIn? (s :: outer) := by
  have hlocate : locate (.expr (.name span name use)) (inner ++ s :: outer) =
      (s.function? name).map fun d => (.block d, s :: outer) := by
    show (Scope.lookup name (inner ++ s :: outer)).map (fun r => (Callable.block r.1, r.2)) = _
    rw [Scope.lookup_append hinner, Scope.lookup, if_pos hs, Option.map_map]
    rfl
  rw [executeThunk?_eq_bind, hlocate, Option.bind_map]
  rfl

/-! ## Classes around a factory -/

/-- The second chain is the first with some of its class scopes deleted. -/
inductive DropsClasses : List Scope → List Scope → Prop
  | nil : DropsClasses [] []
  | keep (s : Scope) {chain kept : List Scope} (h : DropsClasses chain kept) :
      DropsClasses (s :: chain) (s :: kept)
  | drop {s : Scope} {chain kept : List Scope} (hs : s.isClass = true)
      (h : DropsClasses chain kept) : DropsClasses (s :: chain) kept

namespace DropsClasses

theorem refl (chain : List Scope) : DropsClasses chain chain := by
  induction chain with
  | nil => exact .nil
  | cons s chain ih => exact .keep s ih

/-- Code inside a new function sees the same of both chains. -/
theorem visibleInside_eq {chain kept : List Scope} (h : DropsClasses chain kept) :
    Scope.visibleInside chain = Scope.visibleInside kept := by
  induction h with
  | nil => rfl
  | keep s _ ih =>
    show (s :: _).filter _ = (s :: _).filter _
    rw [List.filter_cons, List.filter_cons]
    exact congrArg (fun rest => if !s.isClass then s :: rest else rest) ih
  | @drop s _ _ hs _ ih =>
    show (s :: _).filter _ = _
    rw [List.filter_cons_of_neg (by simp [hs])]
    exact ih

theorem thunkIn?_eq {chain kept : List Scope} (h : DropsClasses chain kept) (f : Callable) :
    f.thunkIn? chain = f.thunkIn? kept := by
  simp only [Callable.thunkIn?, Callable.innerScopes, h.visibleInside_eq]

end DropsClasses

/-! ## The thunk depends on the place of the factory only -/

/-- **A thunk depends only on where its factory is defined.**  For a factory
given by name, the scopes before the one that binds the name can be replaced by
any others that do not bind it, and class scopes after it can be deleted; the
thunk is then that of the bound `def` at its own place.  For a factory that is a
lambda or a `def` itself, class scopes can be deleted from the whole chain. -/
theorem executeThunk?_eq_where_defined :
    (∀ (name : String) (inner inner' outer outer' : List Scope) (s : Scope),
      (∀ t ∈ inner, t.binds name = false) → (∀ t ∈ inner', t.binds name = false) →
      s.binds name = true → DropsClasses outer outer' → ∀ span use,
        executeThunk? (.expr (.name span name use)) (inner ++ s :: outer) =
          executeThunk? (.expr (.name span name use)) (inner' ++ s :: outer') ∧
        ∀ d, s.function? name = some d → d.isAsync = false →
          executeThunk? (.expr (.name span name use)) (inner ++ s :: outer) =
            executeThunk? (.stmt (.function d)) (s :: outer')) ∧
    ∀ (f : Callable) (chain kept : List Scope), DropsClasses chain kept →
      executeThunk? f.node chain = executeThunk? f.node kept := by
  refine ⟨?_, ?_⟩
  · intro name inner inner' outer outer' s hinner hinner' hs houter span use
    have hkept : DropsClasses (s :: outer) (s :: outer') := .keep s houter
    rw [executeThunk?_name hinner hs, executeThunk?_name hinner' hs]
    refine ⟨?_, ?_⟩
    · cases s.function? name with
      | none => rfl
      | some d => exact hkept.thunkIn?_eq (.block d)
    · intro d hd hplain
      have hnode : Callable.ofNode? (.stmt (.function d)) = some (.block d) := by
        simp [Callable.ofNode?, hplain]
      have hdef : executeThunk? (.stmt (.function d)) (s :: outer') =
          (Callable.block d).thunkIn? (s :: outer') := by
        rw [show Node.stmt (.function d) = (Callable.block d).node from rfl, executeThunk?_node]
        exact congrArg (Option.bind · _) hnode
      rw [hd, Option.bind_some, hkept.thunkIn?_eq (.block d), hdef]
  · intro f chain kept h
    simp only [executeThunk?_node, h.thunkIn?_eq]

/-! ### Three functions of one name -/

/-- `def name(): return value`. -/
def returning (name : String) (value : Expr) : FunctionDef where
  span := default
  isAsync := false
  name := name
  params := .empty
  body := [.ret default (some value)]
  decorators := []
  returns? := none

/-- `def run(): return {"id": state}`. -/
def runner (state : String) : FunctionDef := returning "run" (stateDisplay state)

/-- `def go(): return {"execute": run}`. -/
def namingFactory : FunctionDef :=
  returning "go" (.dict default (displayOf [("execute", .name default "run" .load)]))

/-- The scope that binds one function only. -/
def scopeOf (isClass : Bool) (name : String) (value : Expr) : Scope :=
  .ofBody isClass .empty [.function (returning name value)]

theorem occurrences_scopeOf (isClass : Bool) (name : String) (value : Expr) :
    (scopeOf isClass name value).occurrences name = [⟨name, some (returning name value)⟩] := by
  simp [Scope.occurrences, scopeOf, Scope.ofBody, returning, Params.empty, Params.names,
    Params.all, Params.defaults, Params.kwDefaults, Node.bindings_eq, Node.ownBindings,
    Node.sameScope]

theorem binds_scopeOf (isClass : Bool) (name other : String) (value : Expr) :
    (scopeOf isClass name value).binds other = decide (name = other) := by
  simp [Scope.binds, scopeOf, Scope.ofBody, returning, Params.empty, Params.names,
    Params.all, Params.defaults, Params.kwDefaults, Node.bindings_eq, Node.ownBindings,
    Node.sameScope]

/-- The thunk of the factory is the `run` that is seen from inside a function at
its place. -/
theorem thunkIn?_namingFactory (definedIn : List Scope) :
    (Callable.block namingFactory).thunkIn? definedIn =
      (locate (.expr (.name default "run" .load)) (Scope.visibleInside definedIn)).map
        Prod.fst := by
  let own := (Callable.block namingFactory).scope
  have hown : own.binds "run" = false := by
    simp [own, Callable.scope, Scope.binds, Scope.ofBody, namingFactory, returning, displayOf,
      Params.empty, Params.names, Params.all, Node.bindings_eq, Node.ownBindings,
      Node.sameScope, Node.children, Stmt.children, Expr.children, Entry.key?, Entry.value]
  have hlookup : Scope.lookup "run" ([own] ++ Scope.visibleInside definedIn) =
      Scope.lookup "run" (Scope.visibleInside definedIn) :=
    Scope.lookup_append (by simpa using hown) _
  exact congrArg (fun found => (found.map fun r => (Callable.block r.1, r.2)).map Prod.fst) hlookup

/-- The factory `go` of a function names `run`.  Neither the `run` of the site,
which is nearer to it, nor that of a class around the factory is its thunk: that
is the `run` of the module. -/
theorem executeThunk?_eq_where_defined_namingFactory :
    let site := scopeOf false "run" (stateDisplay "c")
    let home := Scope.ofBody false .empty [.function namingFactory]
    let body := scopeOf true "run" (stateDisplay "b")
    let outside := scopeOf false "run" (stateDisplay "a")
    site.binds "go" = false ∧ home.binds "go" = true ∧
      DropsClasses [body, outside] [outside] ∧
      executeThunk? (.expr (.name default "go" .load)) [site, home, body, outside] =
        executeThunk? (.expr (.name default "go" .load)) [home, outside] ∧
      executeThunk? (.stmt (.function namingFactory)) [home, body, outside] =
        executeThunk? (.stmt (.function namingFactory)) [home, outside] ∧
      executeThunk? (.expr (.name default "go" .load)) [home, outside] =
        some (.block (runner "a")) := by
  intro site home body outside
  have hsite : site.binds "go" = false := binds_scopeOf false "run" "go" _
  have hhome : home.binds "go" = true := binds_scopeOf false "go" "go" _
  have hdrops : DropsClasses [body, outside] [outside] := .drop rfl (.refl _)
  refine ⟨hsite, hhome, hdrops, ?_, ?_, ?_⟩
  · exact (executeThunk?_eq_where_defined.1 "go" [site] [] _ _ home (by simpa using hsite)
      (by simp) hhome hdrops default .load).1
  · exact executeThunk?_eq_where_defined.2 (.block namingFactory) _ _ (.keep home hdrops)
  · have hfactory : home.function? "go" = some namingFactory := by
      rw [Scope.function?, show home.occurrences "go" = _ from occurrences_scopeOf false "go" _]
      rfl
    have hrun : locate (.expr (.name default "run" .load)) ([home] ++ [outside]) =
        some (.block (runner "a"), [outside]) := by
      have hinner : ∀ t ∈ [home], t.binds "run" = false :=
        List.forall_mem_singleton.2 (binds_scopeOf false "go" "run" _)
      show (Scope.lookup "run" ([home] ++ [outside])).map _ = _
      rw [Scope.lookup_append hinner]
      exact locate_name_of_occurrences (occurrences_scopeOf false "run" _) default .load
    rw [show [home, outside] = [] ++ home :: [outside] from rfl,
      executeThunk?_name (by simp) hhome, hfactory, Option.bind_some, thunkIn?_namingFactory]
    exact congrArg (Option.map Prod.fst) hrun

end StateCoverage
