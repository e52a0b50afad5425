import StateCoverage.Proofs.FactoryScopes
import StateCoverage.Proofs.Provenance
import StateCoverage.Proofs.StackWalk

/-!
# Spellings that mean the same

A function of one expression can be written as a lambda or as a `def` with one
`return`, and a choice of two values as a conditional expression or as an `if`
with two `return` statements.  The analysis reads each form along its own path.
Here the paths are shown to agree.

* `Lambda.WrittenAs` — a lambda and the `def` that says the same.
* `Node.Swaps`, `Node.Replaces` — a statement of a function replaced by another
  one, at any depth that the walk over the function reaches.
* `Node.Replaces.emits` — then the states emitted before and after it stay.
* `spellings_agree` — lambda and `def` have the same states and, as factories,
  the same thunk; splitting a conditional `return` keeps the states, and their
  order too unless a lambda is returned.
-/

namespace StateCoverage

/-! ## A lambda as a `def` -/

/-- The `def` has the parameters of the lambda and returns its body. -/
structure Lambda.WrittenAs (f : Lambda) (d : FunctionDef) : Prop where
  plain : d.isAsync = false
  params : d.params = f.params
  body : ∃ span, d.body = [.ret span (some f.body)]

namespace Lambda.WrittenAs

variable {f : Lambda} {d : FunctionDef}

theorem returnedStates_eq (h : f.WrittenAs d) :
    returnedStates (.lambda f) = returnedStates (.block d) := by
  obtain ⟨span, hbody⟩ := h.body
  obtain ⟨lambdaSpan, params, body⟩ := f
  simp only [returnedStates_eq_eraseDups, Callable.emits, Expr.emits, hbody, List.flatMap_cons,
    List.flatMap_nil, List.append_nil, Stmt.emits]

/-- The first display that the `def` returns is the body of the lambda. -/
theorem product?_eq (h : f.WrittenAs d) :
    (Callable.block d).product? = (Callable.lambda f).product? := by
  obtain ⟨span, hbody⟩ := h.body
  simp only [Callable.product?, hbody, List.findSome?_cons, List.findSome?_nil,
    Stmt.returnedDisplay?]
  cases f.body.dict? <;> rfl

/-- The `def` binds what its body binds besides its parameters. -/
theorem scope_eq (h : f.WrittenAs d) (hbindings : (Node.expr f.body).bindings = []) :
    (Callable.block d).scope = (Callable.lambda f).scope := by
  obtain ⟨span, hbody⟩ := h.body
  have hret : (Node.stmt (.ret span (some f.body))).bindings = [] := by
    simp [Node.bindings_eq (.stmt _), Node.ownBindings, Node.sameScope, Node.children,
      Stmt.children, hbindings]
  simp [Callable.scope, Scope.ofBody, hbody, h.params, hret]

theorem executeThunk?_eq (h : f.WrittenAs d) (hbindings : (Node.expr f.body).bindings = [])
    (scopes : List Scope) :
    executeThunk? (.expr (.lambda f)) scopes = executeThunk? (.stmt (.function d)) scopes := by
  have hthunk : (Callable.lambda f).thunkIn? scopes = (Callable.block d).thunkIn? scopes := by
    simp only [Callable.thunkIn?, Callable.innerScopes, h.product?_eq, h.scope_eq hbindings]
  have hdef : Callable.ofNode? (.stmt (.function d)) = some (.block d) := by
    simp [Callable.ofNode?, h.plain]
  calc executeThunk? (Callable.lambda f).node scopes
      = (Callable.lambda f).thunkIn? scopes := executeThunk?_node _ scopes
    _ = (Callable.block d).thunkIn? scopes := hthunk
    _ = (Callable.ofNode? (.stmt (.function d))).bind fun g => g.thunkIn? scopes := by
          rw [hdef, Option.bind_some]
    _ = executeThunk? (Callable.block d).node scopes := (executeThunk?_node (.block d) scopes).symm

end Lambda.WrittenAs

/-! ## Replacing a statement that the walk reaches -/

/-- `n'` is `n` with one of the nodes that the walk goes on to, `c`, replaced by
`c'`. -/
inductive Node.Swaps : Node → Node → Node → Node → Prop
  | thenBlock {span : Span} {t : Expr} {before after o : List Stmt} {s s' : Stmt} :
      Swaps (.stmt s) (.stmt s') (.stmt (.conditional span t (before ++ s :: after) o))
        (.stmt (.conditional span t (before ++ s' :: after) o))
  | elseBlock {span : Span} {t : Expr} {b before after : List Stmt} {s s' : Stmt} :
      Swaps (.stmt s) (.stmt s') (.stmt (.conditional span t b (before ++ s :: after)))
        (.stmt (.conditional span t b (before ++ s' :: after)))
  | branchCase {span : Span} {e : Expr} {before after : List MatchCase} {c c' : MatchCase} :
      Swaps (.case c) (.case c') (.stmt (.branch span e (before ++ c :: after)))
        (.stmt (.branch span e (before ++ c' :: after)))
  | caseBlock {p : Pattern} {g : Option Expr} {before after : List Stmt} {s s' : Stmt} :
      Swaps (.stmt s) (.stmt s') (.case ⟨p, g, before ++ s :: after⟩)
        (.case ⟨p, g, before ++ s' :: after⟩)
  | loopBlock {span : Span} {form : LoopForm} {hs : List Expr} {before after o : List Stmt}
      {s s' : Stmt} :
      Swaps (.stmt s) (.stmt s') (.stmt (.loop span form hs (before ++ s :: after) o))
        (.stmt (.loop span form hs (before ++ s' :: after) o))
  | loopElse {span : Span} {form : LoopForm} {hs : List Expr} {b before after : List Stmt}
      {s s' : Stmt} :
      Swaps (.stmt s) (.stmt s') (.stmt (.loop span form hs b (before ++ s :: after)))
        (.stmt (.loop span form hs b (before ++ s' :: after)))
  | withBlock {span : Span} {isAsync : Bool} {is : List WithItem} {before after : List Stmt}
      {s s' : Stmt} :
      Swaps (.stmt s) (.stmt s') (.stmt (.within span isAsync is (before ++ s :: after)))
        (.stmt (.within span isAsync is (before ++ s' :: after)))
  | tryBlock {span : Span} {isStar : Bool} {before after o f : List Stmt} {hs : List Handler}
      {s s' : Stmt} :
      Swaps (.stmt s) (.stmt s') (.stmt (.attempt span isStar (before ++ s :: after) hs o f))
        (.stmt (.attempt span isStar (before ++ s' :: after) hs o f))
  | tryHandler {span : Span} {isStar : Bool} {b o f : List Stmt} {before after : List Handler}
      {h h' : Handler} :
      Swaps (.handler h) (.handler h')
        (.stmt (.attempt span isStar b (before ++ h :: after) o f))
        (.stmt (.attempt span isStar b (before ++ h' :: after) o f))
  | handlerBlock {span : Span} {type? : Option Expr} {name? : Option String}
      {before after : List Stmt} {s s' : Stmt} :
      Swaps (.stmt s) (.stmt s') (.handler ⟨span, type?, name?, before ++ s :: after⟩)
        (.handler ⟨span, type?, name?, before ++ s' :: after⟩)
  | tryElse {span : Span} {isStar : Bool} {b before after f : List Stmt} {hs : List Handler}
      {s s' : Stmt} :
      Swaps (.stmt s) (.stmt s') (.stmt (.attempt span isStar b hs (before ++ s :: after) f))
        (.stmt (.attempt span isStar b hs (before ++ s' :: after) f))
  | tryFinally {span : Span} {isStar : Bool} {b o before after : List Stmt} {hs : List Handler}
      {s s' : Stmt} :
      Swaps (.stmt s) (.stmt s') (.stmt (.attempt span isStar b hs o (before ++ s :: after)))
        (.stmt (.attempt span isStar b hs o (before ++ s' :: after)))

/-- `n'` is `n` with one occurrence of the statement `old`, at `n` or below it
where the walk reaches it, replaced by `new`. -/
inductive Node.Replaces (old new : Stmt) : Node → Node → Prop
  | here : Replaces old new (.stmt old) (.stmt new)
  | under {c c' n n' : Node} (hswap : Node.Swaps c c' n n') (h : Replaces old new c c') :
      Replaces old new n n'

/-- The `def` with one statement that the walk reaches replaced by another. -/
inductive FunctionDef.Replaces (old new : Stmt) : FunctionDef → FunctionDef → Prop
  | body {d : FunctionDef} {before after : List Stmt} {s s' : Stmt}
      (hbody : d.body = before ++ s :: after) (h : Node.Replaces old new (.stmt s) (.stmt s')) :
      Replaces old new d { d with body := before ++ s' :: after }

/-- The walk goes on from one node to another, in any number of steps. -/
def Node.Reaches : Node → Node → Prop :=
  Relation.ReflTransGen fun n c => c ∈ n.continuations

/-! ### Every statement that the walk reaches can be replaced -/

theorem Node.Replaces.sameClass {old new : Stmt} {n n' : Node} (h : Node.Replaces old new n n') :
    (∃ s s', n = .stmt s ∧ n' = .stmt s') ∨ (∃ c c', n = .case c ∧ n' = .case c') ∨
      ∃ k k', n = .handler k ∧ n' = .handler k' := by
  cases h with
  | here => exact .inl ⟨_, _, rfl, rfl⟩
  | under hswap _ =>
    cases hswap with
    | caseBlock => exact .inr (.inl ⟨_, _, rfl, rfl⟩)
    | handlerBlock => exact .inr (.inr ⟨_, _, rfl, rfl⟩)
    | _ => exact .inl ⟨_, _, rfl, rfl⟩

theorem Node.exists_swaps_stmt {n : Node} {s : Stmt} (h : .stmt s ∈ n.continuations) (s' : Stmt) :
    ∃ n', Node.Swaps (.stmt s) (.stmt s') n n' := by
  unfold Node.continuations at h
  split at h
  all_goals simp only [List.mem_append, List.mem_map, List.mem_cons, List.not_mem_nil,
    Node.stmt.injEq, reduceCtorEq, and_false, exists_false, exists_eq_right, or_false, or_self] at h
  · -- `if`
    rcases h with h | h <;> obtain ⟨before, after, rfl⟩ := List.append_of_mem h
    · exact ⟨_, .thenBlock⟩
    · exact ⟨_, .elseBlock⟩
  · -- a loop
    rcases h with h | h <;> obtain ⟨before, after, rfl⟩ := List.append_of_mem h
    · exact ⟨_, .loopBlock⟩
    · exact ⟨_, .loopElse⟩
  · -- `with`
    obtain ⟨before, after, rfl⟩ := List.append_of_mem h
    exact ⟨_, .withBlock⟩
  · -- `try`
    rcases h with (h | h) | h <;> obtain ⟨before, after, rfl⟩ := List.append_of_mem h
    · exact ⟨_, .tryBlock⟩
    · exact ⟨_, .tryElse⟩
    · exact ⟨_, .tryFinally⟩
  · -- `case`
    rename_i c
    obtain ⟨p, g, body⟩ := c
    obtain ⟨before, after, rfl⟩ := List.append_of_mem h
    exact ⟨_, .caseBlock⟩
  · -- `except`
    rename_i k
    obtain ⟨span, type?, name?, body⟩ := k
    obtain ⟨before, after, rfl⟩ := List.append_of_mem h
    exact ⟨_, .handlerBlock⟩

theorem Node.exists_swaps_case {n : Node} {c : MatchCase} (h : .case c ∈ n.continuations)
    (c' : MatchCase) : ∃ n', Node.Swaps (.case c) (.case c') n n' := by
  unfold Node.continuations at h
  split at h
  all_goals simp only [List.mem_append, List.mem_map, List.mem_cons, List.not_mem_nil,
    Node.case.injEq, reduceCtorEq, and_false, exists_false, exists_eq_right, or_self] at h
  obtain ⟨before, after, rfl⟩ := List.append_of_mem h
  exact ⟨_, .branchCase⟩

theorem Node.exists_swaps_handler {n : Node} {k : Handler} (h : .handler k ∈ n.continuations)
    (k' : Handler) : ∃ n', Node.Swaps (.handler k) (.handler k') n n' := by
  unfold Node.continuations at h
  split at h
  all_goals simp only [List.mem_append, List.mem_map, List.mem_cons, List.not_mem_nil,
    Node.handler.injEq, reduceCtorEq, and_false, exists_false, exists_eq_right, or_false, or_self,
    false_or] at h
  obtain ⟨before, after, rfl⟩ := List.append_of_mem h
  exact ⟨_, .tryHandler⟩

/-- Whatever statement the walk reaches from a node can be replaced in it. -/
theorem Node.Reaches.exists_replaces {old : Stmt} {n : Node} (h : n.Reaches (.stmt old))
    (new : Stmt) : ∃ n', Node.Replaces old new n n' := by
  induction h using Relation.ReflTransGen.head_induction_on with
  | refl => exact ⟨_, .here⟩
  | head hc _ ih =>
    obtain ⟨c', hreplaces⟩ := ih
    rcases hreplaces.sameClass with ⟨s, s', rfl, rfl⟩ | ⟨c, c', rfl, rfl⟩ | ⟨k, k', rfl, rfl⟩
    · obtain ⟨n', hswap⟩ := Node.exists_swaps_stmt hc s'
      exact ⟨n', .under hswap hreplaces⟩
    · obtain ⟨n', hswap⟩ := Node.exists_swaps_case hc c'
      exact ⟨n', .under hswap hreplaces⟩
    · obtain ⟨n', hswap⟩ := Node.exists_swaps_handler hc k'
      exact ⟨n', .under hswap hreplaces⟩

theorem FunctionDef.exists_replaces {d : FunctionDef} {old s : Stmt} (hs : s ∈ d.body)
    (h : (Node.stmt s).Reaches (.stmt old)) (new : Stmt) : ∃ d', d.Replaces old new d' := by
  obtain ⟨n', hreplaces⟩ := h.exists_replaces new
  obtain ⟨before, after, hbody⟩ := List.append_of_mem hs
  rcases hreplaces.sameClass with ⟨_, s', heq, rfl⟩ | ⟨_, _, heq, _⟩ | ⟨_, _, heq, _⟩
  · exact ⟨_, .body hbody hreplaces⟩
  · cases heq
  · cases heq

/-! ### What a replacement changes -/

/-- A swap changes one node of the way on and nothing that the node itself
returns. -/
theorem Node.Swaps.continuations {c c' n n' : Node} (h : Node.Swaps c c' n n') :
    n'.stateIds = n.stateIds ∧ ∃ before after, n.continuations = before ++ c :: after ∧
      n'.continuations = before ++ c' :: after := by
  cases h with
  | @thenBlock _ _ before after o s s' =>
    exact ⟨rfl, before.map .stmt, after.map .stmt ++ o.map .stmt, by simp [Node.continuations],
      by simp [Node.continuations]⟩
  | @elseBlock _ _ b before after s s' =>
    exact ⟨rfl, b.map .stmt ++ before.map .stmt, after.map .stmt, by simp [Node.continuations],
      by simp [Node.continuations]⟩
  | @branchCase _ _ before after c c' =>
    exact ⟨rfl, before.map .case, after.map .case, by simp [Node.continuations],
      by simp [Node.continuations]⟩
  | @caseBlock _ _ before after s s' =>
    exact ⟨rfl, before.map .stmt, after.map .stmt, by simp [Node.continuations],
      by simp [Node.continuations]⟩
  | @loopBlock _ _ _ before after o s s' =>
    exact ⟨rfl, before.map .stmt, after.map .stmt ++ o.map .stmt, by simp [Node.continuations],
      by simp [Node.continuations]⟩
  | @loopElse _ _ _ b before after s s' =>
    exact ⟨rfl, b.map .stmt ++ before.map .stmt, after.map .stmt, by simp [Node.continuations],
      by simp [Node.continuations]⟩
  | @withBlock _ _ _ before after s s' =>
    exact ⟨rfl, before.map .stmt, after.map .stmt, by simp [Node.continuations],
      by simp [Node.continuations]⟩
  | @tryBlock _ _ before after o f hs s s' =>
    exact ⟨rfl, before.map .stmt,
      after.map .stmt ++ hs.map .handler ++ o.map .stmt ++ f.map .stmt,
      by simp [Node.continuations], by simp [Node.continuations]⟩
  | @tryHandler _ _ b o f before after h h' =>
    exact ⟨rfl, b.map .stmt ++ before.map .handler,
      after.map .handler ++ o.map .stmt ++ f.map .stmt,
      by simp [Node.continuations], by simp [Node.continuations]⟩
  | @handlerBlock _ _ _ before after s s' =>
    exact ⟨rfl, before.map .stmt, after.map .stmt, by simp [Node.continuations],
      by simp [Node.continuations]⟩
  | @tryElse _ _ b before after f hs s s' =>
    exact ⟨rfl, b.map .stmt ++ hs.map .handler ++ before.map .stmt,
      after.map .stmt ++ f.map .stmt, by simp [Node.continuations], by simp [Node.continuations]⟩
  | @tryFinally _ _ b o before after hs s s' =>
    exact ⟨rfl, b.map .stmt ++ hs.map .handler ++ o.map .stmt ++ before.map .stmt,
      after.map .stmt, by simp [Node.continuations], by simp [Node.continuations]⟩

/-- What is emitted before the replaced statement and after it stays. -/
theorem Node.Replaces.emits {old new : Stmt} {n n' : Node} (h : Node.Replaces old new n n') :
    ∃ before after, n.emits = before ++ old.emits ++ after ∧
      n'.emits = before ++ new.emits ++ after := by
  induction h with
  | here => exact ⟨[], [], by simp [Node.emits], by simp [Node.emits]⟩
  | @under c c' n n' hswap _ ih =>
    obtain ⟨before, after, hc, hc'⟩ := ih
    obtain ⟨hids, above, below, hn, hn'⟩ := hswap.continuations
    refine ⟨n.stateIds ++ above.flatMap Node.emits ++ before,
      after ++ below.flatMap Node.emits, ?_, ?_⟩
    · rw [Node.emits_eq, hn, List.flatMap_append, List.flatMap_cons, hc]
      simp only [List.append_assoc]
    · rw [Node.emits_eq, hids, hn', List.flatMap_append, List.flatMap_cons, hc']
      simp only [List.append_assoc]

theorem FunctionDef.Replaces.emits {old new : Stmt} {d d' : FunctionDef}
    (h : d.Replaces old new d') :
    ∃ before after, (Callable.block d).emits = before ++ old.emits ++ after ∧
      (Callable.block d').emits = before ++ new.emits ++ after := by
  obtain ⟨hbody, h⟩ := h
  rename_i above below s s'
  obtain ⟨before, after, hs, hs'⟩ := h.emits
  refine ⟨above.flatMap Stmt.emits ++ before, after ++ below.flatMap Stmt.emits, ?_, ?_⟩
  · rw [Callable.emits, hbody, List.flatMap_append, List.flatMap_cons,
      show s.emits = _ from hs]
    simp only [List.append_assoc]
  · rw [Callable.emits, List.flatMap_append, List.flatMap_cons, show s'.emits = _ from hs']
    simp only [List.append_assoc]

/-! ## A conditional `return` as an `if` -/

/-- `return (x if c else y)`. -/
def conditionalReturn (span valueSpan : Span) (c x y : Expr) : Stmt :=
  .ret span (some (.conditional valueSpan c x y))

/-- `if c: return x`, `else: return y`. -/
def branchedReturn (span thenSpan elseSpan : Span) (c x y : Expr) : Stmt :=
  .conditional span c [.ret thenSpan (some x)] [.ret elseSpan (some y)]

theorem emits_conditionalReturn (span valueSpan : Span) (c x y : Expr) :
    (conditionalReturn span valueSpan c x y).emits =
      x.leafIds ++ y.leafIds ++ (x.emits ++ y.emits) := by
  simp [conditionalReturn, Stmt.emits, Expr.emits, Expr.leafIds, Expr.leaves]

theorem emits_branchedReturn (span thenSpan elseSpan : Span) (c x y : Expr) :
    (branchedReturn span thenSpan elseSpan c x y).emits =
      x.leafIds ++ x.emits ++ (y.leafIds ++ y.emits) := by
  simp [branchedReturn, Stmt.emits]

/-- A value that ends in no lambda emits only what it names itself. -/
theorem Expr.emits_eq_nil {e : Expr} (h : ∀ v ∈ e.leaves, ∀ f, v ≠ .lambda f) :
    e.emits = [] := by
  induction e using Expr.leaves.induct with
  | case1 span t b o ihb iho =>
    rw [Expr.emits, ihb fun v hv => h v (by simp [Expr.leaves, hv]),
      iho fun v hv => h v (by simp [Expr.leaves, hv]), List.append_nil]
  | case2 e hconditional =>
    cases e with
    | lambda f => exact absurd rfl (h (.lambda f) (by simp [Expr.leaves]) f)
    | conditional span t b o => exact absurd rfl (hconditional span t b o)
    | _ => rfl

/-- Whether a gap is reported, and of which kind, depends on the number of
observed states only. -/
theorem coverageGap?_kind_congr {observed observed' : List String}
    (h : observed.length = observed'.length) (state message : String) (declared : List String)
    (location : Location) (path? : Option String) (severity : Severity) :
    (coverageGap? state message declared observed location path? severity).map Diagnostic.kind =
      (coverageGap? state message declared observed' location path? severity).map
        Diagnostic.kind := by
  have hempty : observed ≠ [] ↔ observed' ≠ [] := by
    rw [← List.length_pos_iff, ← List.length_pos_iff, h]
  unfold coverageGap?
  by_cases hgap : observed ≠ [] ∧ observed.length < declared.length
  · rw [dif_pos hgap, dif_pos ⟨hempty.1 hgap.1, h ▸ hgap.2⟩]
    simp [h]
  · rw [dif_neg hgap, dif_neg fun hgap' => hgap ⟨hempty.2 hgap'.1, h ▸ hgap'.2⟩]

section Split

variable {d d' : FunctionDef} {c x y : Expr} {span valueSpan span' thenSpan elseSpan : Span}

theorem perm_returnedStates_of_split
    (h : d.Replaces (conditionalReturn span valueSpan c x y)
      (branchedReturn span' thenSpan elseSpan c x y) d') :
    (returnedStates (.block d)).Perm (returnedStates (.block d')) := by
  obtain ⟨before, after, hd, hd'⟩ := h.emits
  refine (List.perm_ext_iff_of_nodup (nodup_returnedStates _) (nodup_returnedStates _)).2 ?_
  intro s
  simp only [returnedStates_eq_eraseDups, List.mem_eraseDups, hd, hd', emits_conditionalReturn,
    emits_branchedReturn, List.mem_append]
  -- the two statements emit the same four lists, the inner two in the other order
  tauto

theorem returnedStates_eq_of_split
    (h : d.Replaces (conditionalReturn span valueSpan c x y)
      (branchedReturn span' thenSpan elseSpan c x y) d')
    (hlambda : ∀ v ∈ x.leaves ++ y.leaves, ∀ f, v ≠ .lambda f) :
    returnedStates (.block d) = returnedStates (.block d') := by
  have hx : x.emits = [] := Expr.emits_eq_nil fun v hv => hlambda v (List.mem_append_left _ hv)
  have hy : y.emits = [] := Expr.emits_eq_nil fun v hv => hlambda v (List.mem_append_right _ hv)
  obtain ⟨before, after, hd, hd'⟩ := h.emits
  simp only [returnedStates_eq_eraseDups, hd, hd', emits_conditionalReturn, emits_branchedReturn,
    hx, hy, List.append_nil]

end Split

/-- **Equivalent spellings are analysed alike.**  A lambda and the `def` that
returns its body have the same states in the same order.  As factories they have
the same thunk in every chain of scopes if the display that they return binds no
name.  Wherever the walk reaches a `return` of a conditional expression, it can
be replaced by an `if` with two `return` statements; that keeps the states,
whether there is a gap and of which kind, and the order of the states too if no
end of the two branches is a lambda. -/
theorem spellings_agree :
    (∀ (f : Lambda) (d : FunctionDef), f.WrittenAs d →
      returnedStates (.lambda f) = returnedStates (.block d) ∧
      ∀ span es, f.body = .dict span es → (Node.expr (.dict span es)).bindings = [] →
        ∀ scopes, executeThunk? (.expr (.lambda f)) scopes =
          executeThunk? (.stmt (.function d)) scopes) ∧
    ∀ (d : FunctionDef) (c x y : Expr) (span valueSpan span' thenSpan elseSpan : Span),
      let old := conditionalReturn span valueSpan c x y
      let new := branchedReturn span' thenSpan elseSpan c x y
      (∀ s ∈ d.body, (Node.stmt s).Reaches (.stmt old) → ∃ d', d.Replaces old new d') ∧
      ∀ d', d.Replaces old new d' →
        (returnedStates (.block d)).Perm (returnedStates (.block d')) ∧
        (∀ state message declared location path? severity,
          (coverageGap? state message declared (returnedStates (.block d)) location path?
            severity).map Diagnostic.kind =
          (coverageGap? state message declared (returnedStates (.block d')) location path?
            severity).map Diagnostic.kind) ∧
        ((∀ v ∈ x.leaves ++ y.leaves, ∀ f, v ≠ .lambda f) →
          returnedStates (.block d) = returnedStates (.block d')) := by
  refine ⟨?_, ?_⟩
  · intro f d h
    refine ⟨h.returnedStates_eq, ?_⟩
    intro span es hbody hbindings scopes
    rw [← hbody] at hbindings
    exact h.executeThunk?_eq hbindings scopes
  · intro d c x y span valueSpan span' thenSpan elseSpan old new
    refine ⟨fun s hs hreaches => FunctionDef.exists_replaces hs hreaches new, ?_⟩
    intro d' h
    have hperm := perm_returnedStates_of_split h
    exact ⟨hperm, coverageGap?_kind_congr hperm.length_eq, returnedStates_eq_of_split h⟩

/-- `def run(): try: s`, with a `finally` that does nothing. -/
def attempting (s : Stmt) : FunctionDef where
  span := default
  isAsync := false
  name := "run"
  params := .empty
  body := [.attempt default false [s] [] [] [.simple default .passing []]]
  decorators := []
  returns? := none

/-- `lambda: {"execute": run}`. -/
def namingLambda : Lambda :=
  ⟨default, .empty, .dict default (displayOf [("execute", .name default "run" .load)])⟩

/-- Splitting `return (lambda: {"id": "b"}) if done else {"id": "c"}` inside a
`try` keeps the two states and changes their order, since what a lambda returns
is found after what the conditional expression names itself. -/
theorem spellings_agree_attempting :
    let c := Expr.name default "done" .load
    let x := Expr.lambda ⟨default, .empty, stateDisplay "b"⟩
    let y := stateDisplay "c"
    let old := conditionalReturn default default c x y
    let new := branchedReturn default default default c x y
    namingLambda.WrittenAs namingFactory ∧
      executeThunk? (.expr (.lambda namingLambda)) [scopeOf false "run" (stateDisplay "a")] =
        executeThunk? (.stmt (.function namingFactory))
          [scopeOf false "run" (stateDisplay "a")] ∧
      (attempting old).Replaces old new (attempting new) ∧
      returnedStates (.block (attempting old)) = ["c", "b"] ∧
      returnedStates (.block (attempting new)) = ["b", "c"] ∧
      (returnedStates (.block (attempting old))).Perm
        (returnedStates (.block (attempting new))) := by
  intro c x y old new
  have hwritten : namingLambda.WrittenAs namingFactory := ⟨rfl, rfl, default, rfl⟩
  have hbindings : (Node.expr namingLambda.body).bindings = [] := by
    simp [namingLambda, displayOf, Node.bindings_eq, Node.ownBindings, Node.sameScope,
      Node.children, Expr.children, Entry.key?, Entry.value]
  have hreplaces : (attempting old).Replaces old new (attempting new) :=
    @FunctionDef.Replaces.body old new (attempting old) [] [] _ _ rfl
      (.under (@Node.Swaps.tryBlock default false [] [] [] _ [] old new) .here)
  have hold : (Callable.block (attempting old)).emits = ["c", "b"] := by
    simp [attempting, Callable.emits, Stmt.emits, old, emits_conditionalReturn, x, y, Expr.emits,
      Expr.leafIds, Expr.leaves, Expr.stateId?, stateDisplay, displayOf, Entry.idValue?,
      Expr.text?, List.filterMap_cons]
  have hnew : (Callable.block (attempting new)).emits = ["b", "c"] := by
    simp [attempting, Callable.emits, Stmt.emits, new, emits_branchedReturn, x, y, Expr.emits,
      Expr.leafIds, Expr.leaves, Expr.stateId?, stateDisplay, displayOf, Entry.idValue?,
      Expr.text?, List.filterMap_cons]
  refine ⟨hwritten, ?_, hreplaces, ?_, ?_, ?_⟩
  · exact (spellings_agree.1 namingLambda namingFactory hwritten).2 default _ rfl hbindings _
  · rw [returnedStates_eq_eraseDups, hold]
    rfl
  · rw [returnedStates_eq_eraseDups, hnew]
    rfl
  · exact ((spellings_agree.2 (attempting old) c x y default default default default default).2
      (attempting new) hreplaces).1

end StateCoverage
