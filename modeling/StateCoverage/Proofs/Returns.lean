import StateCoverage.Proofs.Gaps
import StateCoverage.Proofs.Tree

/-!
# What a thunk returns and what the walk sees of it

A thunk returns the values of its `return` statements, and a lambda that of its
body; a conditional expression stands for both its branches and a returned
lambda for what that lambda returns.  `Callable.MayReturn` lists these values
by plain descent through the tree.  The walk of `returnedStates` sees them all,
but it keeps only those that name a state and passes over the others.

* `collectStates_eq` — the walk with its stack of pending nodes records what a
  plain recursion over the tree emits.
* `mem_returnedStates_iff` — the states of a thunk are those that some value it
  may return names.
* `alwaysReturns_iff_readable` — a finding that a thunk always returns one
  state is right exactly when the thunk returns no unreadable value.
-/

namespace StateCoverage

/-! ## The walk as a recursion -/

theorem Node.mem_children_of_mem_continuations {n c : Node} (h : c ∈ n.continuations) :
    c ∈ n.children := by
  unfold Node.continuations at h
  split at h <;> simp_all [Node.children, Stmt.children, Expr.children]

/-- The states that a node returns, in the order of a depth-first walk and with
repetitions. -/
def Node.walkStates (n : Node) : List String :=
  n.stateIds ++ n.continuations.attach.flatMap fun ⟨c, _⟩ => c.walkStates
termination_by sizeOf n
decreasing_by
  exact Node.sizeOf_lt_of_mem_children (Node.mem_children_of_mem_continuations ‹_›)

theorem Node.walkStates_eq (n : Node) :
    n.walkStates = n.stateIds ++ n.continuations.flatMap Node.walkStates := by
  rw [Node.walkStates, List.flatMap_subtype fun _ _ => rfl, List.unattach_attach]

theorem record_append (found ids ids' : List String) :
    record found (ids ++ ids') = record (record found ids) ids' :=
  List.foldl_append

/-- The walk over pending nodes records what the recursion emits. -/
theorem collectStates_eq (pending : List Node) (found : List String) :
    collectStates pending found = record found (pending.flatMap Node.walkStates) := by
  fun_induction collectStates pending found with
  | case1 found => rfl
  | case2 found n rest ih =>
    rw [ih, List.flatMap_append, List.flatMap_cons, Node.walkStates_eq n, List.append_assoc,
      record_append found]

theorem mem_record_iff {found ids : List String} {s : String} :
    s ∈ record found ids ↔ s ∈ found ∨ s ∈ ids := by
  induction ids generalizing found with
  | nil => simp [record]
  | cons i ids ih =>
    rw [record, List.foldl_cons, ← record, ih, List.mem_cons]
    by_cases hi : i ∈ found
    · rw [if_pos hi]
      constructor
      · rintro (h | h)
        · exact .inl h
        · exact .inr (.inr h)
      · rintro (h | rfl | h)
        · exact .inl h
        · exact .inl hi
        · exact .inr h
    · rw [if_neg hi, List.mem_append, List.mem_singleton, or_assoc]

/-! ## Values in return position -/

/-- The values that an expression stands for when it is returned: those of both
branches of a conditional, those of the body of a lambda, and otherwise the
expression itself. -/
def Expr.outcomes : Expr → List Expr
  | .conditional _ _ b o => b.outcomes ++ o.outcomes
  | .lambda ⟨_, _, body⟩ => body.outcomes
  | e => [e]

/-- The expression is a dict display whose last `id` entry is the string literal
`s`. -/
def Expr.NamesState (e : Expr) (s : String) : Prop :=
  ∃ span es textSpan, e = .dict span es ∧ EffectiveEntry es "id" (.text textSpan s)

theorem Expr.text?_eq_some_iff {e : Expr} {s : String} :
    e.text? = some s ↔ ∃ span, e = .text span s := by
  constructor
  · intro h
    cases e <;> simp [Expr.text?] at h
    subst h
    exact ⟨_, rfl⟩
  · rintro ⟨span, rfl⟩
    rfl

theorem mem_stateIds_dict_iff {span : Span} {es : List Entry} {s : String} :
    s ∈ (Expr.dict span es).stateIds ↔ (Expr.dict span es).NamesState s := by
  simp only [Expr.stateIds, Option.mem_toList, Option.bind_eq_some_iff, find?_textEntries_iff,
    Expr.text?_eq_some_iff, Expr.NamesState, Expr.dict.injEq]
  constructor
  · rintro ⟨e, he, textSpan, rfl⟩
    exact ⟨span, es, textSpan, ⟨rfl, rfl⟩, he⟩
  · rintro ⟨_, _, textSpan, ⟨rfl, rfl⟩, he⟩
    exact ⟨_, he, textSpan, rfl⟩

/-- What the walk finds of a returned expression, at once or on the way down,
are the states that its outcomes name. -/
theorem mem_stateIds_or_mem_walkStates_iff (e : Expr) (s : String) :
    s ∈ e.stateIds ∨ s ∈ (Node.expr e).walkStates ↔ ∃ v ∈ e.outcomes, v.NamesState s := by
  fun_induction Expr.outcomes e with
  | case1 span t b o ihb iho =>
    have down : (Node.expr (.conditional span t b o)).walkStates =
        (Node.expr b).walkStates ++ (Node.expr o).walkStates := by
      rw [Node.walkStates_eq]
      simp [Node.stateIds, Node.continuations]
    simp only [down, Expr.stateIds, List.mem_append, or_and_right, exists_or, ← ihb, ← iho]
    tauto
  | case2 span params body ih =>
    have down : (Node.expr (.lambda ⟨span, params, body⟩)).walkStates =
        body.stateIds ++ (Node.expr body).walkStates := by
      rw [Node.walkStates_eq]
      simp [Node.stateIds, Node.continuations]
    rw [down, List.mem_append, ih]
    simp [Expr.stateIds]
  | case3 e hconditional hlambda =>
    rw [Node.walkStates_eq]
    cases e with
    | conditional span t b o => exact absurd rfl (hconditional span t b o)
    | lambda f => obtain ⟨span, params, body⟩ := f; exact absurd rfl (hlambda span params body)
    | dict span es => simp [Node.stateIds, Node.continuations, mem_stateIds_dict_iff]
    | _ => simp [Node.stateIds, Node.continuations, Expr.stateIds, Expr.NamesState]

/-! ## Statements that run with a node -/

/-- A `def`, `async def` or `class`, whose body runs elsewhere or by itself. -/
def Node.isDefinition : Node → Bool
  | .stmt (.function _) | .stmt (.classDef _) => true
  | _ => false

/-- `m` is `n`, or it lies below `n` and not inside a nested definition. -/
inductive Node.RunsWithin : Node → Node → Prop
  | self (n : Node) : RunsWithin n n
  | child {n c m : Node} : n.isDefinition = false → c ∈ n.children → RunsWithin c m →
      RunsWithin n m

/-- The values that a function may return: those of the body of a lambda, or of
the `return` statements that run with the body of a `def`.  A bare `return` has
no value. -/
inductive Callable.MayReturn : Callable → Option Expr → Prop
  | lambda {f : Lambda} {v : Expr} : v ∈ f.body.outcomes → MayReturn (.lambda f) (some v)
  | block {f : FunctionDef} {s : Stmt} {span : Span} {r v : Expr} : s ∈ f.body →
      (Node.stmt s).RunsWithin (.stmt (.ret span (some r))) → v ∈ r.outcomes →
      MayReturn (.block f) (some v)
  | bare {f : FunctionDef} {s : Stmt} {span : Span} : s ∈ f.body →
      (Node.stmt s).RunsWithin (.stmt (.ret span none)) → MayReturn (.block f) none

/-- Of a statement that is no definition and no `return`, the walk goes on with
the statements directly below it. -/
theorem Node.continuations_eq_filter {n : Node} (h : n.isBlock = true)
    (hdef : n.isDefinition = false) (hret : ∀ span v?, n ≠ .stmt (.ret span v?)) :
    n.continuations = n.children.filter Node.isBlock := by
  cases n with
  | stmt s =>
    cases s with
    | function _ | classDef _ => simp [Node.isDefinition] at hdef
    | ret span v? => exact absurd rfl (hret span v?)
    | _ => simp [Node.continuations, Node.children, Stmt.children, List.filter_map,
        Function.comp_def]
  | handler _ | case _ => simp [Node.continuations, Node.children, List.filter_map,
      Function.comp_def]
  | _ => simp [Node.isBlock] at h

theorem Node.RunsWithin.isBlock {n : Node} {s : Stmt} (h : n.RunsWithin (.stmt s))
    (hm : ∀ m, n ≠ .module m) : n.isBlock = true := by
  generalize hs : Node.stmt s = r at h
  induction h with
  | self => rw [← hs, isBlock_stmt]
  | @child n c r hdef hc _ ih =>
    by_contra hn
    have hcblock := Node.isBlock_eq_false_of_mem_children (Bool.eq_false_iff.2 hn) hm hc
    rw [ih (Node.ne_module_of_mem_children hc) hs] at hcblock
    simp at hcblock

theorem Node.runsWithin_ret_iff {span span' : Span} {v? v?' : Option Expr} :
    (Node.stmt (.ret span v?)).RunsWithin (.stmt (.ret span' v?')) ↔
      span = span' ∧ v? = v?' := by
  constructor
  · intro h
    cases h with
    | self => exact ⟨rfl, rfl⟩
    | child hdef hc h =>
      obtain ⟨e, -, rfl⟩ := List.mem_map.1 hc
      exact absurd (h.isBlock (by simp)) (by simp)
  · rintro ⟨rfl, rfl⟩
    exact .self _

/-- A `return` with a value that names `s` runs with the node. -/
def Node.ReturnsState (n : Node) (s : String) : Prop :=
  ∃ span r v, n.RunsWithin (.stmt (.ret span (some r))) ∧ v ∈ r.outcomes ∧ v.NamesState s

theorem mem_walkStates_ret_iff {span : Span} {v? : Option Expr} {s : String} :
    s ∈ (Node.stmt (.ret span v?)).walkStates ↔ (Node.stmt (.ret span v?)).ReturnsState s := by
  cases v? with
  | none =>
    rw [Node.walkStates_eq]
    simp [Node.stateIds, Node.continuations, Node.ReturnsState, Node.runsWithin_ret_iff]
  | some r =>
    have down : (Node.stmt (.ret span (some r))).walkStates =
        r.stateIds ++ (Node.expr r).walkStates := by
      rw [Node.walkStates_eq]
      simp [Node.stateIds, Node.continuations]
    rw [down, List.mem_append, mem_stateIds_or_mem_walkStates_iff]
    simp only [Node.ReturnsState, Node.runsWithin_ret_iff, Option.some.injEq]
    constructor
    · rintro ⟨v, hv, hs⟩
      exact ⟨span, r, v, ⟨rfl, rfl⟩, hv, hs⟩
    · rintro ⟨_, _, v, ⟨rfl, rfl⟩, hv, hs⟩
      exact ⟨v, hv, hs⟩

/-- A statement that is no `return` returns what the statements below it do. -/
theorem Node.returnsState_iff_exists_child {n : Node} (hdef : n.isDefinition = false)
    (hret : ∀ span v?, n ≠ .stmt (.ret span v?)) {s : String} :
    n.ReturnsState s ↔ ∃ c ∈ n.children.filter Node.isBlock, c.ReturnsState s := by
  constructor
  · rintro ⟨span, r, v, hruns, hv, hs⟩
    cases hruns with
    | self => exact absurd rfl (hret span (some r))
    | @child _ c _ _ hc hruns =>
      have hblock := hruns.isBlock (Node.ne_module_of_mem_children hc)
      exact ⟨c, List.mem_filter.2 ⟨hc, hblock⟩, span, r, v, hruns, hv, hs⟩
  · rintro ⟨c, hc, span, r, v, hruns, hv, hs⟩
    exact ⟨span, r, v, .child hdef (List.mem_filter.1 hc).1 hruns, hv, hs⟩

theorem Node.not_returnsState_of_isDefinition {n : Node} (hdef : n.isDefinition = true)
    {s : String} : ¬n.ReturnsState s := by
  rintro ⟨span, r, v, hruns, -, -⟩
  cases hruns with
  | self => simp [Node.isDefinition] at hdef
  | child hdef' _ _ => simp [hdef] at hdef'

/-- The walk of a statement emits the states that it returns. -/
theorem mem_walkStates_iff {n : Node} (hblock : n.isBlock = true) {s : String} :
    s ∈ n.walkStates ↔ n.ReturnsState s := by
  induction n using Node.induction with
  | step n ih =>
    by_cases hret : ∃ span v?, n = .stmt (.ret span v?)
    · obtain ⟨span, v?, rfl⟩ := hret
      exact mem_walkStates_ret_iff
    · have hret : ∀ span v?, n ≠ .stmt (.ret span v?) := fun span v? h => hret ⟨span, v?, h⟩
      have own : n.stateIds = [] := by
        unfold Node.stateIds
        split
        · simp at hblock
        · exact absurd rfl (hret _ _)
        · rfl
      rw [Node.walkStates_eq, own, List.nil_append, List.mem_flatMap]
      cases hdef : n.isDefinition with
      | true =>
        refine iff_of_false ?_ (Node.not_returnsState_of_isDefinition hdef)
        rintro ⟨c, hc, -⟩
        unfold Node.isDefinition at hdef
        split at hdef <;> simp_all [Node.continuations]
      | false =>
        -- below such a statement the walk and the descent meet the same statements
        rw [Node.continuations_eq_filter hblock hdef hret,
          Node.returnsState_iff_exists_child hdef hret]
        refine exists_congr fun c => and_congr_right fun hc => ?_
        obtain ⟨hchild, hcblock⟩ := List.mem_filter.1 hc
        exact ih c hchild hcblock

/-- The states of a thunk are those that some value it may return names. -/
theorem mem_returnedStates_iff {t : Callable} {s : String} :
    s ∈ returnedStates t ↔ ∃ v, t.MayReturn (some v) ∧ v.NamesState s := by
  rw [returnedStates, collectStates_eq, mem_record_iff, List.mem_flatMap]
  simp only [List.not_mem_nil, false_or]
  cases t with
  | lambda f =>
    have outcomes := mem_stateIds_or_mem_walkStates_iff (.lambda f) s
    have body : (Expr.lambda f).outcomes = f.body.outcomes := by
      obtain ⟨span, params, body⟩ := f
      rw [Expr.outcomes]
    rw [body] at outcomes
    simp only [Callable.startNodes, List.mem_singleton, exists_eq_left]
    rw [show s ∈ (Node.expr (.lambda f)).walkStates ↔ _ from by
      simpa [Expr.stateIds] using outcomes]
    constructor
    · rintro ⟨v, hv, hs⟩
      exact ⟨v, .lambda hv, hs⟩
    · rintro ⟨v, ⟨hv⟩, hs⟩
      exact ⟨v, hv, hs⟩
  | block f =>
    simp only [Callable.startNodes, List.mem_map]
    constructor
    · rintro ⟨_, ⟨stmt, hstmt, rfl⟩, hs⟩
      obtain ⟨span, r, v, hruns, hv, hs⟩ := (mem_walkStates_iff (Node.isBlock_stmt stmt)).1 hs
      exact ⟨v, .block hstmt hruns hv, hs⟩
    · rintro ⟨v, hreturn, hs⟩
      cases hreturn with
      | @block _ stmt span r _ hstmt hruns hv =>
        exact ⟨_, ⟨stmt, hstmt, rfl⟩,
          (mem_walkStates_iff (Node.isBlock_stmt stmt)).2 ⟨span, r, v, hruns, hv, hs⟩⟩

/-! ## Findings that a thunk always returns one state -/

/-- Whatever the function may return names the state `s`. -/
def Callable.AlwaysReturns (t : Callable) (s : String) : Prop :=
  ∀ v?, t.MayReturn v? → ∃ v, v? = some v ∧ v.NamesState s

/-- Whatever the function may return names some state. -/
def Callable.Readable (t : Callable) : Prop :=
  ∀ v?, t.MayReturn v? → ∃ v s, v? = some v ∧ v.NamesState s

/-- The diagnostic is about `thunk`, as the thunk of a transition of a site of
the tree. -/
def Diagnostic.AnchoredAt (d : Diagnostic) (root : Node) (thunk : Callable) : Prop :=
  ∃ site ∈ sites root, site.Uncovered d.state d.message d.declared thunk ∧
    d.Reports d.state d.message d.declared thunk d.path? d.severity

theorem exists_anchoredAt_of_mem_analyze {settings : Settings} {path? : Option String}
    {root : Node} {d : Diagnostic} (h : d ∈ analyze settings path? root) :
    ∃ thunk, d.AnchoredAt root thunk := by
  unfold analyze at h
  split at h
  · obtain ⟨site, hsite, hgap⟩ := List.mem_flatMap.1 h
    obtain ⟨thunk, huncovered, hreports⟩ := uncovered_of_mem_gaps hgap
    refine ⟨thunk, site, hsite, huncovered, ?_⟩
    rw [hreports.path_eq, hreports.severity_eq]
    exact hreports
  · simp at h

/-- **What is known of a thunk that is said to always return one state.**  Some
value that it may return names that state and none names another one; it does
always return the state exactly when every value that it may return is
readable. -/
theorem alwaysReturns_iff_readable (settings : Settings) (path? : Option String) (root : Node)
    (d : Diagnostic) (emitted : d ∈ analyze settings path? root)
    (always : d.kind = .alwaysSameState) :
    (∃ thunk, d.AnchoredAt root thunk) ∧ ∀ thunk, d.AnchoredAt root thunk →
      ∃ s, d.observed = [s] ∧ (∃ v, thunk.MayReturn (some v) ∧ v.NamesState s) ∧
        (∀ v s', thunk.MayReturn (some v) → v.NamesState s' → s' = s) ∧
        (thunk.AlwaysReturns s ↔ thunk.Readable) := by
  refine ⟨exists_anchoredAt_of_mem_analyze emitted, ?_⟩
  rintro thunk ⟨site, -, -, hreports⟩
  obtain ⟨s, hs⟩ := List.length_eq_one_iff.1 (hreports.kind_iff.1 always)
  have named : ∀ s', (∃ v, thunk.MayReturn (some v) ∧ v.NamesState s') ↔ s' = s := by
    intro s'
    rw [← mem_returnedStates_iff, hs, List.mem_singleton]
  have only : ∀ v s', thunk.MayReturn (some v) → v.NamesState s' → s' = s :=
    fun v s' hv hname => (named s').1 ⟨v, hv, hname⟩
  refine ⟨s, hreports.observed_eq.trans hs, (named s).2 rfl, only, ?_, ?_⟩
  · intro h v? hv
    obtain ⟨v, rfl, hname⟩ := h v? hv
    exact ⟨v, s, rfl, hname⟩
  · intro h v? hv
    obtain ⟨v, s', rfl, hname⟩ := h v? hv
    exact ⟨v, rfl, only v s' hv hname ▸ hname⟩

theorem exists_finding_loneMachine (value : Expr) (s : String)
    (h : returnedStates (loneThunk value) = [s]) :
    ∃ d ∈ analyze .standard none (loneMachine value), d.kind = .alwaysSameState ∧
      d.observed = [s] ∧ d.AnchoredAt (loneMachine value) (loneThunk value) := by
  have one : (returnedStates (loneThunk value)).length = 1 := by rw [h]; rfl
  have huncovered := loneSite_uncovered one
  obtain ⟨d, hgap, hreports⟩ := exists_mem_gaps_of_uncovered huncovered none .error
  refine ⟨d, List.mem_flatMap.2 ⟨loneSite value, loneSite_mem_sites value, hgap⟩,
    hreports.kind_iff.2 one, hreports.observed_eq.trans h, loneSite value,
    loneSite_mem_sites value, ?_⟩
  rw [hreports.state_eq, hreports.message_eq, hreports.declared_eq, hreports.path_eq,
    hreports.severity_eq]
  exact ⟨huncovered, hreports⟩

/-- Of a thunk that returns `{"id": "a"}` the finding is right. -/
theorem alwaysReturns_iff_readable_loneMachine :
    ∃ d ∈ analyze .standard none (loneMachine (stateDisplay "a")), d.kind = .alwaysSameState ∧
      (loneThunk (stateDisplay "a")).AlwaysReturns "a" := by
  obtain ⟨d, emitted, always, observed, anchored⟩ :=
    exists_finding_loneMachine (stateDisplay "a") "a" (by decide +kernel)
  obtain ⟨s, hs, -, -, hiff⟩ :=
    (alwaysReturns_iff_readable .standard none _ d emitted always).2 _ anchored
  obtain rfl : "a" = s := List.singleton_inj.1 (observed.symm.trans hs)
  refine ⟨d, emitted, always, hiff.2 ?_⟩
  rintro v? ⟨hv⟩
  obtain rfl := List.mem_singleton.1 hv
  exact ⟨_, "a", rfl, default, _, default, rfl, find?_textEntries_iff.1 rfl⟩

/-- `{"id": "a"} if ready else fallback`. -/
def mixedValue : Expr :=
  .conditional default (.name default "ready" .load) (stateDisplay "a")
    (.name default "fallback" .load)

/-- A thunk that may also return the value of a name is still said to always
return `a`. -/
theorem not_alwaysReturns_mixedValue :
    ∃ d ∈ analyze .standard none (loneMachine mixedValue), d.kind = .alwaysSameState ∧
      d.observed = ["a"] ∧ d.AnchoredAt (loneMachine mixedValue) (loneThunk mixedValue) ∧
      ¬(loneThunk mixedValue).AlwaysReturns "a" := by
  obtain ⟨d, emitted, always, observed, anchored⟩ :=
    exists_finding_loneMachine mixedValue "a" (by decide +kernel)
  refine ⟨d, emitted, always, observed, anchored, ?_⟩
  intro h
  have returned : (loneThunk mixedValue).MayReturn (some (.name default "fallback" .load)) :=
    .lambda (by simp [mixedValue, Expr.outcomes])
  obtain ⟨v, hv, span, es, textSpan, hdict, -⟩ := h _ returned
  obtain rfl := Option.some.inj hv
  exact absurd hdict (by simp)

end StateCoverage
