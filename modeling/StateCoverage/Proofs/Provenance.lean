import StateCoverage.Proofs.Returns
import StateCoverage.Proofs.ScopeChains

/-!
# Where findings come from

A thunk may be reached through two names, each resolved in scopes that were
built elsewhere in the tree.  Still nothing in a diagnostic is made up: the
thunk is a function of the tree, the observed states are string literals inside
it, and the declared states, the state and the message are string literals of
one construction site.

* `mem_preorder_of_locate` — what a name is resolved to occurs in the tree.
* `mem_preorder_of_executeThunk?` — so does the thunk of a command.
* `analyzeChecked` — the check with every diagnostic built by the constructor
  that refuses bad parts.
* `analyze_provenance` — the constructor never refuses, and every diagnostic
  has its parts from the tree.
-/

namespace StateCoverage

/-! ## Inside a function -/

theorem DirectlyBelow.mem_preorder {n x : Node} (h : DirectlyBelow n x) : x ∈ n.preorder := by
  obtain ⟨between, h, -⟩ := h
  exact mem_preorder_iff.2 ⟨between, h⟩

theorem Node.RunsWithin.mem_preorder {n m : Node} (h : n.RunsWithin m) : m ∈ n.preorder := by
  induction h with
  | self n => exact n.mem_preorder_self
  | child _ hc _ ih => exact mem_preorder_trans ih (Node.mem_preorder_of_mem_children hc)

theorem Expr.mem_preorder_of_mem_outcomes {e v : Expr} (h : v ∈ e.outcomes) :
    Node.expr v ∈ (Node.expr e).preorder := by
  fun_induction Expr.outcomes e with
  | case1 span t b o ihb iho =>
    rcases List.mem_append.1 h with h | h
    · exact mem_preorder_trans (ihb h)
        (Node.mem_preorder_of_mem_children (by simp [Node.children, Expr.children]))
    · exact mem_preorder_trans (iho h)
        (Node.mem_preorder_of_mem_children (by simp [Node.children, Expr.children]))
  | case2 span params body ih =>
    exact mem_preorder_trans (ih h)
      (Node.mem_preorder_of_mem_children (by simp [Node.children, Expr.children]))
  | case3 e _ _ =>
    rw [List.mem_singleton.1 h]
    exact Node.mem_preorder_self _

/-- A value that a function may return stands inside the function. -/
theorem Callable.MayReturn.mem_preorder {t : Callable} {v : Expr} (h : t.MayReturn (some v)) :
    Node.expr v ∈ t.node.preorder := by
  cases h with
  | @lambda f _ hv =>
    have hbody : Node.expr f.body ∈ (Node.expr (.lambda f)).children := by
      simp [Node.children, Expr.children]
    exact mem_preorder_trans (Expr.mem_preorder_of_mem_outcomes hv)
      (Node.mem_preorder_of_mem_children hbody)
  | @block f s span r _ hs hruns hv =>
    have hstmt : Node.stmt s ∈ (Node.stmt (.function f)).children := by
      simp [Node.children, Stmt.children, hs]
    have hret : Node.expr r ∈ (Node.stmt (.ret span (some r))).children := by
      simp [Node.children, Stmt.children]
    have hvalue := mem_preorder_trans (Expr.mem_preorder_of_mem_outcomes hv)
      (Node.mem_preorder_of_mem_children hret)
    exact mem_preorder_trans (mem_preorder_trans hvalue hruns.mem_preorder)
      (Node.mem_preorder_of_mem_children hstmt)

theorem EffectiveEntry.mem_preorder {es : List Entry} {k : String} {v : Expr}
    (h : EffectiveEntry es k v) (span : Span) :
    Node.expr v ∈ (Node.expr (.dict span es)).preorder :=
  (h.directlyBelow span).mem_preorder

/-- A state that a thunk returns is a string literal inside the thunk. -/
theorem exists_text_of_mem_returnedStates {t : Callable} {s : String}
    (h : s ∈ returnedStates t) : ∃ span, Node.expr (.text span s) ∈ t.node.preorder := by
  obtain ⟨v, hreturn, span, es, textSpan, rfl, hid⟩ := mem_returnedStates_iff.1 h
  exact ⟨textSpan, mem_preorder_trans (hid.mem_preorder span) hreturn.mem_preorder⟩

/-- The display that a factory returns stands inside the factory. -/
theorem Callable.exists_display_of_product? {f : Callable} {es : List Entry}
    (h : f.product? = some es) : ∃ span, Node.expr (.dict span es) ∈ f.node.preorder := by
  cases f with
  | lambda f =>
    obtain ⟨span, hbody⟩ := Expr.dict?_eq_some_iff.1 h
    refine ⟨span, Node.mem_preorder_of_mem_children ?_⟩
    simp [Callable.node, Node.children, Expr.children, hbody]
  | block f =>
    obtain ⟨s, hs, hreturned⟩ := List.exists_of_findSome?_eq_some h
    unfold Stmt.returnedDisplay? at hreturned
    split at hreturned
    · rename_i retSpan v
      obtain ⟨span, rfl⟩ := Expr.dict?_eq_some_iff.1 hreturned
      have hstmt : Node.stmt (.ret retSpan (some (.dict span es))) ∈
          (Node.stmt (.function f)).children := by
        simp [Node.children, Stmt.children, hs]
      have hvalue : Node.expr (.dict span es) ∈
          (Node.stmt (.ret retSpan (some (.dict span es)))).children := by
        simp [Node.children, Stmt.children]
      exact ⟨span, mem_preorder_trans (Node.mem_preorder_of_mem_children hvalue)
        (Node.mem_preorder_of_mem_children hstmt)⟩
    · simp at hreturned

/-! ## Functions that names are resolved to -/

theorem Node.isAsync_eq_false_of_mem_ownBindings {n : Node} {b : Binding} {d : FunctionDef}
    (hb : b ∈ n.ownBindings) (hd : b.function? = some d) : d.isAsync = false := by
  rw [Node.eq_function_of_mem_ownBindings hb hd, Node.ownBindings, List.mem_singleton] at hb
  rw [hb] at hd
  by_contra hasync
  simp [hasync] at hd

/-- A binding by an `async def` is one by no function. -/
theorem Node.isAsync_eq_false_of_mem_bindings {n : Node} {b : Binding} {d : FunctionDef}
    (hn : ∀ m, n ≠ .module m) (hb : b ∈ n.bindings) (hd : b.function? = some d) :
    d.isAsync = false := by
  induction n using Node.induction with
  | step n ih =>
    rw [Node.bindings_eq, List.mem_append, List.mem_flatMap] at hb
    rcases hb with hb | ⟨c, hc, hb⟩
    · exact Node.isAsync_eq_false_of_mem_ownBindings hb hd
    · rcases Node.mem_sameScope hn hc with ⟨e, rfl⟩ | ⟨-, hchild⟩
      · have := Node.function?_eq_none_of_isBlock_eq_false rfl (by simp) hb
        simp [this] at hd
      · exact ih c hchild (Node.ne_module_of_mem_children hchild) hb

theorem Node.isAsync_eq_false_of_function? {n : Node} {s : Scope} {name : String}
    {d : FunctionDef} (hs : n.opens? = some s) (hd : s.function? name = some d) :
    d.isAsync = false := by
  obtain ⟨isClass, params, body, rfl, -⟩ := Node.opens?_eq_some hs
  obtain ⟨b, hb, hbd⟩ := Scope.exists_mem_bindings_of_function? hd
  rcases List.mem_append.1 hb with hb | hb
  · obtain ⟨p, -, rfl⟩ := List.mem_map.1 hb
    simp [Binding.other] at hbd
  · obtain ⟨t, -, hb⟩ := List.mem_flatMap.1 hb
    exact Node.isAsync_eq_false_of_mem_bindings (by simp) hb hbd

/-- The kinds of nodes that can be thunks. -/
def functionKinds : List String := ["Lambda", "FunctionDef"]

/-- The function that an expression of the tree is resolved to occurs in the
tree, if the scopes are those around some place of the tree. -/
theorem mem_preorder_of_locate {root : Node} {e : Expr} {around : List Node} {t : Callable}
    {chain : List Scope} (haround : ∀ a ∈ around, a ∈ root.preorder)
    (he : Node.expr e ∈ root.preorder)
    (h : locate (.expr e) (scopesAround around) = some (t, chain)) :
    t.node ∈ root.preorder ∧ t.node.kind ∈ functionKinds := by
  rcases locate_expr_eq_some h with ⟨hnode, -⟩ | ⟨name, d, rfl, hlookup⟩
  · cases t with
    | lambda f => exact ⟨hnode ▸ he, by simp [Callable.node, Node.kind, Expr.kind, functionKinds]⟩
    | block f => simp [Callable.node] at hnode
  · obtain ⟨inner, s, outer, hscopes, -, hd, -⟩ := Scope.lookup_eq_some hlookup
    obtain ⟨nearer, a, farther, rfl, ha, -⟩ := exists_ancestor_of_scopesAround_eq hscopes
    obtain ⟨c, hc, hbelow⟩ := exists_directlyBelow_of_function? ha hd
    have hchild := mem_preorder_trans (Node.mem_preorder_of_mem_children hc)
      (haround a (by simp))
    refine ⟨mem_preorder_trans hbelow.mem_preorder hchild, ?_⟩
    simp [Callable.node, Node.kind, Stmt.kind, functionKinds,
      Node.isAsync_eq_false_of_function? ha hd]

theorem Callable.innerScopes_eq_of_visibleInside_eq {f : Callable} {chain : List Scope}
    {above : List Node}
    (h : Scope.visibleInside chain = Scope.visibleInside (above.filterMap Node.opens?)) :
    f.innerScopes chain = scopesAround (f.node :: above) := by
  rw [Callable.innerScopes, h, scopesAround_eq, List.filterMap_cons_some f.opens?_node]
  rfl

/-- How a thunk is found: the factory is located, and then its `execute` entry
from inside the factory. -/
theorem executeThunk?_eq_some_iff {n : Node} {scopes : List Scope} {thunk : Callable} :
    executeThunk? n scopes = some thunk ↔ ∃ f chain product execute chain',
      locate n scopes = some (f, chain) ∧ f.product? = some product ∧
      EffectiveEntry product "execute" execute ∧
      locate (.expr execute) (f.innerScopes chain) = some (thunk, chain') := by
  simp only [executeThunk?, Option.bind_eq_bind, Option.bind_eq_some_iff, Option.pure_def,
    Option.some.injEq, ← find?_textEntries_iff]
  constructor
  · rintro ⟨⟨f, chain⟩, hf, product, hproduct, execute, hexecute, ⟨t, chain'⟩, ht, rfl⟩
    exact ⟨f, chain, product, execute, chain', hf, hproduct, hexecute, ht⟩
  · rintro ⟨f, chain, product, execute, chain', hf, hproduct, hexecute, ht⟩
    exact ⟨(f, chain), hf, product, hproduct, execute, hexecute, (thunk, chain'), ht, rfl⟩

section Commands

variable {root : Node} {site : Site} {state message : String} {factory : Expr}

/-- A factory of a site of the tree occurs in the tree. -/
theorem Site.Supplies.mem_preorder (hsupplies : site.Supplies state message factory)
    (hsite : site ∈ sites root) : Node.expr factory ∈ root.preorder := by
  obtain ⟨n, around, hn, hat⟩ := mem_sites_iff.1 hsite
  exact mem_preorder_trans (hat.directlyBelow hsupplies).mem_preorder
    (mem_preorder_iff.2 ⟨around, hn⟩)

/-- A located factory occurs in the tree, and its code sees the scopes around
its place. -/
theorem Site.Supplies.exists_lineage (hsupplies : site.Supplies state message factory)
    (hsite : site ∈ sites root) {f : Callable} {chain : List Scope}
    (hlocate : locate (.expr factory) site.scopes = some (f, chain)) :
    ∃ above, Lineage root f.node above ∧ f.innerScopes chain = scopesAround (f.node :: above) := by
  obtain ⟨n, around, hn, hat⟩ := mem_sites_iff.1 hsite
  obtain ⟨above, hf, -, hvisible⟩ := exists_lineage_of_locate hn hat hsupplies hlocate
  exact ⟨above, hf, Callable.innerScopes_eq_of_visibleInside_eq hvisible⟩

/-- The `execute` entry of a located factory occurs in the tree. -/
theorem Site.Supplies.execute_mem_preorder (hsupplies : site.Supplies state message factory)
    (hsite : site ∈ sites root) {f : Callable} {chain : List Scope} {product : List Entry}
    {execute : Expr} (hlocate : locate (.expr factory) site.scopes = some (f, chain))
    (hproduct : f.product? = some product) (hexecute : EffectiveEntry product "execute" execute) :
    Node.expr execute ∈ root.preorder := by
  obtain ⟨above, hf, -⟩ := hsupplies.exists_lineage hsite hlocate
  obtain ⟨span, hdisplay⟩ := Callable.exists_display_of_product? hproduct
  exact mem_preorder_trans (hexecute.mem_preorder span)
    (mem_preorder_trans hdisplay (mem_preorder_iff.2 ⟨above, hf⟩))

/-- The thunk of a command occurs in the tree. -/
theorem mem_preorder_of_executeThunk? {thunk : Callable} (hsite : site ∈ sites root)
    (hsupplies : site.Supplies state message factory)
    (hthunk : executeThunk? (.expr factory) site.scopes = some thunk) :
    thunk.node ∈ root.preorder ∧ thunk.node.kind ∈ functionKinds := by
  obtain ⟨f, chain, product, execute, chain', hlocate, hproduct, hexecute, hthunk⟩ :=
    executeThunk?_eq_some_iff.1 hthunk
  obtain ⟨above, hf, hinner⟩ := hsupplies.exists_lineage hsite hlocate
  rw [hinner] at hthunk
  refine mem_preorder_of_locate ?_ (hsupplies.execute_mem_preorder hsite hlocate hproduct hexecute)
    hthunk
  intro a ha
  rcases List.mem_cons.1 ha with rfl | ha
  · exact mem_preorder_iff.2 ⟨above, hf⟩
  · exact hf.mem_preorder_of_mem_above ha

end Commands

/-! ## Diagnostics that are never refused -/

/-- The gap between declared and observed states, built by the constructor that
refuses bad parts. -/
def coverageGapChecked (state message : String) (declared observed : List String)
    (location : Location) (path? : Option String) (severity : Severity) :
    Except DiagnosticFault (Option Diagnostic) :=
  if observed.length = 0 ∨ declared.length ≤ observed.length then .ok none
  else
    let kind := if observed.length = 1 then GapKind.alwaysSameState else .partialUnion
    (Diagnostic.ofCount? kind state message declared.length declared observed location).map
      fun d => some { d with path?, severity }

/-- Parts are accepted if some states are observed, but fewer than declared. -/
theorem Diagnostic.ofCount?_eq_ok (kind : GapKind) (state message : String)
    {declared observed : List String} (location : Location) (hsome : observed ≠ [])
    (hfewer : observed.length < declared.length) :
    Diagnostic.ofCount? kind state message declared.length declared observed location =
      .ok ⟨kind, state, message, declared, observed, location, none, .error, hsome, hfewer⟩ := by
  unfold Diagnostic.ofCount?
  rw [if_neg (by simp), dif_neg hsome, dif_pos hfewer]

theorem coverageGapChecked_eq_ok (state message : String) (declared observed : List String)
    (location : Location) (path? : Option String) (severity : Severity) :
    coverageGapChecked state message declared observed location path? severity =
      .ok (coverageGap? state message declared observed location path? severity) := by
  unfold coverageGapChecked coverageGap?
  by_cases hempty : observed = []
  · rw [if_pos (.inl (by rw [hempty]; rfl)), dif_neg (fun h => h.1 hempty)]
  · by_cases hfewer : observed.length < declared.length
    · have hpos := List.length_pos_iff.2 hempty
      rw [if_neg (by omega), dif_pos ⟨hempty, hfewer⟩]
      show (Diagnostic.ofCount? _ _ _ _ _ _ _).map _ = _
      rw [Diagnostic.ofCount?_eq_ok _ _ _ _ hempty hfewer]
      rfl
    · rw [if_pos (.inr (Nat.not_lt.1 hfewer)), dif_neg (fun h => hfewer h.2)]

/-- The gap of a command, by the checked constructor. -/
def Command.gapChecked (c : Command) (scopes : List Scope) (path? : Option String)
    (severity : Severity) : Except DiagnosticFault (Option Diagnostic) :=
  match c.thunk? scopes with
  | none => .ok none
  | some thunk => coverageGapChecked c.state c.message c.declared (returnedStates thunk)
      (.ofSpan thunk.span) path? severity

theorem Command.gapChecked_eq_ok (c : Command) (scopes : List Scope) (path? : Option String)
    (severity : Severity) :
    c.gapChecked scopes path? severity = .ok (c.gap? scopes path? severity) := by
  rw [Command.gapChecked, Command.gap?_eq_bind]
  cases c.thunk? scopes with
  | none => rfl
  | some thunk => exact coverageGapChecked_eq_ok ..

/-- The gaps of a site, by the checked constructor. -/
def Site.gapsChecked (s : Site) (path? : Option String) (severity : Severity) :
    Except DiagnosticFault (List Diagnostic) := do
  let found ← s.commandsToCheck.mapM fun c => c.gapChecked s.scopes path? severity
  return found.reduceOption

theorem Site.gapsChecked_eq_ok (s : Site) (path? : Option String) (severity : Severity) :
    s.gapsChecked path? severity = .ok (s.gaps path? severity) := by
  have each : (fun c : Command => c.gapChecked s.scopes path? severity) =
      fun c => pure (c.gap? s.scopes path? severity) :=
    funext fun c => c.gapChecked_eq_ok s.scopes path? severity
  rw [Site.gapsChecked, each, List.mapM_pure, Site.gaps]
  show Except.ok ((s.commandsToCheck.map fun c => c.gap? s.scopes path? severity).filterMap id) = _
  rw [List.filterMap_map]
  rfl

/-- The check of a tree with every diagnostic built by the checked constructor;
the first that is refused ends it. -/
def analyzeChecked (settings : Settings) (path? : Option String) (root : Node) :
    Except DiagnosticFault (List Diagnostic) :=
  if settings.enabled then do
    let found ← (sites root).mapM fun s => s.gapsChecked path? settings.severity
    return found.flatten
  else .ok []

/-- No diagnostic is refused. -/
theorem analyzeChecked_eq_ok (settings : Settings) (path? : Option String) (root : Node) :
    analyzeChecked settings path? root = .ok (analyze settings path? root) := by
  unfold analyzeChecked analyze
  by_cases enabled : settings.enabled = true
  · have each : (fun s : Site => s.gapsChecked path? settings.severity) =
        fun s => pure (s.gaps path? settings.severity) :=
      funext fun s => s.gapsChecked_eq_ok path? settings.severity
    rw [if_pos enabled, if_pos enabled, each, List.mapM_pure]
    show Except.ok _ = _
    rw [List.flatMap_def]
  · rw [if_neg enabled, if_neg enabled]

/-! ## What a diagnostic is made of -/

theorem nodup_record {found ids : List String} (h : found.Nodup) : (record found ids).Nodup := by
  induction ids generalizing found with
  | nil => exact h
  | cons i ids ih =>
    rw [record, List.foldl_cons, ← record]
    by_cases hi : i ∈ found
    · rw [if_pos hi]
      exact ih h
    · rw [if_neg hi]
      refine ih (List.nodup_append.2 ⟨h, List.pairwise_singleton _ i, ?_⟩)
      intro a ha b hb
      rw [List.mem_singleton.1 hb]
      exact fun hai => hi (hai ▸ ha)

/-- A thunk is found to return each state once. -/
theorem nodup_returnedStates (t : Callable) : (returnedStates t).Nodup := by
  rw [returnedStates, collectStates_eq]
  exact nodup_record List.nodup_nil

/-- `k` is a string-literal key of a dict display inside the node. -/
def Node.HasKey (n : Node) (k : String) : Prop :=
  ∃ span es keySpan v, Node.expr (.dict span es) ∈ n.preorder ∧ Entry.pair (.text keySpan k) v ∈ es

theorem EffectiveEntry.hasKey {es : List Entry} {k : String} {v : Expr} {n : Node} {span : Span}
    (h : EffectiveEntry es k v) (hn : Node.expr (.dict span es) ∈ n.preorder) : n.HasKey k := by
  obtain ⟨keySpan, hmem⟩ := h.mem
  exact ⟨span, es, keySpan, v, hn, hmem⟩

/-- The `config` and `commands` displays of a site, as nodes inside its call. -/
structure Site.Displays (site : Site) (config commands : Node) : Prop where
  config_eq : ∃ span, config = .expr (.dict span site.config)
  commands_eq : ∃ span, commands = .expr (.dict span site.commands)
  config_mem : config ∈ (Node.expr (.call site.call)).preorder
  commands_mem : commands ∈ (Node.expr (.call site.call)).preorder

theorem exists_displays {root : Node} {site : Site} (hsite : site ∈ sites root) :
    ∃ config commands, site.Displays config commands := by
  obtain ⟨n, around, -, hat⟩ := mem_sites_iff.1 hsite
  obtain ⟨span, hconfig⟩ := hat.builds.config
  obtain ⟨span', hcommands⟩ := hat.builds.commands
  exact ⟨_, _, ⟨span, rfl⟩, ⟨span', rfl⟩, hconfig.directlyBelow.mem_preorder,
    hcommands.directlyBelow.mem_preorder⟩

/-- What `config` declares are string literals inside it, under string-literal
keys inside it. -/
theorem Declares.mem_preorder {config : List Entry} {state message : String}
    {targets : List String} (h : Declares config state message targets) (span : Span) :
    (Node.expr (.dict span config)).HasKey state ∧
      (Node.expr (.dict span config)).HasKey message ∧
      ∀ s ∈ targets, ∃ textSpan,
        Node.expr (.text textSpan s) ∈ (Node.expr (.dict span config)).preorder := by
  obtain ⟨inner, on, seqSpan, form, elements, ⟨innerSpan, hstate⟩, ⟨onSpan, hon⟩, hmessage, rfl⟩ := h
  have hinner := hstate.mem_preorder span
  have honmem := mem_preorder_trans (hon.mem_preorder innerSpan) hinner
  have hseq := mem_preorder_trans (hmessage.mem_preorder onSpan) honmem
  refine ⟨hstate.hasKey (Node.mem_preorder_self _), hmessage.hasKey honmem, ?_⟩
  intro s hs
  obtain ⟨e, he, htext⟩ := List.mem_filterMap.1 hs
  obtain ⟨textSpan, rfl⟩ := Expr.text?_eq_some_iff.1 htext
  have hchild : Node.expr (.text textSpan s) ∈
      (Node.expr (.sequence seqSpan form elements)).children := by
    simp [Node.children, Expr.children, he]
  exact ⟨textSpan, mem_preorder_trans (Node.mem_preorder_of_mem_children hchild) hseq⟩

/-- The state and the message of a command are string-literal keys inside
`commands`. -/
theorem Site.Supplies.hasKey {site : Site} {state message : String} {factory : Expr}
    (h : site.Supplies state message factory) (span : Span) :
    (Node.expr (.dict span site.commands)).HasKey state ∧
      (Node.expr (.dict span site.commands)).HasKey message := by
  obtain ⟨factories, ⟨factoriesSpan, hstate⟩, hmessage⟩ := h
  exact ⟨hstate.hasKey (Node.mem_preorder_self _), hmessage.hasKey (hstate.mem_preorder span)⟩

/-- The diagnostic is about a function of the tree: it is reported at the
function's place, and the observed states are string literals inside it. -/
def Diagnostic.ObservedIn (d : Diagnostic) (root : Node) : Prop :=
  ∃ n ∈ root.preorder, n.kind ∈ functionKinds ∧
    (∃ span, n.span? = some span ∧ d.PointsAt span) ∧
    ∀ s ∈ d.observed, ∃ span, Node.expr (.text span s) ∈ n.preorder

/-- The diagnostic is about a site of the tree: the declared states are string
literals inside its `config`, and state and message are string-literal keys
inside its `config` and inside its `commands`. -/
def Diagnostic.DeclaredIn (d : Diagnostic) (root : Node) : Prop :=
  ∃ site ∈ sites root, ∃ config commands, site.Displays config commands ∧
    (∀ s ∈ d.declared, ∃ span, Node.expr (.text span s) ∈ config.preorder) ∧
    ∀ k ∈ [d.state, d.message], config.HasKey k ∧ commands.HasKey k

/-- **Findings are made of the tree.**  The check with the constructor that
refuses bad parts never fails and gives the same diagnostics; each of them has
its place, its states and its names from the tree, and its other parts fit
together. -/
theorem analyze_provenance (settings : Settings) (path? : Option String) (root : Node) :
    analyzeChecked settings path? root = .ok (analyze settings path? root) ∧
      ∀ d ∈ analyze settings path? root,
        d.ObservedIn root ∧ d.DeclaredIn root ∧ d.observed.Nodup ∧
        1 ≤ d.observed.length ∧ d.observed.length < d.declared.length ∧
        (d.kind = .alwaysSameState ↔ d.observed.length = 1) ∧
        (d.kind = .partialUnion ↔ d.observed.length ≠ 1) ∧
        d.severity = settings.severity ∧ d.path? = path? := by
  refine ⟨analyzeChecked_eq_ok settings path? root, ?_⟩
  intro d hd
  obtain ⟨site, hsite, hgap⟩ : ∃ site ∈ sites root, d ∈ site.gaps path? settings.severity := by
    unfold analyze at hd
    split at hd
    · exact List.mem_flatMap.1 hd
    · simp at hd
  obtain ⟨thunk, huncovered, hreports⟩ := uncovered_of_mem_gaps hgap
  obtain ⟨factory, hsupplies, hthunk⟩ := huncovered.supplies
  have hobserved := hreports.observed_eq
  refine ⟨?_, ?_, ?_, ?_, ?_, ?_, ?_, hreports.severity_eq, hreports.path_eq⟩
  · obtain ⟨hmem, hkind⟩ := mem_preorder_of_executeThunk? hsite hsupplies hthunk
    refine ⟨thunk.node, hmem, hkind, ⟨thunk.span, ?_, hreports.points_at⟩, ?_⟩
    · cases thunk <;> rfl
    · intro s hs
      exact exists_text_of_mem_returnedStates (hobserved ▸ hs)
  · obtain ⟨config, commands, hdisplays⟩ := exists_displays hsite
    refine ⟨site, hsite, config, commands, hdisplays, ?_⟩
    obtain ⟨span, rfl⟩ := hdisplays.config_eq
    obtain ⟨span', rfl⟩ := hdisplays.commands_eq
    obtain ⟨hstate, hmessage, htargets⟩ := huncovered.declares.mem_preorder span
    obtain ⟨hstate', hmessage'⟩ := hsupplies.hasKey span'
    refine ⟨htargets, ?_⟩
    intro k hk
    rcases List.mem_pair.1 hk with rfl | rfl
    · exact ⟨hstate, hstate'⟩
    · exact ⟨hmessage, hmessage'⟩
  · rw [hobserved]
    exact nodup_returnedStates thunk
  · rw [hobserved]
    exact huncovered.some_observed
  · rw [hobserved]
    exact huncovered.fewer_observed
  · rw [hobserved]
    exact hreports.kind_iff
  · rw [hobserved, ne_eq, ← hreports.kind_iff]
    cases d.kind <;> simp

theorem executeThunk?_heldFactory :
    executeThunk? (.expr (.name default "go" .load)) heldSite.scopes =
      some (loneThunk (stateDisplay "a")) :=
  executeThunk?_eq_some_iff.2 ⟨.block heldFactory, heldSite.scopes, _, _, _, locate_heldFactory, rfl,
    find?_textEntries_iff.1 rfl, rfl⟩

theorem heldSite_uncovered :
    heldSite.Uncovered "idle" "go" ["a", "b"] (loneThunk (stateDisplay "a")) where
  declares := ⟨_, _, default, .list, _, ⟨default, find?_textEntries_iff.1 rfl⟩,
    ⟨default, find?_textEntries_iff.1 rfl⟩, find?_textEntries_iff.1 rfl, rfl⟩
  supplies := ⟨_, ⟨_, ⟨default, find?_textEntries_iff.1 rfl⟩, find?_textEntries_iff.1 rfl⟩,
    executeThunk?_heldFactory⟩
  several := Nat.le_refl 2
  some_observed := by decide +kernel
  fewer_observed := by decide +kernel

/-- The machine in a class body has a finding about the thunk that it reaches by
the name of a factory. -/
theorem analyze_provenance_heldMachine :
    ∃ d ∈ analyze .standard (some "held.py") heldMachine, d.observed = ["a"] ∧
      d.ObservedIn heldMachine ∧ d.DeclaredIn heldMachine ∧ d.path? = some "held.py" := by
  obtain ⟨d, hgap, hreports⟩ :=
    exists_mem_gaps_of_uncovered heldSite_uncovered (some "held.py") .error
  have hmem : d ∈ analyze .standard (some "held.py") heldMachine :=
    List.mem_flatMap.2 ⟨heldSite, heldSite_mem_sites, hgap⟩
  obtain ⟨hobserved, hdeclared, -, -, -, -, -, -, hpath⟩ :=
    (analyze_provenance .standard (some "held.py") heldMachine).2 d hmem
  refine ⟨d, hmem, hreports.observed_eq.trans ?_, hobserved, hdeclared, hpath⟩
  decide +kernel

end StateCoverage
