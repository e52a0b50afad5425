import StateCoverage.Proofs.Provenance

/-!
# Findings depend on scopes only through the names that are looked up

The check looks up two kinds of names, the factories that `commands` gives and
the `execute` entries of the factories it finds, and both stand in the tree.
Two walks over the same statements therefore report the same if the scopes they
start with agree on the bare names of the tree.  Two changes of a module keep
the scopes in agreement.

* `ChainsAgree` — chains of scopes that agree on a set of names.
* `ChainsAgree.constructorCalls` — a walk keeps agreement from its start to
  every call.
* `gaps_eq_of_agree` — sites with chains in agreement have the same gaps.
* `analyze_insert` — a statement that is unrelated to a module adds nothing and
  hides nothing.
* `analyze_wrap` — the body of a function is checked like a module.
-/

namespace StateCoverage

/-! ## Chains that agree on names -/

namespace Scope

/-- Two scopes cannot be told apart by looking up names of the set. -/
structure Alike (names : String → Prop) (s t : Scope) : Prop where
  isClass_eq : s.isClass = t.isClass
  occurrences_eq : ∀ name, names name → s.occurrences name = t.occurrences name

variable {names : String → Prop} {s t : Scope} {name : String}

theorem Alike.refl (names : String → Prop) (s : Scope) : s.Alike names s :=
  ⟨rfl, fun _ _ => rfl⟩

/-- Scopes that are alike on a name bind it both or not at all. -/
theorem Alike.binds_eq (h : s.Alike names t) (hname : names name) :
    s.binds name = t.binds name := by
  rw [binds_eq_not_isEmpty, binds_eq_not_isEmpty, h.occurrences_eq name hname]

/-- Such a name stands for the same function in both scopes. -/
theorem Alike.function?_eq (h : s.Alike names t) (hname : names name) :
    s.function? name = t.function? name := by
  rw [Scope.function?, Scope.function?, h.occurrences_eq name hname]

end Scope

/-- Two chains agree on the names of a set: their scopes are alike one by one,
and what the second has beyond the end of the first are no classes and bind
none of the names. -/
inductive ChainsAgree (names : String → Prop) : List Scope → List Scope → Prop
  | idle {extra : List Scope} :
      (∀ s ∈ extra, s.isClass = false ∧ ∀ name, names name → s.binds name = false) →
      ChainsAgree names [] extra
  | cons {s t : Scope} {inner inner' : List Scope} : s.Alike names t →
      ChainsAgree names inner inner' → ChainsAgree names (s :: inner) (t :: inner')

/-- Two look-ups come to the same: both fail, or both find the same function, in
chains that agree again. -/
def SameFinding {α : Type} (names : String → Prop) (r r' : α × List Scope) : Prop :=
  r.1 = r'.1 ∧ ChainsAgree names r.2 r'.2

namespace ChainsAgree

variable {names : String → Prop} {chain chain' : List Scope} {name : String}

theorem visibleInside (h : ChainsAgree names chain chain') :
    ChainsAgree names (Scope.visibleInside chain) (Scope.visibleInside chain') := by
  induction h with
  | idle hextra => exact .idle fun s hs => hextra s (List.mem_filter.1 hs).1
  | @cons s t inner inner' halike hinner ih =>
    rw [Scope.visibleInside, Scope.visibleInside, List.filter_cons, List.filter_cons,
      ← halike.isClass_eq]
    cases s.isClass with
    | true => exact ih
    | false => exact .cons halike ih

theorem visibleScopes (h : ChainsAgree names chain chain') :
    ChainsAgree names (visibleScopes chain) (visibleScopes chain') := by
  cases h with
  | cons halike hinner => exact .cons halike hinner.visibleInside
  | idle hextra =>
    refine .idle ?_
    intro s hs
    cases chain' with
    | nil => simp [StateCoverage.visibleScopes] at hs
    | cons t extra =>
      rcases List.mem_cons.1 hs with rfl | hs
      · exact hextra s (List.mem_cons_self ..)
      · exact hextra s (List.mem_cons_of_mem _ (List.mem_filter.1 hs).1)

theorem innerScopes (h : ChainsAgree names chain chain') (f : Callable) :
    ChainsAgree names (f.innerScopes chain) (f.innerScopes chain') :=
  .cons (.refl names f.scope) h.visibleInside

/-- The step outwards: a name is found in corresponding scopes. -/
theorem lookup (h : ChainsAgree names chain chain') (hname : names name) :
    Option.Rel (SameFinding names) (Scope.lookup name chain) (Scope.lookup name chain') := by
  induction h with
  | @idle extra hextra =>
    -- the scopes beyond the end are passed one by one, and nothing is found
    have missing : Scope.lookup name extra = none := by
      induction extra with
      | nil => rfl
      | cons s extra ih =>
        have hs := (hextra s (List.mem_cons_self ..)).2 name hname
        rw [Scope.lookup, if_neg (by simp [hs])]
        exact ih fun t ht => hextra t (List.mem_cons_of_mem _ ht)
    rw [missing]
    exact .none
  | @cons s t inner inner' halike hinner ih =>
    rw [Scope.lookup, Scope.lookup, ← halike.binds_eq hname, ← halike.function?_eq hname]
    cases s.binds name with
    | false => exact ih
    | true =>
      cases s.function? name with
      | none => exact .none
      | some d => exact .some ⟨rfl, .cons halike hinner⟩

end ChainsAgree

/-- If the node is a bare name, then one of the set. -/
def Node.NamedIn (names : String → Prop) (n : Node) : Prop :=
  ∀ span id use, n = .expr (.name span id use) → names id

/-- A node that mentions only names of this kind stands for the same function. -/
theorem ChainsAgree.locate {names : String → Prop} {chain chain' : List Scope}
    (h : ChainsAgree names chain chain') {n : Node} (hn : n.NamedIn names) :
    Option.Rel (SameFinding names) (locate n chain) (locate n chain') := by
  unfold StateCoverage.locate
  split
  · exact .some ⟨rfl, h⟩
  · rename_i span id use _
    have found := h.lookup (hn span id use rfl)
    generalize Scope.lookup id chain = r at found
    generalize Scope.lookup id chain' = r' at found
    cases found with
    | none => exact .none
    | some hfound => exact .some ⟨congrArg Callable.block hfound.1, hfound.2⟩
  · exact .none

/-- Chains in agreement lead to the same thunk. -/
theorem ChainsAgree.executeThunk?_eq {names : String → Prop} {chain chain' : List Scope}
    (h : ChainsAgree names chain chain') {n : Node} (hn : n.NamedIn names)
    (hexecute : ∀ f definedIn product execute, StateCoverage.locate n chain = some (f, definedIn) →
      f.product? = some product → EffectiveEntry product "execute" execute →
      (Node.expr execute).NamedIn names) :
    executeThunk? n chain = executeThunk? n chain' := by
  have found := h.locate hn
  unfold executeThunk?
  generalize StateCoverage.locate n chain = r at found hexecute
  generalize StateCoverage.locate n chain' = r' at found
  cases found with
  | none => rfl
  | @some r r' hfound =>
    obtain ⟨f, definedIn⟩ := r
    obtain ⟨f', definedIn'⟩ := r'
    obtain ⟨rfl, hagree⟩ := hfound
    simp only [Option.bind_eq_bind, Option.bind_some]
    cases hproduct : f.product? with
    | none => rfl
    | some product =>
      rw [Option.bind_some, Option.bind_some]
      cases hentry : (textEntries product).find? "execute" with
      | none => rfl
      | some execute =>
        have hnamed := hexecute f definedIn product execute rfl hproduct
          (find?_textEntries_iff.1 hentry)
        have located := (hagree.innerScopes f).locate hnamed
        rw [Option.bind_some, Option.bind_some]
        generalize StateCoverage.locate (.expr execute) (f.innerScopes definedIn) = t at located
        generalize StateCoverage.locate (.expr execute) (f.innerScopes definedIn') = t' at located
        cases located with
        | none => rfl
        | some hthunk => exact congrArg some hthunk.1

/-! ## Walks that start with scopes in agreement -/

theorem forall₂_flatMap {α β γ : Type} {R : β → γ → Prop} {f : α → List β} {g : α → List γ}
    {xs : List α} (h : ∀ x ∈ xs, List.Forall₂ R (f x) (g x)) :
    List.Forall₂ R (xs.flatMap f) (xs.flatMap g) := by
  rw [List.flatMap_def, List.flatMap_def]
  refine List.rel_flatten ?_
  rw [List.forall₂_map_left_iff, List.forall₂_map_right_iff]
  exact List.forall₂_same.2 h

/-- The walk finds the same calls, with chains in agreement. -/
theorem ChainsAgree.constructorCalls {names : String → Prop} {chain chain' : List Scope}
    (h : ChainsAgree names chain chain') (n : Node) :
    List.Forall₂ (SameFinding names) (n.constructorCalls chain) (n.constructorCalls chain') := by
  induction n using Node.induction generalizing chain chain' with
  | step n ih =>
    have inside : ChainsAgree names (n.opens?.toList ++ chain) (n.opens?.toList ++ chain') := by
      cases n.opens? with
      | none => exact h
      | some s => exact .cons (.refl names s) h
    rw [Node.constructorCalls_eq, Node.constructorCalls_eq]
    refine List.rel_append ?_ (forall₂_flatMap fun c hc => ih c hc inside)
    cases n.constructorCall? with
    | none => exact .nil
    | some c => exact .cons ⟨rfl, inside.visibleScopes⟩ .nil

/-- Two sites are the same but for their chains, and these agree. -/
structure SitesAgree (names : String → Prop) (s t : Site) : Prop where
  call_eq : s.call = t.call
  config_eq : s.config = t.config
  commands_eq : s.commands = t.commands
  scopes : ChainsAgree names s.scopes t.scopes

/-- Walks in agreement find sites in agreement. -/
theorem forall₂_sitesAgree {names : String → Prop} {found found' : List (Call × List Scope)}
    (h : List.Forall₂ (SameFinding names) found found') :
    List.Forall₂ (SitesAgree names) (found.filterMap Site.ofCall?)
      (found'.filterMap Site.ofCall?) := by
  refine List.rel_filterMap ?_ h
  rintro ⟨call, scopes⟩ ⟨call', scopes'⟩ ⟨rfl, hscopes⟩
  show Option.Rel _ (call.structures?.map _) (call.structures?.map _)
  cases call.structures? with
  | none => exact .none
  | some structures => exact .some ⟨rfl, rfl, rfl, hscopes⟩

/-- Of a list of statements, walks in agreement find sites in agreement. -/
theorem ChainsAgree.forall₂_sites {names : String → Prop} {chain chain' : List Scope}
    (h : ChainsAgree names chain chain') (body : List Stmt) :
    List.Forall₂ (SitesAgree names)
      ((body.flatMap fun s => (Node.stmt s).constructorCalls chain).filterMap Site.ofCall?)
      ((body.flatMap fun s => (Node.stmt s).constructorCalls chain').filterMap Site.ofCall?) :=
  forall₂_sitesAgree (forall₂_flatMap fun s _ => h.constructorCalls (.stmt s))

/-! ## Gaps of sites in agreement -/

/-- `id` occurs in the tree as a bare name. -/
def Node.Mentions (root : Node) (id : String) : Prop :=
  ∃ span use, Node.expr (.name span id use) ∈ root.preorder

theorem Node.namedIn_mentions {root n : Node} (h : n ∈ root.preorder) :
    n.NamedIn root.Mentions := by
  rintro span id use rfl
  exact ⟨span, use, h⟩

/-- Sites whose chains agree on the bare names of the tree have the same
gaps. -/
theorem gaps_eq_of_agree {root : Node} {site site' : Site} (hsite : site ∈ sites root)
    (h : SitesAgree root.Mentions site site') (path? : Option String) (severity : Severity) :
    site.gaps path? severity = site'.gaps path? severity := by
  have commands_eq : site.commandsToCheck = site'.commandsToCheck := by
    obtain ⟨call, config, commands, scopes⟩ := site
    obtain ⟨call', config', commands', scopes'⟩ := site'
    obtain ⟨rfl, rfl, rfl, -⟩ := h
    rfl
  rw [Site.gaps, Site.gaps, ← commands_eq]
  refine List.filterMap_congr ?_
  intro c hc
  obtain ⟨-, hsupplies, -⟩ := mem_commandsToCheck_iff.1 hc
  have thunk_eq : c.thunk? site.scopes = c.thunk? site'.scopes := by
    refine h.scopes.executeThunk?_eq (Node.namedIn_mentions (hsupplies.mem_preorder hsite)) ?_
    intro f definedIn product execute hlocate hproduct hexecute
    exact Node.namedIn_mentions
      (hsupplies.execute_mem_preorder hsite hlocate hproduct hexecute)
  rw [Command.gap?_eq_bind, Command.gap?_eq_bind, thunk_eq]

theorem flatMap_eq_of_forall₂ {α β γ : Type} {R : α → β → Prop} {f : α → List γ}
    {g : β → List γ} {xs : List α} {ys : List β} (h : List.Forall₂ R xs ys)
    (hfg : ∀ x ∈ xs, ∀ y, R x y → f x = g y) : xs.flatMap f = ys.flatMap g := by
  induction h with
  | nil => rfl
  | @cons x y xs ys hxy _ ih =>
    rw [List.flatMap_cons, List.flatMap_cons, hfg x (List.mem_cons_self ..) y hxy,
      ih fun z hz => hfg z (List.mem_cons_of_mem _ hz)]

/-- Trees with sites in agreement have the same diagnostics. -/
theorem analyze_eq_of_agree {root root' : Node}
    (h : List.Forall₂ (SitesAgree root.Mentions) (sites root) (sites root'))
    (settings : Settings) (path? : Option String) :
    analyze settings path? root = analyze settings path? root' := by
  unfold analyze
  have same := flatMap_eq_of_forall₂ h fun site hsite site' hagree =>
    gaps_eq_of_agree hsite hagree path? settings.severity
  rw [same]

/-! ## Modules -/

theorem sites_module (body : List Stmt) :
    sites (.module ⟨body⟩) =
      (body.flatMap fun s => (Node.stmt s).constructorCalls
        [.ofBody false .empty body]).filterMap Site.ofCall? := by
  rw [sites, Node.constructorCalls_eq, Node.children, List.flatMap_map]
  rfl

theorem mem_preorder_module_iff {body : List Stmt} {e : Expr} :
    Node.expr e ∈ (Node.module ⟨body⟩).preorder ↔
      ∃ s ∈ body, Node.expr e ∈ (Node.stmt s).preorder := by
  rw [Node.preorder_eq, List.mem_cons, Node.children, List.flatMap_map, List.mem_flatMap]
  simp

/-- A node without calls that build a machine has no sites, whatever the scopes
around it. -/
theorem filterMap_constructorCalls_eq_nil {n : Node} (h : ∀ x ∈ n.preorder, ¬x.BuildsMachine)
    (above : List Node) :
    (n.constructorCalls (above.filterMap Node.opens?)).filterMap Site.ofCall? = [] := by
  rw [constructorCalls_eq_filterMap_lineages, List.filterMap_filterMap, List.filterMap_eq_nil_iff]
  rintro ⟨x, xs⟩ hx
  have hpreorder : x ∈ n.preorder := by
    rw [← map_fst_lineages above n]
    exact List.mem_map.2 ⟨(x, xs), hx, rfl⟩
  show siteAt? (x, xs) = none
  rw [← Option.not_isSome_iff_eq_none, isSome_siteAt?_iff]
  exact h x hpreorder

theorem occurrences_ofBody_insert {B₁ B₂ : List Stmt} {x : Stmt} {name : String}
    (h : (Scope.ofBody false .empty [x]).binds name = false) :
    (Scope.ofBody false .empty (B₁ ++ x :: B₂)).occurrences name =
      (Scope.ofBody false .empty (B₁ ++ B₂)).occurrences name := by
  have unbound := Scope.binds_eq_false_iff.1 h
  simp only [Scope.occurrences, Scope.ofBody, List.flatMap_append, List.flatMap_cons,
    List.flatMap_nil, List.filter_append, List.append_nil] at unbound ⊢
  rw [(List.append_eq_nil_iff.1 unbound).2, List.nil_append]

/-- **Unrelated code changes no finding.**  A statement that builds no machine,
and binds none of the bare names of the other statements, can be put anywhere
into a module. -/
theorem analyze_insert (settings : Settings) (path? : Option String) (B₁ B₂ : List Stmt)
    (x : Stmt) (hx : ∀ n ∈ (Node.stmt x).preorder, ¬n.BuildsMachine)
    (unrelated : ∀ name, (Scope.ofBody false .empty [x]).binds name = true →
      ∀ s ∈ B₁ ++ B₂, ∀ span use, Node.expr (.name span name use) ∉ (Node.stmt s).preorder) :
    analyze settings path? (.module ⟨B₁ ++ [x] ++ B₂⟩) =
      analyze settings path? (.module ⟨B₁ ++ B₂⟩) := by
  rw [List.append_assoc, List.singleton_append]
  symm
  refine analyze_eq_of_agree ?_ settings path?
  have agree : ChainsAgree (Node.module ⟨B₁ ++ B₂⟩).Mentions
      [.ofBody false .empty (B₁ ++ B₂)] [.ofBody false .empty (B₁ ++ x :: B₂)] := by
    refine .cons ⟨rfl, ?_⟩ (.idle (by simp))
    rintro name ⟨span, use, hmem⟩
    obtain ⟨s, hs, hmem⟩ := mem_preorder_module_iff.1 hmem
    refine (occurrences_ofBody_insert ?_).symm
    by_contra hbinds
    exact unrelated name (Bool.not_eq_false _ ▸ hbinds) s hs span use hmem
  have silent : ((Node.stmt x).constructorCalls [.ofBody false .empty (B₁ ++ x :: B₂)]).filterMap
      Site.ofCall? = [] :=
    filterMap_constructorCalls_eq_nil hx [.module ⟨B₁ ++ x :: B₂⟩]
  rw [sites_module, sites_module]
  simp only [List.flatMap_append, List.flatMap_cons, List.filterMap_append, silent,
    List.nil_append]
  exact List.rel_append (agree.forall₂_sites B₁) (agree.forall₂_sites B₂)

/-- `StateMachine({...})` as a statement, with the factory `go` by its name. -/
def namedMachine : Stmt :=
  .simple default .expression [.call (loneCall (.name default "go" .load))]

/-- The name that a node is, if it is a bare name. -/
def Node.bareName? : Node → Option String
  | .expr (.name _ id _) => some id
  | _ => none

theorem not_mem_preorder_of_bareNames {name : String} {B : List Stmt}
    (h : name ∉ B.flatMap fun s => (Node.stmt s).preorder.filterMap Node.bareName?) :
    ∀ s ∈ B, ∀ span use, Node.expr (.name span name use) ∉ (Node.stmt s).preorder := by
  intro s hs span use hmem
  exact h (List.mem_flatMap.2 ⟨s, hs, List.mem_filterMap.2 ⟨_, hmem, rfl⟩⟩)

/-- `import helper`. -/
def helperImport : Stmt := .importing default false [⟨default, "helper", none⟩]

theorem bindings_helperImport :
    (Scope.ofBody false .empty [helperImport]).bindings = [.other "helper"] := by
  simp [Scope.ofBody, Params.empty, Params.names, Params.all, helperImport, Node.bindings_eq,
    Node.ownBindings, Node.sameScope, Node.children, Stmt.children, Alias.boundName]

/-- An import of a name that a module does not use can stand between a factory
and the machine that uses it. -/
theorem analyze_insert_helperImport :
    (∀ n ∈ (Node.stmt helperImport).preorder, ¬n.BuildsMachine) ∧
      (Scope.ofBody false .empty [helperImport]).binds "helper" = true ∧
      analyze .standard none
          (.module ⟨[.function heldFactory] ++ [helperImport] ++ [namedMachine]⟩) =
        analyze .standard none (.module ⟨[.function heldFactory] ++ [namedMachine]⟩) := by
  have silent : ∀ n ∈ (Node.stmt helperImport).preorder, ¬n.BuildsMachine := by decide +kernel
  refine ⟨silent, by rw [Scope.binds, bindings_helperImport]; rfl, ?_⟩
  refine analyze_insert .standard none _ _ _ silent ?_
  intro name hbinds
  rw [Scope.binds, bindings_helperImport] at hbinds
  obtain rfl : "helper" = name := by simpa [Binding.other] using hbinds
  exact not_mem_preorder_of_bareNames (by decide +kernel)

/-- `def name(): body`, with or without a return annotation. -/
def wrap (span : Span) (name : String) (body : List Stmt) (returns? : Option Expr) :
    FunctionDef where
  span := span
  isAsync := false
  name := name
  params := .empty
  body := body
  decorators := []
  returns? := returns?

/-- A body inside a `def` is hidden: the module binds the one name. -/
theorem bindings_wrap (span : Span) (name : String) (body : List Stmt) (returns? : Option Expr) :
    (Scope.ofBody false .empty [.function (wrap span name body returns?)]).bindings =
      [⟨name, some (wrap span name body returns?)⟩] := by
  simp [Scope.ofBody, Params.empty, Params.names, Params.all, Node.bindings_eq, Node.ownBindings,
    Node.sameScope, wrap, Params.defaults, Params.kwDefaults]

theorem children_wrap (span : Span) (name : String) (body : List Stmt) (returns? : Option Expr) :
    (Node.stmt (.function (wrap span name body returns?))).children =
      .params .empty :: (body.map .stmt ++ returns?.toList.map .expr) := by
  simp [Node.children, Stmt.children, wrap]

theorem constructorCalls_params_empty (chain : List Scope) :
    (Node.params .empty).constructorCalls chain = [] := by
  rw [Node.constructorCalls_eq]
  rfl

/-- The walk of the function meets the wrapped statements and then the
annotation, with the scope of the function around them. -/
theorem constructorCalls_wrap (span : Span) (w : String) (B : List Stmt) (returns? : Option Expr)
    (chain : List Scope) :
    (Node.stmt (.function (wrap span w B returns?))).constructorCalls chain =
      (B.flatMap fun s => (Node.stmt s).constructorCalls (.ofBody false .empty B :: chain)) ++
        returns?.toList.flatMap fun r =>
          (Node.expr r).constructorCalls (.ofBody false .empty B :: chain) := by
  rw [Node.constructorCalls_eq, children_wrap, List.flatMap_cons, constructorCalls_params_empty,
    List.flatMap_append, List.flatMap_map, List.flatMap_map]
  rfl

/-- The sites of the wrapped statements are those found with the scope of the
function and that of the module around them. -/
theorem sites_wrap {span : Span} {w : String} {B : List Stmt} {returns? : Option Expr}
    (hreturns : ∀ r, returns? = some r → ∀ n ∈ (Node.expr r).preorder, ¬n.BuildsMachine) :
    sites (.module ⟨[.function (wrap span w B returns?)]⟩) =
      (B.flatMap fun s => (Node.stmt s).constructorCalls [.ofBody false .empty B,
        .ofBody false .empty [.function (wrap span w B returns?)]]).filterMap Site.ofCall? := by
  have annotation : (returns?.toList.flatMap fun r => (Node.expr r).constructorCalls
      [.ofBody false .empty B, .ofBody false .empty [.function (wrap span w B returns?)]]).filterMap
        Site.ofCall? = [] := by
    rw [List.filterMap_flatMap, List.flatMap_eq_nil_iff]
    intro r hr
    exact filterMap_constructorCalls_eq_nil (hreturns r (Option.mem_toList.1 hr))
      [.stmt (.function (wrap span w B returns?)), .module ⟨[.function (wrap span w B returns?)]⟩]
  rw [sites_module, List.flatMap_singleton, constructorCalls_wrap, List.filterMap_append,
    annotation, List.append_nil]

/-- **A whole module can be moved into a function.**  The function takes no
parameters, has no decorators and a name that the module does not use; then the
findings are the same. -/
theorem analyze_wrap (settings : Settings) (path? : Option String) (B : List Stmt)
    (w : String) (hw : ∀ s ∈ B, ∀ span use, Node.expr (.name span w use) ∉ (Node.stmt s).preorder)
    (span : Span) (returns? : Option Expr)
    (hreturns : ∀ r, returns? = some r → ∀ n ∈ (Node.expr r).preorder, ¬n.BuildsMachine) :
    analyze settings path? (.module ⟨[.function (wrap span w B returns?)]⟩) =
      analyze settings path? (.module ⟨B⟩) := by
  symm
  refine analyze_eq_of_agree ?_ settings path?
  have agree : ChainsAgree (Node.module ⟨B⟩).Mentions [.ofBody false .empty B]
      [.ofBody false .empty B,
        .ofBody false .empty [.function (wrap span w B returns?)]] := by
    refine .cons (.refl _ _) (.idle ?_)
    intro s hs
    rw [List.mem_singleton.1 hs]
    refine ⟨rfl, ?_⟩
    rintro name ⟨nameSpan, use, hmem⟩
    obtain ⟨t, ht, hmem⟩ := mem_preorder_module_iff.1 hmem
    have hne : w ≠ name := by
      rintro rfl
      exact hw t ht nameSpan use hmem
    rw [Scope.binds, bindings_wrap]
    simp [hne]
  rw [sites_module, sites_wrap hreturns]
  exact agree.forall₂_sites B

/-- A factory and the machine that uses it can be moved into a function. -/
theorem analyze_wrap_namedMachine :
    (∀ s ∈ [.function heldFactory, namedMachine], ∀ span use,
        Node.expr (.name span "main" use) ∉ (Node.stmt s).preorder) ∧
      analyze .standard none (.module
          ⟨[.function (wrap default "main" [.function heldFactory, namedMachine] none)]⟩) =
        analyze .standard none (.module ⟨[.function heldFactory, namedMachine]⟩) := by
  have unused : ∀ s ∈ [.function heldFactory, namedMachine], ∀ span use,
      Node.expr (.name span "main" use) ∉ (Node.stmt s).preorder :=
    not_mem_preorder_of_bareNames (by decide +kernel)
  exact ⟨unused, analyze_wrap .standard none _ "main" unused default none (by simp)⟩

end StateCoverage
