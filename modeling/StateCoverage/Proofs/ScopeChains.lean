import StateCoverage.Proofs.Gaps
import StateCoverage.Proofs.Sites

/-!
# Scopes of a resolved factory and scopes of its place

The scopes in which the names of a factory are resolved are computed from the
site that uses the factory: the site's chain is cut where the factory's name is
bound.  The walk over the tree computes the scopes of a site from the nodes
above it.  Both give the same scopes for code directly inside a factory.

The link between the two is where a `def` stands.  A scope that binds a name to
a `def` was opened by a node that has this `def` below it, with no other scope
in between.

* `DirectlyBelow` — an occurrence below a node with no scope opened in between.
* `exists_directlyBelow_of_function?` — where the `def` of a scope stands.
* `exists_ancestor_of_scopesAround_eq` — cutting the scopes around an
  occurrence is cutting the list of its ancestors.
* `innerScopes_eq_scopesAround` — the two computations agree.
-/

namespace StateCoverage

/-! ## Below a node, in the same scope -/

/-- `x` occurs at or below `n`, and of the nodes above it, down from `n`, none
opens a scope. -/
def DirectlyBelow (n x : Node) : Prop :=
  ∃ between, Lineage n x between ∧ between.filterMap Node.opens? = []

theorem DirectlyBelow.refl (n : Node) : DirectlyBelow n n :=
  ⟨[], .root, rfl⟩

theorem DirectlyBelow.of_mem_children {n c : Node} (hn : n.opens? = none)
    (hc : c ∈ n.children) : DirectlyBelow n c :=
  ⟨[n], .child .root hc, by simp [hn]⟩

theorem DirectlyBelow.trans {n x y : Node} (hx : DirectlyBelow n x) (hy : DirectlyBelow x y) :
    DirectlyBelow n y := by
  obtain ⟨between, hx, hopen⟩ := hx
  obtain ⟨between', hy, hopen'⟩ := hy
  exact ⟨between' ++ between, hy.trans hx, by rw [List.filterMap_append, hopen, hopen']; rfl⟩

/-! ## Where the `def` of a binding stands -/

theorem Node.eq_function_of_mem_ownBindings {n : Node} {b : Binding} {d : FunctionDef}
    (hb : b ∈ n.ownBindings) (hd : b.function? = some d) : n = .stmt (.function d) := by
  unfold Node.ownBindings at hb
  split at hb
  · rename_i f
    rw [List.mem_singleton.1 hb] at hd
    by_cases hf : f.isAsync = true
    · simp [hf] at hd
    · simp [hf] at hd
      rw [hd]
  -- every other binding is one by no `def`
  all_goals
    exfalso
    grind [Binding.other]

/-- The nodes that share the scope of a node are expressions, or children of a
node that opens no scope. -/
theorem Node.mem_sameScope {n c : Node} (hn : ∀ m, n ≠ .module m) (hc : c ∈ n.sameScope) :
    (∃ e, c = .expr e) ∨ n.opens? = none ∧ c ∈ n.children := by
  unfold Node.sameScope at hc
  split at hc
  · obtain ⟨e, -, rfl⟩ := List.mem_map.1 hc
    exact .inl ⟨e, rfl⟩
  · obtain ⟨e, -, rfl⟩ := List.mem_map.1 hc
    exact .inl ⟨e, rfl⟩
  · simp at hc
  · simp at hc
  · refine .inr ⟨?_, hc⟩
    unfold Node.opens?
    split <;> simp_all

theorem Node.mem_children_of_mem_sameScope {n c : Node} (hn : n.isBlock = false)
    (hc : c ∈ n.sameScope) : c ∈ n.children := by
  unfold Node.sameScope at hc
  split at hc
  · simp at hn
  · simp at hn
  · simp at hc
  · simp at hc
  · exact hc

/-- No `def` is bound at or below an expression. -/
theorem Node.function?_eq_none_of_isBlock_eq_false {n : Node} {b : Binding}
    (hn : n.isBlock = false) (hm : ∀ m, n ≠ .module m) (hb : b ∈ n.bindings) :
    b.function? = none := by
  induction n using Node.induction with
  | step n ih =>
    rw [Node.bindings_eq, List.mem_append, List.mem_flatMap] at hb
    rcases hb with hb | ⟨c, hc, hb⟩
    · rw [Option.eq_none_iff_forall_ne_some]
      intro d hd
      rw [Node.eq_function_of_mem_ownBindings hb hd] at hn
      simp at hn
    · have hchild := Node.mem_children_of_mem_sameScope hn hc
      exact ih c hchild (Node.isBlock_eq_false_of_mem_children hn hm hchild)
        (Node.ne_module_of_mem_children hchild) hb

/-- The `def` of a binding stands below the node that contributes the binding,
and in the same scope. -/
theorem Node.directlyBelow_of_mem_bindings {n : Node} {b : Binding} {d : FunctionDef}
    (hn : ∀ m, n ≠ .module m) (hb : b ∈ n.bindings) (hd : b.function? = some d) :
    DirectlyBelow n (.stmt (.function d)) := by
  induction n using Node.induction with
  | step n ih =>
    rw [Node.bindings_eq, List.mem_append, List.mem_flatMap] at hb
    rcases hb with hb | ⟨c, hc, hb⟩
    · rw [← Node.eq_function_of_mem_ownBindings hb hd]
      exact .refl n
    · rcases Node.mem_sameScope hn hc with ⟨e, rfl⟩ | ⟨hopens, hchild⟩
      · have := Node.function?_eq_none_of_isBlock_eq_false rfl (by simp) hb
        simp [this] at hd
      · exact (DirectlyBelow.of_mem_children hopens hchild).trans
          (ih c hchild (Node.ne_module_of_mem_children hchild) hb)

theorem Node.opens?_eq_some {n : Node} {s : Scope} (h : n.opens? = some s) :
    ∃ isClass params body, s = .ofBody isClass params body ∧
      ∀ t ∈ body, Node.stmt t ∈ n.children := by
  unfold Node.opens? at h
  split at h
  · exact ⟨_, _, _, (Option.some.inj h).symm, by simp [Node.children]⟩
  · exact ⟨_, _, _, (Option.some.inj h).symm, by simp [Node.children, Stmt.children]⟩
  · exact ⟨_, _, _, (Option.some.inj h).symm, by simp [Node.children, Stmt.children]⟩
  · exact ⟨_, _, _, (Option.some.inj h).symm, by simp⟩
  · simp at h

theorem Scope.exists_mem_bindings_of_function? {s : Scope} {name : String} {d : FunctionDef}
    (h : s.function? name = some d) : ∃ b ∈ s.bindings, b.function? = some d := by
  unfold Scope.function? at h
  split at h
  · rename_i b hb
    have mem : b ∈ s.occurrences name := hb ▸ List.mem_singleton_self b
    exact ⟨b, (List.mem_filter.1 mem).1, h⟩
  · simp at h

/-- The `def` that a scope binds to a name stands below the node that opens the
scope, and with no other scope in between. -/
theorem exists_directlyBelow_of_function? {n : Node} {s : Scope} {name : String} {d : FunctionDef}
    (hs : n.opens? = some s) (hd : s.function? name = some d) :
    ∃ c ∈ n.children, DirectlyBelow c (.stmt (.function d)) := by
  obtain ⟨isClass, params, body, rfl, hbody⟩ := Node.opens?_eq_some hs
  obtain ⟨b, hb, hbd⟩ := Scope.exists_mem_bindings_of_function? hd
  rcases List.mem_append.1 hb with hb | hb
  · obtain ⟨p, -, rfl⟩ := List.mem_map.1 hb
    simp [Binding.other] at hbd
  · obtain ⟨t, ht, hb⟩ := List.mem_flatMap.1 hb
    exact ⟨.stmt t, hbody t ht, Node.directlyBelow_of_mem_bindings (by simp) hb hbd⟩

/-! ## Cutting a chain of scopes -/

theorem Scope.binds_eq_not_isEmpty (s : Scope) (name : String) :
    s.binds name = !(s.occurrences name).isEmpty := by
  rw [Scope.binds, Scope.occurrences]
  induction s.bindings with
  | nil => rfl
  | cons b bs ih => by_cases hb : b.name = name <;> simp [hb, ih]

theorem Scope.binds_eq_false_iff {s : Scope} {name : String} :
    s.binds name = false ↔ s.occurrences name = [] := by
  rw [Scope.binds_eq_not_isEmpty, Bool.not_eq_false', List.isEmpty_iff]

/-- A look-up returns the chain from the scope that binds the name; the scopes
before it do not bind the name. -/
theorem Scope.lookup_eq_some {name : String} {scopes chain : List Scope} {d : FunctionDef}
    (h : Scope.lookup name scopes = some (d, chain)) :
    ∃ inner s outer, scopes = inner ++ s :: outer ∧ chain = s :: outer ∧
      s.function? name = some d ∧ ∀ t ∈ inner, t.binds name = false := by
  induction scopes with
  | nil => simp [Scope.lookup] at h
  | cons s scopes ih =>
    rw [Scope.lookup] at h
    by_cases hbinds : s.binds name = true
    · rw [if_pos hbinds, Option.map_eq_some_iff] at h
      obtain ⟨f, hf, heq⟩ := h
      obtain ⟨rfl, rfl⟩ := Prod.mk.inj heq
      exact ⟨[], s, scopes, rfl, rfl, hf, by simp⟩
    · rw [if_neg hbinds] at h
      obtain ⟨inner, t, outer, rfl, hchain, hd, hinner⟩ := ih h
      refine ⟨s :: inner, t, outer, rfl, hchain, hd, ?_⟩
      intro u hu
      rcases List.mem_cons.1 hu with rfl | hu
      · exact Bool.eq_false_iff.2 hbinds
      · exact hinner u hu

theorem Scope.visibleInside_visibleScopes (enclosing : List Scope) :
    Scope.visibleInside (visibleScopes enclosing) = Scope.visibleInside enclosing := by
  cases enclosing with
  | nil => rfl
  | cons s outer => simp [visibleScopes, Scope.visibleInside, List.filter_cons]

/-- Where a chain of visible scopes is cut, the enclosing scopes can be cut so
that the code of a new function sees the same of both. -/
theorem visibleScopes_eq_append {enclosing inner outer : List Scope} {s : Scope}
    (h : visibleScopes enclosing = inner ++ s :: outer) :
    ∃ nearer farther, enclosing = nearer ++ s :: farther ∧
      Scope.visibleInside (s :: outer) = Scope.visibleInside (s :: farther) := by
  cases enclosing with
  | nil => simp [visibleScopes] at h
  | cons t enclosing =>
    rw [visibleScopes] at h
    cases inner with
    | nil =>
      obtain ⟨rfl, rfl⟩ := List.cons.inj h
      exact ⟨[], enclosing, rfl, Scope.visibleInside_visibleScopes (t :: enclosing)⟩
    | cons u inner =>
      obtain ⟨rfl, houter⟩ := List.cons.inj h
      obtain ⟨nearer, rest, rfl, -, hrest⟩ := List.filter_eq_append_iff.1 houter
      obtain ⟨hidden, farther, rfl, -, -, rfl⟩ := List.filter_eq_cons_iff.1 hrest
      exact ⟨t :: (nearer ++ hidden), farther, by simp,
        Scope.visibleInside_visibleScopes (s :: farther)⟩

/-- Where the scopes around an occurrence are cut, its ancestors can be cut. -/
theorem exists_ancestor_of_scopesAround_eq {above : List Node} {inner outer : List Scope}
    {s : Scope} (h : scopesAround above = inner ++ s :: outer) :
    ∃ nearer n farther, above = nearer ++ n :: farther ∧ n.opens? = some s ∧
      Scope.visibleInside (s :: outer) =
        Scope.visibleInside ((n :: farther).filterMap Node.opens?) := by
  rw [scopesAround_eq] at h
  obtain ⟨opened, opened', hopens, hvisible⟩ := visibleScopes_eq_append h
  obtain ⟨nearer, rest, rfl, -, hrest⟩ := List.filterMap_eq_append_iff.1 hopens
  obtain ⟨closed, n, farther, rfl, -, hn, rfl⟩ := List.filterMap_eq_cons_iff.1 hrest
  refine ⟨nearer ++ closed, n, farther, by simp, hn, ?_⟩
  rw [List.filterMap_cons_some hn]
  exact hvisible

/-! ## Where a factory stands -/

theorem EffectiveEntry.directlyBelow {es : List Entry} {k : String} {v : Expr}
    (h : EffectiveEntry es k v) (span : Span) :
    DirectlyBelow (.expr (.dict span es)) (.expr v) := by
  obtain ⟨keySpan, hmem⟩ := h.mem
  refine .of_mem_children rfl (List.mem_append_right _ ?_)
  exact List.mem_map.2 ⟨.pair (.text keySpan k) v, hmem, rfl⟩

theorem Call.Passes.directlyBelow {c : Call} {k : String} {v : Expr} (h : c.Passes k v) :
    DirectlyBelow (.expr (.call c)) (.expr v) := by
  cases h with
  | @display span es hargs _ hentry =>
    have harg : DirectlyBelow (.expr (.call c)) (.expr (.dict span es)) :=
      .of_mem_children rfl (by simp [Node.children, Expr.children, hargs])
    exact harg.trans (hentry.directlyBelow span)
  | keywords _ _ hlast =>
    obtain ⟨before, w, after, hkeywords, -, rfl, -⟩ := hlast
    have hkeyword : DirectlyBelow (.expr (.call c)) (.keyword w) :=
      .of_mem_children rfl (by simp [Node.children, Expr.children, hkeywords])
    exact hkeyword.trans (.of_mem_children rfl (List.mem_singleton_self _))

/-- A factory stands below the call of its site, and in the same scope. -/
theorem SiteAt.directlyBelow {n : Node} {around : List Node} {site : Site}
    {state message : String} {factory : Expr} (hsite : SiteAt n around site)
    (hsupplies : site.Supplies state message factory) : DirectlyBelow n (.expr factory) := by
  obtain ⟨span, hcommands⟩ := hsite.builds.commands
  obtain ⟨factories, ⟨span', hstate⟩, hmessage⟩ := hsupplies
  rw [hsite.node_eq]
  exact (hcommands.directlyBelow.trans (hstate.directlyBelow span)).trans
    (hmessage.directlyBelow span')

theorem locate_expr_eq_some {e : Expr} {scopes chain : List Scope} {f : Callable}
    (h : locate (.expr e) scopes = some (f, chain)) :
    (.expr e = f.node ∧ chain = scopes) ∨
      ∃ name d, f = .block d ∧ Scope.lookup name scopes = some (d, chain) := by
  cases e with
  | lambda g =>
    obtain ⟨rfl, rfl⟩ := Prod.mk.inj (Option.some.inj h)
    exact .inl ⟨rfl, rfl⟩
  | name _ id _ =>
    obtain ⟨⟨d, outer⟩, hlookup, heq⟩ := Option.map_eq_some_iff.1 h
    obtain ⟨rfl, rfl⟩ := Prod.mk.inj heq
    exact .inr ⟨id, d, rfl, hlookup⟩
  | _ => simp [locate, Callable.ofNode?] at h

/-- A name that the first scope binds once and by a `def` is located there. -/
theorem locate_name_of_occurrences {s : Scope} {outer : List Scope} {name : String}
    {d : FunctionDef} (h : s.occurrences name = [⟨name, some d⟩]) (span : Span) (use : NameUse) :
    locate (.expr (.name span name use)) (s :: outer) = some (.block d, s :: outer) := by
  have hbinds : s.binds name = true := by
    rw [Scope.binds_eq_not_isEmpty, h]
    rfl
  have hfunction : s.function? name = some d := by
    rw [Scope.function?, h]
  have hlookup : Scope.lookup name (s :: outer) = some (d, s :: outer) := by
    rw [Scope.lookup, if_pos hbinds, hfunction]
    rfl
  show (Scope.lookup name (s :: outer)).map (fun r => (Callable.block r.1, r.2)) = _
  rw [hlookup]
  rfl

/-- An occurrence below `above` stands in a scope around an occurrence below
`around`: they share the ancestors `outer`, and of the other nodes above the
first none opens a scope. -/
def StandsAround (above around : List Node) : Prop :=
  ∃ between outer, above = between ++ outer ∧ between.filterMap Node.opens? = [] ∧ outer <:+ around

/-- A located factory stands in a scope around its site, and the scopes it is
located in look from inside a function like those of its ancestors. -/
theorem exists_lineage_of_locate {root n : Node} {around : List Node} {site : Site}
    {state message : String} {factory : Expr} {f : Callable} {chain : List Scope}
    (hn : Lineage root n around) (hsite : SiteAt n around site)
    (hsupplies : site.Supplies state message factory)
    (hlocate : locate (.expr factory) site.scopes = some (f, chain)) :
    ∃ above, Lineage root f.node above ∧ StandsAround above around ∧
      Scope.visibleInside chain = Scope.visibleInside (above.filterMap Node.opens?) := by
  rcases locate_expr_eq_some hlocate with ⟨hnode, rfl⟩ | ⟨name, d, rfl, hlookup⟩
  · -- a lambda stands in the call itself, so its ancestors are those of the site
    obtain ⟨between, hbelow, hopen⟩ := hsite.directlyBelow hsupplies
    rw [hnode] at hbelow
    refine ⟨between ++ around, hbelow.trans hn,
      ⟨between, around, rfl, hopen, List.suffix_refl around⟩, ?_⟩
    rw [List.filterMap_append, hopen, List.nil_append, hsite.scopes_eq, scopesAround_eq]
    exact Scope.visibleInside_visibleScopes _
  · -- a `def` stands directly below the ancestor of the site that binds its name
    obtain ⟨inner, s, outer, hscopes, rfl, hd, -⟩ := Scope.lookup_eq_some hlookup
    obtain ⟨nearer, a, farther, rfl, ha, hvisible⟩ :=
      exists_ancestor_of_scopesAround_eq (hsite.scopes_eq.symm.trans hscopes)
    obtain ⟨c, hc, between, hbelow, hopen⟩ := exists_directlyBelow_of_function? ha hd
    have hancestor : Lineage root a farther := hn.ancestor
    refine ⟨between ++ a :: farther, hbelow.trans (.child hancestor hc),
      ⟨between, a :: farther, rfl, hopen, List.suffix_append nearer _⟩, ?_⟩
    rw [List.filterMap_append, hopen, List.nil_append]
    exact hvisible

/-! ## The two computations of scopes -/

theorem Callable.opens?_node (f : Callable) : f.node.opens? = some f.scope := by
  cases f <;> rfl

/-- **The chain of a located factory is the chain of its place.**  The function
that a factory of a site stands for occurs in the tree, in a scope around the
site.  The scopes visible inside it, as computed from the site, are its own and
those of its ancestors that are no classes; they are the ones that the walk
over the tree attaches to a constructor call anywhere inside the function and
inside no further scope. -/
theorem innerScopes_eq_scopesAround {root : Node} {site : Site} {state message : String}
    {factory : Expr} {f : Callable} {chain : List Scope} (hsite : site ∈ sites root)
    (hsupplies : site.Supplies state message factory)
    (hlocate : locate (.expr factory) site.scopes = some (f, chain)) :
    ∃ n around above, Lineage root n around ∧ SiteAt n around site ∧
      Lineage root f.node above ∧ StandsAround above around ∧
      f.innerScopes chain = f.scope :: Scope.visibleInside (above.filterMap Node.opens?) ∧
      ∀ inside : List Node, inside.filterMap Node.opens? = [] →
        f.innerScopes chain = scopesAround (inside ++ f.node :: above) ∧
        ∀ c : Call, c.isConstructor = true →
          ∃ below, (Node.expr (.call c)).constructorCalls
            ((inside ++ f.node :: above).filterMap Node.opens?) =
              (c, f.innerScopes chain) :: below := by
  obtain ⟨n, around, hn, hat⟩ := mem_sites_iff.1 hsite
  obtain ⟨above, hf, hstands, hvisible⟩ := exists_lineage_of_locate hn hat hsupplies hlocate
  have own : f.innerScopes chain =
      f.scope :: Scope.visibleInside (above.filterMap Node.opens?) := by
    rw [Callable.innerScopes, hvisible]
  refine ⟨n, around, above, hn, hat, hf, hstands, own, ?_⟩
  intro inside hinside
  have enclosing : (inside ++ f.node :: above).filterMap Node.opens? =
      f.scope :: above.filterMap Node.opens? := by
    rw [List.filterMap_append, hinside, List.nil_append,
      List.filterMap_cons_some f.opens?_node]
  have place : f.innerScopes chain = scopesAround (inside ++ f.node :: above) := by
    rw [own, scopesAround_eq, enclosing]
    rfl
  refine ⟨place, ?_⟩
  intro c hc
  have hcall : callAt? (.expr (.call c), inside ++ f.node :: above) =
      some (c, f.innerScopes chain) := by
    rw [callAt?, Node.constructorCall?_eq_some_iff.2 ⟨rfl, hc⟩, place]
    rfl
  rw [constructorCalls_eq_filterMap_lineages, Node.lineages_eq, List.filterMap_cons_some hcall]
  exact ⟨_, rfl⟩

/-- `def go(): return {"execute": lambda: {"id": "a"}}`. -/
def heldFactory : FunctionDef where
  span := default
  isAsync := false
  name := "go"
  params := .empty
  body := [.ret default (some (.dict default (displayOf
    [("execute", .lambda ⟨thunkSpan, .empty, stateDisplay "a"⟩)])))]
  decorators := []
  returns? := none

/-- `class Holder`, with the factory `go` and a machine that uses it by name. -/
def holder : ClassDef where
  span := default
  name := "Holder"
  bases := []
  keywords := []
  body := [.function heldFactory,
    .simple default .expression [.call (loneCall (.name default "go" .load))]]
  decorators := []

/-- The module that consists of the class. -/
def heldMachine : Node := .module ⟨[.classDef holder]⟩

/-- The site in the class body, which sees the class and the module. -/
def heldSite : Site where
  call := loneCall (.name default "go" .load)
  config := loneConfig
  commands := loneCommands (.name default "go" .load)
  scopes := [.ofBody true .empty holder.body, .ofBody false .empty [.classDef holder]]

theorem buildsMachine_loneCall (factory : Expr) :
    (loneCall factory).BuildsMachine loneConfig (loneCommands factory) := by
  refine ⟨⟨default, .inl ⟨.load, rfl⟩⟩, ⟨default, ?_⟩, ⟨default, ?_⟩⟩
  · exact .display rfl rfl (find?_textEntries_iff.1 rfl)
  · exact .display rfl rfl (find?_textEntries_iff.1 rfl)

theorem heldSite_mem_sites : heldSite ∈ sites heldMachine := by
  refine mem_sites_iff.2 ⟨_, _, .child (.child (.child .root (List.mem_singleton_self _))
    (c := .stmt holder.body[1]) ?_) (List.mem_singleton_self _), ?_⟩
  · simp [Node.children, Stmt.children, holder]
  · refine ⟨rfl, buildsMachine_loneCall _, ?_⟩
    rw [scopesAround_eq]
    rfl

theorem bindings_holder :
    (Scope.ofBody true .empty holder.body).bindings = [⟨"go", some heldFactory⟩] := by
  simp [Scope.ofBody, holder, heldFactory, Params.empty, Params.names, Params.all,
    Params.defaults, Params.kwDefaults, Node.bindings_eq, Node.ownBindings, Node.sameScope,
    Node.children, Stmt.children, Expr.children, loneCall, loneCommands, loneConfig, displayOf,
    Entry.key?, Entry.value]

theorem locate_heldFactory :
    locate (.expr (.name default "go" .load)) heldSite.scopes =
      some (.block heldFactory, heldSite.scopes) := by
  refine locate_name_of_occurrences ?_ default .load
  rw [Scope.occurrences, bindings_holder]
  rfl

/-- Inside the factory of the class body the class is not visible, as at its
place in the tree. -/
theorem innerScopes_eq_scopesAround_heldMachine :
    heldSite ∈ sites heldMachine ∧
      heldSite.Supplies "idle" "go" (.name default "go" .load) ∧
      locate (.expr (.name default "go" .load)) heldSite.scopes =
        some (.block heldFactory, heldSite.scopes) ∧
      ∃ above, Lineage heldMachine (.stmt (.function heldFactory)) above ∧
        [(Callable.block heldFactory).scope, .ofBody false .empty [.classDef holder]] =
          scopesAround (.stmt (.function heldFactory) :: above) := by
  have hsupplies : heldSite.Supplies "idle" "go" (.name default "go" .load) :=
    ⟨_, ⟨default, find?_textEntries_iff.1 rfl⟩, find?_textEntries_iff.1 rfl⟩
  obtain ⟨n, around, above, -, -, hf, -, -, hinside⟩ :=
    innerScopes_eq_scopesAround heldSite_mem_sites hsupplies locate_heldFactory
  exact ⟨heldSite_mem_sites, hsupplies, locate_heldFactory, above, hf, (hinside [] rfl).1⟩

end StateCoverage
