import Mathlib.Data.List.Forall2
import StateCoverage.Proofs.Transition
import StateCoverage.Proofs.Tree
import StateCoverage.Site

/-!
# Sites are found exactly, with the scopes of their ancestors

The walk that looks for construction sites carries a list of scopes along.
Here both are tied to the tree alone: to its preorder and to the ancestors of
each occurrence of a node.

* `scopesAround` — the scopes that the ancestors of an occurrence open, less
  the class bodies that are not the nearest of them.
* `Call.BuildsMachine` — what makes a call a construction site.
* `constructorCalls_eq_filterMap_lineages` — the walk meets every occurrence
  with the scopes of its ancestors.
* `sites_exact` — the sites of a tree are the occurrences of such calls, in
  preorder, each with the scopes around it.
-/

namespace StateCoverage

/-! ## The scopes around an occurrence -/

/-- The kinds of nodes that open a scope. -/
def scopeKinds : List String :=
  ["Module", "FunctionDef", "AsyncFunctionDef", "Lambda", "ClassDef"]

/-- Of the nodes above an occurrence, those that open a scope it can see: all
but the classes, and the nearest even if it is a class. -/
def visibleAncestors (above : List Node) : List Node :=
  match above.filter fun n => n.kind ∈ scopeKinds with
  | [] => []
  | nearest :: outer => nearest :: outer.filter fun n => n.kind ≠ "ClassDef"

/-- The scopes that an occurrence below the given nodes can see, nearest
first. -/
def scopesAround (above : List Node) : List Scope :=
  (visibleAncestors above).filterMap Node.opens?

theorem Expr.isSome_opens?_iff (e : Expr) :
    (Node.expr e).opens?.isSome = true ↔ e.kind ∈ scopeKinds := by
  cases e with
  | sequence _ form _ => cases form <;> simp [Node.opens?, Expr.kind, scopeKinds]
  | comprehension _ form _ _ =>
    cases form <;> simp [Node.opens?, Expr.kind, ComprehensionForm.kind, scopeKinds]
  | compound _ form _ =>
    cases form <;> simp [Node.opens?, Expr.kind, CompoundForm.kind, scopeKinds]
  | _ => simp [Node.opens?, Expr.kind, scopeKinds]

theorem Stmt.isSome_opens?_iff (s : Stmt) :
    (Node.stmt s).opens?.isSome = true ↔ s.kind ∈ scopeKinds := by
  cases s with
  | function f => cases hasync : f.isAsync <;> simp [Node.opens?, Stmt.kind, scopeKinds, hasync]
  | loop _ form _ _ _ => cases form <;> simp [Node.opens?, Stmt.kind, LoopForm.kind, scopeKinds]
  | within _ isAsync _ _ => cases isAsync <;> simp [Node.opens?, Stmt.kind, scopeKinds]
  | attempt _ isStar _ _ _ _ => cases isStar <;> simp [Node.opens?, Stmt.kind, scopeKinds]
  | importing _ isFrom _ => cases isFrom <;> simp [Node.opens?, Stmt.kind, scopeKinds]
  | declaration _ form _ =>
    cases form <;> simp [Node.opens?, Stmt.kind, DeclarationForm.kind, scopeKinds]
  | simple _ form _ => cases form <;> simp [Node.opens?, Stmt.kind, SimpleForm.kind, scopeKinds]
  | _ => simp [Node.opens?, Stmt.kind, scopeKinds]

/-- The nodes that open a scope are those of the kinds listed. -/
theorem Node.isSome_opens?_iff (n : Node) : n.opens?.isSome = true ↔ n.kind ∈ scopeKinds := by
  cases n with
  | expr e => exact e.isSome_opens?_iff
  | stmt s => exact s.isSome_opens?_iff
  | pattern p => cases p <;> simp [Node.opens?, Node.kind, Pattern.kind, scopeKinds]
  | _ => simp [Node.opens?, Node.kind, scopeKinds]

/-- The scope of a class is marked as such, and no other is. -/
theorem Node.isClass_of_opens? {n : Node} {s : Scope} (h : n.opens? = some s) :
    s.isClass = true ↔ n.kind = "ClassDef" := by
  unfold Node.opens? at h
  split at h
  · obtain rfl := Option.some.inj h
    simp [Scope.ofBody, Node.kind]
  · rename_i f
    obtain rfl := Option.some.inj h
    cases hasync : f.isAsync <;> simp [Scope.ofBody, Node.kind, Stmt.kind, hasync]
  · obtain rfl := Option.some.inj h
    simp [Scope.ofBody, Node.kind, Stmt.kind]
  · obtain rfl := Option.some.inj h
    simp [Scope.ofBody, Node.kind, Expr.kind]
  · simp at h

/-- Leaving out the nodes that open no scope loses no scope. -/
theorem filterMap_opens?_filter_scopeKinds (above : List Node) :
    (above.filter fun n => n.kind ∈ scopeKinds).filterMap Node.opens? =
      above.filterMap Node.opens? := by
  rw [List.filterMap_filter]
  refine List.filterMap_congr fun n _ => ?_
  by_cases hn : n.kind ∈ scopeKinds
  · simp [hn]
  · have closed : n.opens? = none := by
      rw [← Option.not_isSome_iff_eq_none, Node.isSome_opens?_iff]
      exact hn
    simp [hn, closed]

/-- Leaving out the classes leaves the scopes that are visible from inside. -/
theorem filterMap_opens?_filter_ne_classDef (ns : List Node) :
    (ns.filter fun n => n.kind ≠ "ClassDef").filterMap Node.opens? =
      Scope.visibleInside (ns.filterMap Node.opens?) := by
  rw [Scope.visibleInside, List.filterMap_filter, List.filter_filterMap]
  refine List.filterMap_congr fun n _ => ?_
  cases hn : n.opens? with
  | none => simp
  | some s =>
    have hclass := Node.isClass_of_opens? hn
    by_cases hkind : n.kind = "ClassDef"
    · simp [Option.filter, hkind, hclass.2 hkind]
    · have hs : s.isClass = false := by simpa [hkind] using hclass
      simp [Option.filter, hkind, hs]

/-- The scopes around an occurrence are the visible ones of those that the nodes
above it open. -/
theorem scopesAround_eq (above : List Node) :
    scopesAround above = visibleScopes (above.filterMap Node.opens?) := by
  rw [scopesAround, visibleAncestors, ← filterMap_opens?_filter_scopeKinds above]
  cases hfilter : above.filter fun n => n.kind ∈ scopeKinds with
  | nil => rfl
  | cons nearest outer =>
    have hnearest : nearest.kind ∈ scopeKinds := by
      have := List.mem_filter.1 (hfilter ▸ List.mem_cons_self .. : nearest ∈ above.filter _)
      simpa using this.2
    obtain ⟨s, hs⟩ := Option.isSome_iff_exists.1 (nearest.isSome_opens?_iff.2 hnearest)
    simp only [List.filterMap_cons_some hs, visibleScopes, filterMap_opens?_filter_ne_classDef]

/-! ## Calls that build a machine -/

/-- `v` is the value of the last of the keyword arguments with the name `k`. -/
def LastNamed (ks : List Keyword) (k : String) (v : Expr) : Prop :=
  ∃ before w after, ks = before ++ w :: after ∧ w.name? = some k ∧ w.value = v ∧
    ∀ u ∈ after, u.name? ≠ some k

/-- The call passes `v` under the name `k`: as the last entry under `k` of the
dict display that is its only argument, or, if all its arguments are named, as
the last of them with the name `k`. -/
inductive Call.Passes (c : Call) (k : String) (v : Expr) : Prop
  | display {span : Span} {es : List Entry} : c.args = [.dict span es] → c.keywords = [] →
      EffectiveEntry es k v → Passes c k v
  | keywords : c.args = [] → (∀ w ∈ c.keywords, w.name? ≠ none) →
      LastNamed c.keywords k v → Passes c k v

/-- The callee is `StateMachine`, bare or qualified, and the call passes dict
displays as `config` and `commands`. -/
structure Call.BuildsMachine (c : Call) (config commands : List Entry) : Prop where
  callee : ∃ span, (∃ use, c.callee = .name span "StateMachine" use) ∨
    ∃ value, c.callee = .member span value "StateMachine"
  config : ∃ span, c.Passes "config" (.dict span config)
  commands : ∃ span, c.Passes "commands" (.dict span commands)

/-- The node is a call that builds a machine. -/
def Node.BuildsMachine (n : Node) : Prop :=
  ∃ c config commands, n = .expr (.call c) ∧ c.BuildsMachine config commands

/-- The site is the call at an occurrence below the given nodes. -/
structure SiteAt (n : Node) (above : List Node) (site : Site) : Prop where
  node_eq : n = .expr (.call site.call)
  builds : site.call.BuildsMachine site.config site.commands
  scopes_eq : site.scopes = scopesAround above

/-- All items are read, and these are the values. -/
theorem mapM_eq_some_iff {α β : Type _} {f : α → Option β} {xs : List α} {ys : List β} :
    xs.mapM f = some ys ↔ (∀ x ∈ xs, f x ≠ none) ∧ xs.filterMap f = ys := by
  induction xs generalizing ys with
  | nil => simp [eq_comm]
  | cons x xs ih =>
    rw [List.mapM_cons]
    cases hx : f x with
    | none => simp [hx]
    | some y =>
      simp only [Option.bind_eq_bind, Option.bind_some, Option.bind_eq_some_iff, Option.pure_def,
        Option.some.injEq, ih, List.forall_mem_cons, hx, List.filterMap_cons]
      constructor
      · rintro ⟨_, ⟨hxs, rfl⟩, rfl⟩
        exact ⟨⟨by simp, hxs⟩, rfl⟩
      · rintro ⟨⟨-, hxs⟩, rfl⟩
        exact ⟨_, ⟨hxs, rfl⟩, rfl⟩

/-- The callee of a constructor call is a bare or qualified name that ends in
`StateMachine`. -/
theorem Call.isConstructor_iff (c : Call) :
    c.isConstructor = true ↔ ∃ span, (∃ use, c.callee = .name span "StateMachine" use) ∨
      ∃ value, c.callee = .member span value "StateMachine" := by
  rw [Call.isConstructor, beq_iff_eq]
  cases hcallee : c.callee <;> simp [Expr.lastSegment?, constructorName]

theorem Keyword.named?_ne_none_iff (w : Keyword) : w.named? ≠ none ↔ w.name? ≠ none := by
  simp [Keyword.named?]

theorem Keyword.named?_eq_some_iff {w : Keyword} {k : String} {v : Expr} :
    w.named? = some (k, v) ↔ w.name? = some k ∧ w.value = v := by
  simp [Keyword.named?]

/-- The last keyword with a name, spelled out. -/
theorem lastUnder_named?_iff {ks : List Keyword} {k : String} {v : Expr} :
    LastUnder Keyword.named? ks k v ↔ LastNamed ks k v := by
  constructor
  · rintro ⟨before, w, after, rfl, hw, hafter⟩
    obtain ⟨hname, hvalue⟩ := Keyword.named?_eq_some_iff.1 hw
    exact ⟨before, w, after, rfl, hname, hvalue,
      fun u hu hk => hafter u hu u.value (Keyword.named?_eq_some_iff.2 ⟨hk, rfl⟩)⟩
  · rintro ⟨before, w, after, rfl, hname, hvalue, hafter⟩
    exact ⟨before, w, after, rfl, Keyword.named?_eq_some_iff.2 ⟨hname, hvalue⟩,
      fun u hu v' hv' => hafter u hu (Keyword.named?_eq_some_iff.1 hv').1⟩

/-- What the call passes under names is what it is found to pass. -/
theorem Call.find?_namedArguments?_iff {c : Call} {k : String} {v : Expr} :
    (∃ named, c.namedArguments? = some named ∧ named.find? k = some v) ↔ c.Passes k v := by
  constructor
  · rintro ⟨named, hnamed, hfind⟩
    unfold Call.namedArguments? at hnamed
    split at hnamed
    · rename_i arg hargs hkeywords
      obtain ⟨span, es, rfl, rfl⟩ := Expr.textEntries?_eq_some_iff.1 hnamed
      exact .display hargs hkeywords (find?_textEntries_iff.1 hfind)
    · rename_i w ws hargs hkeywords
      obtain ⟨ps, hps, rfl⟩ := Option.map_eq_some_iff.1 hnamed
      obtain ⟨hall, rfl⟩ := mapM_eq_some_iff.1 hps
      rw [← hkeywords] at hall hfind
      refine .keywords hargs ?_
        (lastUnder_named?_iff.1 (OrderedMap.find?_ofList_filterMap_iff.1 hfind))
      intro w hw
      exact w.named?_ne_none_iff.1 (hall w hw)
    · simp at hnamed
  · rintro (⟨hargs, hkeywords, hentry⟩ | ⟨hargs, hall, hlast⟩)
    · refine ⟨_, ?_, find?_textEntries_iff.2 hentry⟩
      simp only [Call.namedArguments?, hargs, hkeywords]
      rfl
    · refine ⟨.ofList (c.keywords.filterMap Keyword.named?), ?_,
        OrderedMap.find?_ofList_filterMap_iff.2 (lastUnder_named?_iff.2 hlast)⟩
      have named : c.keywords.mapM Keyword.named? = some (c.keywords.filterMap Keyword.named?) :=
        mapM_eq_some_iff.2 ⟨fun w hw => w.named?_ne_none_iff.2 (hall w hw), rfl⟩
      -- an empty list of keywords passes nothing, so the list here is not empty
      cases hkeywords : c.keywords with
      | nil =>
        obtain ⟨before, w, after, hnil, -⟩ := hlast
        simp [hkeywords] at hnil
      | cons w ws =>
        rw [hkeywords] at named
        simp only [Call.namedArguments?, hargs, hkeywords, named, Option.map_some]

/-- A call is applicable if it passes a display under both names. -/
theorem Call.structures?_eq_some_iff {c : Call} {config commands : List Entry} :
    c.structures? = some (config, commands) ↔
      (∃ span, c.Passes "config" (.dict span config)) ∧
        ∃ span, c.Passes "commands" (.dict span commands) := by
  simp only [Call.structures?, Option.bind_eq_bind, Option.bind_eq_some_iff, Option.pure_def,
    Option.some.injEq, Prod.mk.injEq, Expr.dict?_eq_some_iff]
  constructor
  · rintro ⟨named, hnamed, _, he, _, ⟨span, rfl⟩, _, he', _, ⟨span', rfl⟩, rfl, rfl⟩
    exact ⟨⟨span, Call.find?_namedArguments?_iff.1 ⟨named, hnamed, he⟩⟩,
      ⟨span', Call.find?_namedArguments?_iff.1 ⟨named, hnamed, he'⟩⟩⟩
  · rintro ⟨⟨span, hconfig⟩, ⟨span', hcommands⟩⟩
    obtain ⟨named, hnamed, he⟩ := Call.find?_namedArguments?_iff.2 hconfig
    obtain ⟨named', hnamed', he'⟩ := Call.find?_namedArguments?_iff.2 hcommands
    obtain rfl := Option.some.inj (hnamed.symm.trans hnamed')
    exact ⟨named, hnamed, _, he, config, ⟨span, rfl⟩, _, he', commands, ⟨span', rfl⟩, rfl, rfl⟩

/-! ## The walk over a tree -/

theorem Node.constructorCall?_eq_some_iff {n : Node} {c : Call} :
    n.constructorCall? = some c ↔ n = .expr (.call c) ∧ c.isConstructor = true := by
  constructor
  · intro h
    unfold Node.constructorCall? at h
    split at h
    · rename_i d
      by_cases hd : d.isConstructor = true
      · rw [if_pos hd] at h
        obtain rfl := Option.some.inj h
        exact ⟨rfl, hd⟩
      · simp [hd] at h
    · simp at h
  · rintro ⟨rfl, hc⟩
    exact if_pos hc

/-- The constructor call at an occurrence, with the scopes around it. -/
def callAt? (o : Node × List Node) : Option (Call × List Scope) :=
  o.1.constructorCall?.map (·, scopesAround o.2)

/-- A call opens no scope, so a site is not inside itself. -/
theorem Node.opens?_eq_none_of_constructorCall? {n : Node} {c : Call}
    (h : n.constructorCall? = some c) : n.opens? = none := by
  obtain ⟨rfl, -⟩ := Node.constructorCall?_eq_some_iff.1 h
  rfl

/-- The walk meets every occurrence with the scopes that the nodes above it
open. -/
theorem constructorCalls_eq_filterMap_lineages (above : List Node) (n : Node) :
    n.constructorCalls (above.filterMap Node.opens?) = (n.lineages above).filterMap callAt? := by
  induction n using Node.induction generalizing above with
  | step n ih =>
    have inside : n.opens?.toList ++ above.filterMap Node.opens? =
        (n :: above).filterMap Node.opens? := by
      cases hn : n.opens? with
      | none => simp [hn]
      | some s => simp [hn]
    have here : n.constructorCall?.toList.map (·, visibleScopes ((n :: above).filterMap Node.opens?))
        = (callAt? (n, above)).toList := by
      cases hn : n.constructorCall? with
      | none => simp [callAt?, hn]
      | some c =>
        have hopens := Node.opens?_eq_none_of_constructorCall? hn
        simp [callAt?, hn, hopens, scopesAround_eq]
    have below : n.children.flatMap (Node.constructorCalls ((n :: above).filterMap Node.opens?)) =
        n.children.flatMap fun c => (c.lineages (n :: above)).filterMap callAt? :=
      List.flatMap_congr fun c hc => ih c hc (n :: above)
    rw [Node.constructorCalls_eq, Node.lineages_eq, inside, here, below, List.filterMap_cons,
      List.filterMap_flatMap]
    cases callAt? (n, above) <;> rfl

/-- The site at an occurrence, if it is one of a call that builds a machine. -/
def siteAt? (o : Node × List Node) : Option Site :=
  (callAt? o).bind Site.ofCall?

/-- The site at a place is what `SiteAt` says it is. -/
theorem siteAt?_eq_some_iff {n : Node} {above : List Node} {site : Site} :
    siteAt? (n, above) = some site ↔ SiteAt n above site := by
  obtain ⟨call, config, commands, scopes⟩ := site
  simp only [siteAt?, callAt?, Option.bind_eq_some_iff, Option.map_eq_some_iff,
    Node.constructorCall?_eq_some_iff, Site.ofCall?, Call.isConstructor_iff]
  constructor
  · rintro ⟨_, ⟨c, ⟨rfl, hcallee⟩, rfl⟩, ⟨config', commands'⟩, hstructures, heq⟩
    obtain ⟨rfl, rfl, rfl, rfl⟩ := Site.mk.inj heq
    obtain ⟨hconfig, hcommands⟩ := Call.structures?_eq_some_iff.1 hstructures
    exact ⟨rfl, ⟨hcallee, hconfig, hcommands⟩, rfl⟩
  · rintro ⟨rfl, ⟨hcallee, hconfig, hcommands⟩, rfl⟩
    exact ⟨_, ⟨call, ⟨rfl, hcallee⟩, rfl⟩, (config, commands),
      Call.structures?_eq_some_iff.2 ⟨hconfig, hcommands⟩, rfl⟩

/-- There is a site exactly where a machine is built. -/
theorem isSome_siteAt?_iff {n : Node} {above : List Node} :
    (siteAt? (n, above)).isSome = true ↔ n.BuildsMachine := by
  rw [Option.isSome_iff_exists]
  constructor
  · rintro ⟨site, hsite⟩
    obtain ⟨rfl, hbuilds, -⟩ := siteAt?_eq_some_iff.1 hsite
    exact ⟨site.call, site.config, site.commands, rfl, hbuilds⟩
  · rintro ⟨c, config, commands, rfl, hbuilds⟩
    exact ⟨⟨c, config, commands, scopesAround above⟩, siteAt?_eq_some_iff.2 ⟨rfl, hbuilds, rfl⟩⟩

instance : DecidablePred Node.BuildsMachine := fun n =>
  decidable_of_iff ((siteAt? (n, [])).isSome = true) isSome_siteAt?_iff

/-- One walk over all nodes with their ancestors meets all sites. -/
theorem sites_eq_filterMap_lineages (root : Node) :
    sites root = (root.lineages []).filterMap siteAt? := by
  have walk := constructorCalls_eq_filterMap_lineages [] root
  rw [List.filterMap_nil] at walk
  rw [sites, walk, List.filterMap_filterMap]
  rfl

/-- Every site stands at a node below the root, and every such node has its site. -/
theorem mem_sites_iff {root : Node} {site : Site} :
    site ∈ sites root ↔ ∃ n above, Lineage root n above ∧ SiteAt n above site := by
  rw [sites_eq_filterMap_lineages, List.mem_filterMap]
  constructor
  · rintro ⟨⟨n, above⟩, hmem, hsite⟩
    exact ⟨n, above, mem_lineages_iff.1 hmem, siteAt?_eq_some_iff.1 hsite⟩
  · rintro ⟨n, above, hlineage, hsite⟩
    exact ⟨(n, above), mem_lineages_iff.2 hlineage, siteAt?_eq_some_iff.2 hsite⟩

/-- Values that are read off some items stand in the order of these items. -/
theorem forall₂_filter_filterMap {α β : Type _} {f : α → Option β} {p : α → Bool}
    {R : α → β → Prop} (hp : ∀ a, (f a).isSome = p a) (hR : ∀ a b, f a = some b → R a b)
    (as : List α) : List.Forall₂ R (as.filter p) (as.filterMap f) := by
  induction as with
  | nil => exact .nil
  | cons a as ih =>
    cases hf : f a with
    | none =>
      have hpa : p a = false := by rw [← hp, hf]; rfl
      rw [List.filter_cons_of_neg (by simp [hpa]), List.filterMap_cons_none hf]
      exact ih
    | some b =>
      have hpa : p a = true := by rw [← hp, hf]; rfl
      rw [List.filter_cons_of_pos hpa, List.filterMap_cons_some hf]
      exact .cons (hR a b hf) ih

/-- **Sites are found exactly.**  The occurrences of nodes in a tree are listed
in preorder, each with its ancestors; those of calls that build a machine are,
one by one and in this order, the sites of the tree, and each site has the
scopes of its ancestors. -/
theorem sites_exact (root : Node) :
    (root.lineages []).map Prod.fst = root.preorder ∧
      (∀ n above, (n, above) ∈ root.lineages [] ↔ Lineage root n above) ∧
      List.Forall₂ (fun o site => SiteAt o.1 o.2 site)
        ((root.lineages []).filter fun o => o.1.BuildsMachine) (sites root) := by
  refine ⟨map_fst_lineages [] root, fun n above => mem_lineages_iff, ?_⟩
  rw [sites_eq_filterMap_lineages]
  refine forall₂_filter_filterMap ?_ (fun o site => siteAt?_eq_some_iff.1) _
  rintro ⟨n, above⟩
  rw [Bool.eq_iff_iff, isSome_siteAt?_iff, decide_eq_true_eq]

/-- `StateMachine(config={}, commands={})`. -/
def emptyMachine : Expr :=
  .call ⟨default, .name default "StateMachine" .load, [],
    [⟨default, some "config", .dict default []⟩, ⟨default, some "commands", .dict default []⟩]⟩

/-- `class Holder`, with a method that returns a machine and a machine of its
own. -/
def holderOfTwo : ClassDef where
  span := default
  name := "Holder"
  bases := []
  keywords := []
  body := [
    .function {
      span := default
      isAsync := false
      name := "build"
      params := ⟨[], [⟨default, "self", none, none⟩], none, [], none⟩
      body := [.ret default (some emptyMachine)]
      decorators := []
      returns? := none },
    .simple default .expression [emptyMachine]]
  decorators := []

/-- The site in the method has the scopes of the method and the module, and the
site in the class body those of the class and the module. -/
example : ((sites (.module ⟨[.classDef holderOfTwo]⟩)).map fun site => site.scopes.map fun scope =>
      (scope.isClass, ["self", "build", "Holder"].filter scope.binds)) =
    [[(false, ["self"]), (false, ["Holder"])], [(true, ["build"]), (false, ["Holder"])]] := by
  decide +kernel

end StateCoverage
