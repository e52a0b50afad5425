import Mathlib.Data.List.Perm.Subperm
import StateCoverage.Proofs.Evaluation
import StateCoverage.Proofs.Resolution

/-!
# Which scopes a site is given and where its call is evaluated

The walk that looks for sites puts the scope of every definition above a call
on the chain, and none for a comprehension.  So the chain of a site is the
lexical one only where the call stands in no header of these definitions, and
where no comprehension hides a class from it.

* `visibleAncestors_eq_iff` — when the walk gives an occurrence the scopes it
  is evaluated in.
* `Node.Binds` — the names that are bound in the scope of a node.
* `Overlooked` — where bindings are not collected; all others are
  (`Node.BindsAt.overlooked`).
* `scopes_lexical_iff` — both for the sites of a tree and the bare names of
  their factories.
-/

namespace StateCoverage

/-! ## Which scopes a site is given -/

/-- Of nodes with scopes, the nearest first, those whose names can be seen from
inside the nearest: classes further out are hidden. -/
def visibleOpeners : List Node → List Node
  | [] => []
  | nearest :: outer => nearest :: outer.filter fun n => n.kind ≠ "ClassDef"

theorem visibleAncestors_eq (above : List Node) :
    visibleAncestors above = visibleOpeners (above.filter fun n => n.kind ∈ scopeKinds) := by
  rw [visibleAncestors]
  cases above.filter fun n => n.kind ∈ scopeKinds <;> rfl

theorem visibleOpeners_sublist (l : List Node) : (visibleOpeners l).Sublist l := by
  cases l with
  | nil => exact .slnil
  | cons nearest outer => exact List.filter_sublist.cons_cons nearest

/-- Leaving out nodes that cannot be seen changes nothing of what can be seen. -/
theorem visibleOpeners_eq_of_sublist {l l' : List Node} (hsub : l'.Sublist l) (hnodup : l.Nodup)
    (h : ∀ a ∈ visibleOpeners l, a ∈ l') : visibleOpeners l = visibleOpeners l' := by
  cases hsub with
  | slnil => rfl
  | @cons _ outer nearest hsub =>
    have hnearest := hsub.subset (h nearest (List.mem_cons_self ..))
    exact absurd hnearest (List.nodup_cons.1 hnodup).1
  | @cons_cons outer' outer nearest hsub =>
    obtain ⟨hfresh, hnodup⟩ := List.nodup_cons.1 hnodup
    have hfilter := hsub.filter fun n => n.kind ≠ "ClassDef"
    have hsubset : (outer.filter fun n => n.kind ≠ "ClassDef") ⊆
        outer'.filter fun n => n.kind ≠ "ClassDef" := by
      intro a ha
      obtain ⟨hmem, hkind⟩ := List.mem_filter.1 ha
      rcases List.mem_cons.1 (h a (List.mem_cons_of_mem _ ha)) with rfl | hmem'
      · exact absurd hmem hfresh
      · exact List.mem_filter.2 ⟨hmem', hkind⟩
    have hlength := (List.subperm_of_subset (hnodup.filter _) hsubset).length_le
    rw [visibleOpeners, visibleOpeners, hfilter.eq_of_length_le hlength]

/-- Nodes that are left out together hide nothing and show nothing, if what is
seen without them was seen before. -/
theorem visibleOpeners_filter {l : List Node} {p : Node → Bool}
    (h : visibleOpeners (l.filter p) ⊆ visibleOpeners l) :
    visibleOpeners (l.filter p) = (visibleOpeners l).filter p := by
  cases l with
  | nil => rfl
  | cons nearest outer =>
    rw [visibleOpeners]
    cases hp : p nearest with
    | true =>
      rw [List.filter_cons_of_pos hp, List.filter_cons_of_pos hp, visibleOpeners, List.filter_comm]
    | false =>
      have hout : ¬p nearest = true := by simp [hp]
      rw [visibleOpeners, List.filter_cons_of_neg hout] at h
      rw [List.filter_cons_of_neg hout, List.filter_cons_of_neg hout, List.filter_comm]
      cases houter : outer.filter p with
      | nil => rfl
      | cons next rest =>
        rw [houter] at h
        -- the next node is now the nearest, so it must not have been hidden before
        have hnext : next ∈ outer.filter p := houter ▸ List.mem_cons_self ..
        have hkind : next.kind ≠ "ClassDef" := by
          rcases List.mem_cons.1 (h (List.mem_cons_self ..)) with rfl | hmem
          · exact absurd (List.mem_filter.1 hnext).2 hout
          · simpa using (List.mem_filter.1 hmem).2
        rw [visibleOpeners, List.filter_cons_of_pos (by simpa using hkind)]

theorem Node.opens?_eq_none_of_isComprehension {n : Node} (h : n.isComprehension = true) :
    n.opens? = none := by
  unfold Node.isComprehension at h
  split at h
  · rfl
  · simp at h

/-- Of the nodes with scopes, the walk passes over the comprehensions. -/
theorem Node.kind_mem_scopeKinds_iff {n : Node} (h : n.hasScope = true) :
    n.kind ∈ scopeKinds ↔ n.isComprehension = false := by
  rw [← Node.isSome_opens?_iff]
  cases hn : n.isComprehension with
  | true => simp [Node.opens?_eq_none_of_isComprehension hn]
  | false => simpa [Node.hasScope, hn] using h

/-- The walk gives an occurrence the scopes that it sees where it is evaluated,
less those of comprehensions, exactly when it gives it no others. -/
theorem visibleAncestors_eq_iff {root n : Node} {above openers : List Node}
    (h : Evaluated root n above openers) :
    visibleAncestors above = (visibleOpeners openers).filter (fun a => !a.isComprehension) ↔
      visibleAncestors above ⊆ visibleOpeners openers := by
  constructor
  · intro heq
    rw [heq]
    exact List.filter_sublist.subset
  · intro hsubset
    have hkept : (openers.filter fun a => !a.isComprehension) =
        openers.filter fun a => a.kind ∈ scopeKinds := by
      refine List.filter_congr ?_
      intro a ha
      rw [Bool.eq_iff_iff]
      simp [Node.kind_mem_scopeKinds_iff (h.hasScope_of_mem ha)]
    rw [visibleAncestors_eq] at hsubset ⊢
    have heq : visibleOpeners (above.filter fun a => a.kind ∈ scopeKinds) =
        visibleOpeners (openers.filter fun a => !a.isComprehension) := by
      rw [hkept]
      refine visibleOpeners_eq_of_sublist (h.sublist.filter _) (h.lineage.nodup.filter _) ?_
      intro a ha
      have hkind := (List.mem_filter.1 ((visibleOpeners_sublist _).subset ha)).2
      exact List.mem_filter.2 ⟨(visibleOpeners_sublist _).subset (hsubset ha), hkind⟩
    rw [heq] at hsubset ⊢
    exact visibleOpeners_filter hsubset

theorem filterMap_opens?_filter_not_isComprehension (ns : List Node) :
    (ns.filter fun a => !a.isComprehension).filterMap Node.opens? = ns.filterMap Node.opens? := by
  rw [List.filterMap_filter]
  refine List.filterMap_congr fun n _ => ?_
  cases hn : n.isComprehension with
  | true => simp [Node.opens?_eq_none_of_isComprehension hn]
  | false => simp

/-! ## Names bound in a scope -/

/-- The names of a node's parameters. -/
def Node.paramNames : Node → List String
  | .stmt (.function f) => f.params.names
  | .expr (.lambda f) => f.params.names
  | _ => []

/-- The occurrence is the target of an assignment expression. -/
def AssignmentTarget (n : Node) (above : List Node) : Prop :=
  ∃ span target rest outer, n = .expr target ∧
    above = .expr (.compound span .named (target :: rest)) :: outer

/-- The occurrence, given with the nodes above it up to `p`, binds the name in
the scope of `p`.  An assignment expression in a comprehension binds outside of
the comprehension. -/
inductive Node.BindsAt (p : Node) (name : String) : Node → List Node → Prop
  | own {n : Node} {above : List Node} : Evaluated p n above [p] → name ∈ n.boundNames →
      (p.isComprehension = true → ¬AssignmentTarget n above) → BindsAt p name n above
  | hoisted {n : Node} {above inner : List Node} :
      Evaluated p n above (inner ++ [p]) → inner ≠ [] → (∀ a ∈ inner, a.isComprehension = true) →
      p.isComprehension = false → name ∈ n.boundNames → AssignmentTarget n above →
      BindsAt p name n above

/-- The name is bound in the scope of `p`. -/
def Node.Binds (p : Node) (name : String) : Prop :=
  name ∈ p.paramNames ∨ ∃ n above, p.BindsAt name n above

/-- The occurrence stands in a part of the tree where the bindings of a scope are
not collected: in a lambda, in a comprehension or in an annotation of a
function. -/
inductive Overlooked : Node → List Node → Prop
  | lambda {n : Node} {above : List Node} {f : Lambda} : .expr (.lambda f) ∈ above →
      Overlooked n above
  | comprehension {n a : Node} {above : List Node} : a ∈ above → a.isComprehension = true →
      Overlooked n above
  | declaredType {n : Node} {above : List Node} {p : Param} : .param p ∈ above → Overlooked n above
  | returns {n : Node} {above nearer farther : List Node} {f : FunctionDef} {r : Expr} :
      f.returns? = some r → n :: above = nearer ++ .expr r :: .stmt (.function f) :: farther →
      Overlooked n above

theorem Overlooked.below {n c : Node} {above : List Node} (h : Overlooked n above)
    (between : List Node) : Overlooked c (between ++ n :: above) := by
  cases h with
  | lambda hmem => exact .lambda (List.mem_append_right _ (List.mem_cons_of_mem _ hmem))
  | comprehension hmem ha =>
    exact .comprehension (List.mem_append_right _ (List.mem_cons_of_mem _ hmem)) ha
  | declaredType hmem => exact .declaredType (List.mem_append_right _ (List.mem_cons_of_mem _ hmem))
  | @returns _ nearer farther f r hr heq =>
    have hlist : c :: (between ++ n :: above) =
        (c :: between ++ nearer) ++ .expr r :: .stmt (.function f) :: farther := by
      rw [heq]
      simp
    exact .returns hr hlist

theorem Node.bindings_subset_of_mem_sameScope {n c : Node} (h : c ∈ n.sameScope) :
    c.bindings ⊆ n.bindings := by
  intro b hb
  rw [n.bindings_eq]
  exact List.mem_append_right _ (List.mem_flatMap.2 ⟨c, h, hb⟩)

theorem Node.sameScope_eq_children {n : Node} (h : n.hasScope = false) :
    n.sameScope = n.children := by
  unfold Node.sameScope
  split
  · simp [Node.hasScope, Node.opens?] at h
  · simp [Node.hasScope, Node.opens?] at h
  · simp [Node.hasScope, Node.opens?] at h
  · simp [Node.hasScope, Node.isComprehension] at h
  · rfl

/-- The parts of a header are those that share the scope around the definition,
and some that are overlooked. -/
theorem Node.Header.mem_sameScope_or {q : Node} {between : List Node} {e : Expr}
    (h : q.Header between e) (above : List Node) :
    .expr e ∈ q.sameScope ∨ Overlooked (.expr e) (between ++ q :: above) := by
  cases h with
  | param hpart =>
    cases hpart with
    | default hd => exact .inl (by simp [Node.sameScope, hd])
    | kwDefault hd => exact .inl (by simp [Node.sameScope, hd])
    | declaredType => exact .inr (.declaredType (List.mem_cons_self ..))
  | decorator he => exact .inl (by simp [Node.sameScope, he])
  | returns hr => exact .inr (.returns hr (List.nil_append _).symm)
  | lambdaParam => exact .inr (.lambda (List.mem_append_right _ (List.mem_cons_self ..)))
  | base he => exact .inl (by simp [Node.sameScope, he])
  | classKeyword hk =>
    refine .inl (List.mem_map_of_mem ?_)
    exact List.mem_append_right _ (List.mem_map_of_mem hk)
  | classDecorator he => exact .inl (by simp [Node.sameScope, he])
  | firstIterable =>
    exact .inr (.comprehension (List.mem_append_right _ (List.mem_cons_self ..)) rfl)

theorem Node.Body.bindings_subset_or {q c : Node} {between : List Node} {s : Scope}
    (h : q.Body between c) (hs : q.opens? = some s) (above : List Node) :
    c.bindings ⊆ s.bindings ∨ Overlooked c (between ++ q :: above) := by
  have inBody {isClass : Bool} {params : Params} {body : List Stmt} {t : Stmt} (ht : t ∈ body) :
      (Node.stmt t).bindings ⊆ (Scope.ofBody isClass params body).bindings := by
    intro b hb
    exact List.mem_append_right _ (List.mem_flatMap.2 ⟨t, ht, hb⟩)
  cases h with
  | moduleStmt ht =>
    obtain rfl := Option.some.inj hs
    exact .inl (inBody ht)
  | functionStmt ht =>
    obtain rfl := Option.some.inj hs
    exact .inl (inBody ht)
  | classStmt ht =>
    obtain rfl := Option.some.inj hs
    exact .inl (inBody ht)
  | lambdaBody => exact .inr (.lambda (List.mem_cons_self ..))
  | element | target | condition | laterIterable => simp [Node.opens?] at hs

/-- What is evaluated in the scope of a node adds its bindings to the scope, or
is overlooked. -/
theorem Evaluated.bindings_subset_or {p n : Node} {above openers : List Node} {s : Scope}
    (h : Evaluated p n above openers) (hs : p.opens? = some s) (hopeners : openers = [p]) :
    n.bindings ⊆ s.bindings ∨ Overlooked n above := by
  induction h with
  | root => simp at hopeners
  | plain _ hscope hc ih =>
    rcases ih hopeners with hsubset | hover
    · rw [← Node.sameScope_eq_children hscope] at hc
      exact .inl (List.Subset.trans (Node.bindings_subset_of_mem_sameScope hc) hsubset)
    · exact .inr (hover.below [])
  | @header q e between above _ _ hpart ih =>
    rcases ih hopeners with hsubset | hover
    · rcases hpart.mem_sameScope_or above with hmem | hover
      · exact .inl (List.Subset.trans (Node.bindings_subset_of_mem_sameScope hmem) hsubset)
      · exact .inr hover
    · exact .inr (hover.below between)
  | @body q c between above _ _ hpart _ =>
    obtain ⟨rfl, -⟩ := List.cons.inj hopeners
    exact hpart.bindings_subset_or hs above

/-- A name that the collected scope does not bind can only be bound where
bindings are overlooked. -/
theorem Node.BindsAt.overlooked {p n : Node} {name : String} {above : List Node}
    (h : p.BindsAt name n above) (hscope : p.hasScope = true)
    (hfree : ∀ s, p.opens? = some s → s.binds name = false) : Overlooked n above := by
  cases h with
  | own heval hbound _ =>
    cases hs : p.opens? with
    | none =>
      have hp : p.isComprehension = true := by simpa [Node.hasScope, hs] using hscope
      exact .comprehension (heval.sublist.subset (List.mem_singleton_self p)) hp
    | some s =>
      rcases heval.bindings_subset_or hs rfl with hsubset | hover
      · obtain ⟨b, hb, hname⟩ := Node.exists_mem_ownBindings hbound
        have hmem : b ∈ s.bindings := hsubset (by
          rw [Node.bindings_eq]
          exact List.mem_append_left _ hb)
        have hbinds : s.binds name = true := List.any_eq_true.2 ⟨_, hmem, by simpa using hname⟩
        simp [hfree s hs] at hbinds
      · exact hover
  | @hoisted inner heval hne hinner =>
    obtain ⟨a, ha⟩ := List.exists_mem_of_ne_nil inner hne
    exact .comprehension (heval.sublist.subset (List.mem_append_left _ ha)) (hinner a ha)

theorem Scope.binds_ofBody_of_mem_names {isClass : Bool} {params : Params} {body : List Stmt}
    {name : String} (h : name ∈ params.names) :
    (Scope.ofBody isClass params body).binds name = true := by
  have hmem : Binding.other name ∈ (Scope.ofBody isClass params body).bindings :=
    List.mem_append_left _ (List.mem_map_of_mem h)
  exact List.any_eq_true.2 ⟨_, hmem, by simp [Binding.other]⟩

/-- Parameters are always collected. -/
theorem Node.exists_binds_of_mem_paramNames {p : Node} {name : String} (h : name ∈ p.paramNames) :
    ∃ s, p.opens? = some s ∧ s.binds name = true := by
  unfold Node.paramNames at h
  split at h
  · exact ⟨_, rfl, Scope.binds_ofBody_of_mem_names h⟩
  · exact ⟨_, rfl, Scope.binds_ofBody_of_mem_names h⟩
  · simp at h

/-! ## Sites -/

/-- A look-up along the scopes of some nodes ends at one of them; the scopes of
the nodes before it do not bind the name. -/
theorem exists_opener_of_lookup {ns : List Node} {name : String} {d : FunctionDef}
    {chain : List Scope} (h : Scope.lookup name (ns.filterMap Node.opens?) = some (d, chain)) :
    ∃ nearer a farther s, ns = nearer ++ a :: farther ∧ a.opens? = some s ∧
      s.function? name = some d ∧
      ∀ p ∈ nearer, ∀ t, p.opens? = some t → t.binds name = false := by
  obtain ⟨inner, s, outer, hscopes, -, hd, hinner⟩ := Scope.lookup_eq_some h
  obtain ⟨nearer, rest, rfl, rfl, hrest⟩ := List.filterMap_eq_append_iff.1 hscopes
  obtain ⟨closed, a, farther, rfl, hclosed, ha, -⟩ := List.filterMap_eq_cons_iff.1 hrest
  refine ⟨nearer ++ closed, a, farther, s, by simp, ha, hd, ?_⟩
  intro p hp t ht
  rcases List.mem_append.1 hp with hp | hp
  · exact hinner t (List.mem_filterMap.2 ⟨p, hp, ht⟩)
  · simp [hclosed p hp] at ht

/-- The scopes of some nodes do not bind a name, unless by overlooked bindings. -/
theorem forall_not_binds_iff {ns : List Node} {name : String}
    (hscope : ∀ p ∈ ns, p.hasScope = true)
    (hfree : ∀ p ∈ ns, ∀ s, p.opens? = some s → s.binds name = false) :
    (∀ p ∈ ns, ¬p.Binds name) ↔
      ∀ p ∈ ns, ∀ n above, p.BindsAt name n above → ¬Overlooked n above := by
  constructor
  · intro h p hp n above hbinds
    exact absurd (.inr ⟨n, above, hbinds⟩) (h p hp)
  · rintro h p hp (hparam | ⟨n, above, hbinds⟩)
    · obtain ⟨s, hs, hbound⟩ := Node.exists_binds_of_mem_paramNames hparam
      simp [hfree p hp s hs] at hbound
    · exact h p hp n above hbinds (hbinds.overlooked (hscope p hp) (hfree p hp))

/-- **When sites are given their lexical scopes.**  Every site stands at a place
that is evaluated in the scopes of some nodes.  The nodes whose scopes the walk
gives to the site are those it can see there, comprehensions apart, if and only
if it can see each of them there: the call must not stand in the header of a
definition whose scope is given, nor a comprehension between the call and a
class whose scope is given.

Then the chain is the lexical one.  If a bare name is located along it, no
nearer scope binds the name, if and only if none does so in a comprehension, a
lambda or an annotation. -/
theorem scopes_lexical_iff {root : Node} {site : Site} (hsite : site ∈ sites root) :
    (∃ n above openers, Evaluated root n above openers ∧ SiteAt n above site) ∧
      ∀ n above openers, Evaluated root n above openers → SiteAt n above site →
        (visibleAncestors above =
            (visibleOpeners openers).filter (fun a => !a.isComprehension) ↔
          visibleAncestors above ⊆ visibleOpeners openers) ∧
        (visibleAncestors above ⊆ visibleOpeners openers →
          site.scopes = (visibleOpeners openers).filterMap Node.opens? ∧
          ∀ span id use d chain,
            locate (.expr (.name span id use)) site.scopes = some (.block d, chain) →
            ∃ nearer a farther s, visibleOpeners openers = nearer ++ a :: farther ∧
              a.opens? = some s ∧ s.function? id = some d ∧
              ((∀ p ∈ nearer, ¬p.Binds id) ↔
                ∀ p ∈ nearer, ∀ q inner, p.BindsAt id q inner → ¬Overlooked q inner)) := by
  refine ⟨?_, ?_⟩
  · obtain ⟨n, above, hn, hat⟩ := mem_sites_iff.1 hsite
    have hcall := hn
    rw [hat.node_eq] at hcall
    obtain ⟨openers, heval⟩ := exists_evaluated hcall
    exact ⟨_, above, openers, heval, rfl, hat.builds, hat.scopes_eq⟩
  · intro n above openers heval hat
    have hiff := visibleAncestors_eq_iff heval
    refine ⟨hiff, ?_⟩
    intro hsubset
    have hscopes : site.scopes = (visibleOpeners openers).filterMap Node.opens? := by
      rw [hat.scopes_eq, scopesAround, hiff.2 hsubset, filterMap_opens?_filter_not_isComprehension]
    refine ⟨hscopes, ?_⟩
    intro span id use d chain hlocate
    obtain ⟨⟨_, _⟩, hlookup, heq⟩ := Option.map_eq_some_iff.1 hlocate
    obtain ⟨hblock, rfl⟩ := Prod.mk.inj heq
    obtain rfl := Callable.block.inj hblock
    rw [hscopes] at hlookup
    obtain ⟨nearer, a, farther, s, hsplit, ha, hd, hfree⟩ := exists_opener_of_lookup hlookup
    refine ⟨nearer, a, farther, s, hsplit, ha, hd, forall_not_binds_iff ?_ hfree⟩
    intro p hp
    have hvisible : p ∈ visibleOpeners openers := hsplit ▸ List.mem_append_left _ hp
    exact heval.hasScope_of_mem ((visibleOpeners_sublist openers).subset hvisible)

/-! ### Machines in a comprehension and in a header -/

/-- `[StateMachine(…) for target in factories]`, with `go` as the factory. -/
def machineList (target : String) : Expr :=
  .comprehension default .list [.call heldSite.call]
    [⟨.name default target .store, .name default "factories" .load, []⟩]

/-- The statement that consists of the list. -/
def listing (target : String) : Stmt := .simple default .expression [machineList target]

/-- The module that defines the factory `go` and then lists machines. -/
def listedMachines (target : String) : Node :=
  .module ⟨[.function heldFactory, listing target]⟩

/-- The site in the list, which is given the module's scope. -/
def listedSite (target : String) : Site :=
  { heldSite with scopes := [.ofBody false .empty [.function heldFactory, listing target]] }

theorem evaluated_machineList (target : String) :
    Evaluated (listedMachines target) (.expr (machineList target))
      [.stmt (listing target), listedMachines target] [listedMachines target] := by
  have hstmt : Evaluated (listedMachines target) (.stmt (listing target))
      [listedMachines target] [listedMachines target] :=
    .body .root (.moduleStmt (List.mem_cons_of_mem _ (List.mem_singleton_self _)))
  exact hstmt.plain rfl (List.mem_singleton_self _)

theorem evaluated_listedSite (target : String) :
    Evaluated (listedMachines target) (.expr (.call (listedSite target).call))
      [.expr (machineList target), .stmt (listing target), listedMachines target]
      [.expr (machineList target), listedMachines target] :=
  (evaluated_machineList target).body (.element (List.mem_singleton_self _))

theorem siteAt_listedSite (target : String) :
    SiteAt (.expr (.call (listedSite target).call))
      [.expr (machineList target), .stmt (listing target), listedMachines target]
      (listedSite target) := by
  refine ⟨rfl, buildsMachine_loneCall _, ?_⟩
  rw [scopesAround_eq]
  rfl

theorem listedSite_mem_sites (target : String) :
    listedSite target ∈ sites (listedMachines target) :=
  mem_sites_iff.2 ⟨_, _, (evaluated_listedSite target).lineage, siteAt_listedSite target⟩

theorem locate_listedFactory (target : String) :
    locate (.expr (.name default "go" .load)) (listedSite target).scopes =
      some (.block heldFactory, (listedSite target).scopes) := by
  refine locate_name_of_occurrences ?_ default .load
  simp [Scope.occurrences, Scope.ofBody, listing, machineList, heldFactory, Params.empty,
    Params.names, Params.all, Params.defaults, Params.kwDefaults, Node.bindings_eq,
    Node.ownBindings, Node.sameScope, Node.children, Stmt.children]

/-- A comprehension that binds another name leaves the factory where it is. -/
theorem scopes_lexical_iff_listedMachines :
    listedSite "_" ∈ sites (listedMachines "_") ∧
      locate (.expr (.name default "go" .load)) (listedSite "_").scopes =
        some (.block heldFactory, (listedSite "_").scopes) ∧
      (listedSite "_").scopes =
        [.expr (machineList "_"), listedMachines "_"].filterMap Node.opens? ∧
      ∃ nearer a farther s, [.expr (machineList "_"), listedMachines "_"] = nearer ++ a :: farther ∧
        a.opens? = some s ∧ s.function? "go" = some heldFactory ∧
        ((∀ p ∈ nearer, ¬p.Binds "go") ↔
          ∀ p ∈ nearer, ∀ q inner, p.BindsAt "go" q inner → ¬Overlooked q inner) := by
  obtain ⟨-, hall⟩ := scopes_lexical_iff (listedSite_mem_sites "_")
  obtain ⟨-, hseen⟩ := hall _ _ _ (evaluated_listedSite "_") (siteAt_listedSite "_")
  have hvisible : visibleOpeners [.expr (machineList "_"), listedMachines "_"] =
      [.expr (machineList "_"), listedMachines "_"] := rfl
  have hgiven : visibleAncestors [.expr (machineList "_"), .stmt (listing "_"),
      listedMachines "_"] = [listedMachines "_"] := rfl
  rw [hgiven, hvisible] at hseen
  obtain ⟨hscopes, hname⟩ := hseen (by simp)
  exact ⟨listedSite_mem_sites "_", locate_listedFactory "_", hscopes,
    hname _ _ _ _ _ (locate_listedFactory "_")⟩

/-- `def build(machine=StateMachine(…))`, with a function `go` in its body. -/
def builder : FunctionDef :=
  { heldFactory with
    name := "build"
    params := ⟨[], [⟨default, "machine", none, some (.call heldSite.call)⟩], none, [], none⟩
    body := [.function heldFactory] }

/-- The module that imports `go` and then defines the builder. -/
def importedMachine : Node :=
  .module ⟨[.importing default true [⟨default, "go", none⟩], .function builder]⟩

/-- The site in the header of the builder, which is given the builder's scope. -/
def importedSite : Site :=
  { heldSite with scopes := [(Callable.block builder).scope] ++ importedMachine.opens?.toList }

theorem evaluated_importedSite :
    Evaluated importedMachine (.expr (.call importedSite.call))
      [.params builder.params, .stmt (.function builder), importedMachine] [importedMachine] := by
  have hstmt : Evaluated importedMachine (.stmt (.function builder)) [importedMachine]
      [importedMachine] :=
    .body .root (.moduleStmt (List.mem_cons_of_mem _ (List.mem_singleton_self _)))
  exact hstmt.header (.param (.default (List.mem_singleton_self _)))

theorem siteAt_importedSite :
    SiteAt (.expr (.call importedSite.call))
      [.params builder.params, .stmt (.function builder), importedMachine] importedSite := by
  refine ⟨rfl, buildsMachine_loneCall _, ?_⟩
  rw [scopesAround_eq]
  rfl

theorem locate_importedFactory :
    locate (.expr (.name default "go" .load)) importedSite.scopes =
      some (.block heldFactory, importedSite.scopes) := by
  refine locate_name_of_occurrences ?_ default .load
  simp [Scope.occurrences, Callable.scope, Scope.ofBody, builder, heldFactory, Params.empty,
    Params.names, Params.all, Params.defaults, Params.kwDefaults, Node.bindings_eq,
    Node.ownBindings, Node.sameScope, Binding.other]

theorem occurrences_importedMachine :
    (Scope.ofBody false .empty [.importing default true [⟨default, "go", none⟩],
      .function builder]).occurrences "go" = [.other "go"] := by
  have himported : (⟨default, "go", none⟩ : Alias).boundName = "go" := rfl
  simp [Scope.occurrences, Scope.ofBody, builder, heldSite, heldFactory, Params.empty,
    Params.names, Params.all, Params.defaults, Params.kwDefaults, Node.bindings_eq,
    Node.ownBindings, Node.sameScope, Node.children, Stmt.children, Expr.children, loneCall,
    loneCommands, loneConfig, displayOf, Entry.key?, Entry.value, Binding.other, himported]

/-- The two ways to miss the lexical scopes.  In a comprehension whose target is
`go`, and in a default evaluated where `go` is imported, the name is located at a
function that it does not mean there. -/
theorem locates_past_lexical_scopes :
    (listedSite "go" ∈ sites (listedMachines "go") ∧
      Evaluated (listedMachines "go") (.expr (.call (listedSite "go").call))
        [.expr (machineList "go"), .stmt (listing "go"), listedMachines "go"]
        [.expr (machineList "go"), listedMachines "go"] ∧
      (Node.expr (machineList "go")).Binds "go" ∧
      locate (.expr (.name default "go" .load)) (listedSite "go").scopes =
        some (.block heldFactory, (listedSite "go").scopes)) ∧
    (importedSite ∈ sites importedMachine ∧
      Evaluated importedMachine (.expr (.call importedSite.call))
        [.params builder.params, .stmt (.function builder), importedMachine] [importedMachine] ∧
      (∀ s, importedMachine.opens? = some s → s.binds "go" = true ∧ s.function? "go" = none) ∧
      locate (.expr (.name default "go" .load)) importedSite.scopes =
        some (.block heldFactory, importedSite.scopes)) := by
  refine ⟨⟨listedSite_mem_sites "go", evaluated_listedSite "go", ?_, locate_listedFactory "go"⟩,
    ⟨?_, evaluated_importedSite, ?_, locate_importedFactory⟩⟩
  · refine .inr ⟨.expr (.name default "go" .store), _,
      .own (.body .root (.target (List.mem_singleton_self _))) (List.mem_singleton_self _) ?_⟩
    rintro - ⟨span, target, rest, outer, -, habove⟩
    simp at habove
  · exact mem_sites_iff.2 ⟨_, _, evaluated_importedSite.lineage, siteAt_importedSite⟩
  · intro s hs
    obtain rfl := Option.some.inj hs
    refine ⟨?_, ?_⟩
    · rw [Scope.binds_eq_not_isEmpty, occurrences_importedMachine]
      rfl
    · rw [Scope.function?, occurrences_importedMachine]
      rfl

end StateCoverage
