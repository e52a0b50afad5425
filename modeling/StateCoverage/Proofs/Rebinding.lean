import StateCoverage.Proofs.FactoryScopes
import StateCoverage.Proofs.LexicalScopes
import StateCoverage.Proofs.Returns

/-!
# Rebindings of a resolved name

A scope answers with a `def` if it has collected no other binding of the name.
The bindings that the language makes in the scope are said apart from the
collector: `Node.BindsAt` for those that stand in the scope itself, with the
assignment expressions of comprehensions inside it, and `Node.BindsFromInside`
for those that a nested definition makes after a `global` or `nonlocal`.

* `Node.searchedAt` — the search of a scope with the nodes above each node; a
  binding that it does not meet is overlooked
  (`Evaluated.overlooked_or_mem_places`).
* `eq_of_flatMap_eq_singleton` — if one binding is counted, only one place can
  have given it.
* `function?_sole_binding_iff` — the `def` is the only binding of the name
  exactly when no binding is overlooked and none is made from inside.
* `function?_misses_rebindings` — the ways in which a binding is missed.
-/

namespace StateCoverage

/-! ## Bindings made from inside -/

/-- The name is declared in the scope of `q` to belong to a scope further out. -/
def Node.DeclaresName (q : Node) (form : DeclarationForm) (name : String) : Prop :=
  ∃ span names above, Evaluated q (.stmt (.declaration span form names)) above [q] ∧ name ∈ names

/-- Whether a node is a `global` or `nonlocal` statement. -/
def Node.isDeclaration : Node → Bool
  | .stmt (.declaration ..) => true
  | _ => false

/-- Whether a node is a function. -/
def Node.isFunction : Node → Bool
  | .stmt (.function _) | .expr (.lambda _) => true
  | _ => false

/-- The occurrence, given with the nodes above it up to `p`, binds the name in
the scope of `p` from the scope of a definition `q` inside it.  A `global` name
belongs to the module; a `nonlocal` name to the nearest function around that
binds it and does not pass it on. -/
inductive Node.BindsFromInside (p : Node) (name : String) : Node → List Node → Prop
  | global {m : Module} {q n : Node} {above openers inner : List Node} (hp : p = .module m)
      (hq : q.isDefinition = true) (hinside : Evaluated p q above openers)
      (hdeclares : q.DeclaresName .global name) (hbinds : q.BindsAt name n inner)
      (hn : n.isDeclaration = false) : BindsFromInside p name n (inner ++ above)
  | nonlocal {d : FunctionDef} {q n : Node} {above between inner : List Node}
      (hp : p = .stmt (.function d)) (hq : q.isDefinition = true)
      (hinside : Evaluated p q above (between ++ [p])) (hdeclares : q.DeclaresName .nonlocal name)
      (hpassed : ∀ b ∈ between, b.isFunction = true → b.Binds name →
        b.DeclaresName .nonlocal name)
      (hbinds : q.BindsAt name n inner) (hn : n.isDeclaration = false) :
      BindsFromInside p name n (inner ++ above)

/-! ## The search of a scope, with places -/

/-- The nodes that a search of the scope around a node meets, with the nodes
above each; `above` are those above the first. -/
def Node.searchedAt (above : List Node) (n : Node) : List (Node × List Node) :=
  (n, above) :: n.entered.attach.flatMap fun ⟨c, _⟩ => c.searchedAt (n :: above)
termination_by sizeOf n
decreasing_by exact Node.sizeOf_lt_of_mem_children (Node.mem_children_of_mem_entered ‹_›)

theorem Node.searchedAt_eq (above : List Node) (n : Node) :
    n.searchedAt above = (n, above) :: n.entered.flatMap (Node.searchedAt (n :: above)) := by
  rw [Node.searchedAt, List.flatMap_subtype fun _ _ => rfl, List.unattach_attach]

theorem Node.map_fst_searchedAt (above : List Node) (n : Node) :
    (n.searchedAt above).map Prod.fst = n.searched := by
  induction n using Node.induction generalizing above with
  | step n ih =>
    rw [Node.searchedAt_eq, Node.searched_eq, List.map_cons, List.map_flatMap]
    congr 1
    exact List.flatMap_congr fun c hc => ih c (Node.mem_children_of_mem_entered hc) (n :: above)

theorem Node.mem_searchedAt_of_mem_entered {n q c : Node} {above outer : List Node}
    (hq : (q, above) ∈ n.searchedAt outer) (hc : c ∈ q.entered) :
    (c, q :: above) ∈ n.searchedAt outer := by
  induction n using Node.induction generalizing outer with
  | step n ih =>
    rw [Node.searchedAt_eq, List.mem_cons, List.mem_flatMap] at hq
    rw [Node.searchedAt_eq, List.mem_cons, List.mem_flatMap]
    rcases hq with hq | ⟨b, hb, hq⟩
    · obtain ⟨rfl, rfl⟩ := Prod.mk.inj hq
      refine .inr ⟨c, hc, ?_⟩
      rw [Node.searchedAt_eq]
      exact List.mem_cons_self ..
    · exact .inr ⟨b, hb, ih b (Node.mem_children_of_mem_entered hb) hq⟩

/-- All children of a node without a scope are searched, unless it is part of a
parameter list. -/
theorem Node.mem_entered_of_mem_children {q c : Node} (hq : q.hasScope = false)
    (hparam : q.isParameter = false) (hc : c ∈ q.children) : c ∈ q.entered := by
  have access : q.access = q.children.map (.entered, ·) := by
    unfold Node.access
    split
    · simp [Node.hasScope, Node.opens?] at hq
    · simp [Node.hasScope, Node.opens?] at hq
    · simp [Node.isParameter] at hparam
    · simp [Node.hasScope, Node.opens?] at hq
    · simp [Node.hasScope, Node.isComprehension] at hq
    · rfl
  simpa [Node.entered, access, List.filter_map, Function.comp_def] using hc

/-- The statements whose bindings make up the scope of a node. -/
def Node.scopeBody : Node → List Stmt
  | .module m => m.body
  | .stmt (.function f) => f.body
  | .stmt (.classDef c) => c.body
  | _ => []

theorem Node.opens?_eq_ofBody {p : Node} {s : Scope} (h : p.opens? = some s) :
    ∃ isClass params, s = .ofBody isClass params p.scopeBody ∧ p.paramNames = params.names := by
  unfold Node.opens? at h
  split at h
  · exact ⟨_, _, (Option.some.inj h).symm, rfl⟩
  · exact ⟨_, _, (Option.some.inj h).symm, rfl⟩
  · exact ⟨_, _, (Option.some.inj h).symm, rfl⟩
  · exact ⟨_, _, (Option.some.inj h).symm, rfl⟩
  · simp at h

/-- The places that a search of the scope of `p` meets. -/
def Node.places (p : Node) : List (Node × List Node) :=
  p.scopeBody.flatMap fun t => (Node.stmt t).searchedAt [p]

theorem Node.mem_places_of_mem_entered {p q c : Node} {above : List Node}
    (hq : (q, above) ∈ p.places) (hc : c ∈ q.entered) : (c, q :: above) ∈ p.places := by
  obtain ⟨t, ht, hq⟩ := List.mem_flatMap.1 hq
  exact List.mem_flatMap.2 ⟨t, ht, Node.mem_searchedAt_of_mem_entered hq hc⟩

/-- A part of a header is met by the search, or it is overlooked. -/
theorem Node.Header.overlooked_or_mem_places {p q : Node} {between above : List Node} {e : Expr}
    (h : q.Header between e) (hq : (q, above) ∈ p.places) :
    Overlooked (.expr e) (between ++ q :: above) ∨
      (.expr e, between ++ q :: above) ∈ p.places := by
  cases h with
  | @param f between e hpart =>
    have hparams : (.params f.params, .stmt (.function f) :: above) ∈ p.places :=
      Node.mem_places_of_mem_entered hq (by simp [Node.entered, Node.access])
    cases hpart with
    | default hd =>
      refine .inr (Node.mem_places_of_mem_entered hparams ?_)
      simp [Node.entered, Node.access, hd]
    | kwDefault hd =>
      refine .inr (Node.mem_places_of_mem_entered hparams ?_)
      simp [Node.entered, Node.access, hd]
    | declaredType => exact .inl (.declaredType (List.mem_cons_self ..))
  | decorator he =>
    exact .inr (Node.mem_places_of_mem_entered hq (by simp [Node.entered, Node.access, he]))
  | returns hr => exact .inl (.returns hr (List.nil_append _).symm)
  | lambdaParam => exact .inl (.lambda (List.mem_append_right _ (List.mem_cons_self ..)))
  | base he =>
    exact .inr (Node.mem_places_of_mem_entered hq (by simp [Node.entered, Node.access, he]))
  | @classKeyword c k hk =>
    have hkeyword : (.keyword k, .stmt (.classDef c) :: above) ∈ p.places :=
      Node.mem_places_of_mem_entered hq (by simp [Node.entered, Node.access, hk])
    refine .inr (Node.mem_places_of_mem_entered hkeyword ?_)
    simp [Node.entered, Node.access, Node.children]
  | classDecorator he =>
    exact .inr (Node.mem_places_of_mem_entered hq (by simp [Node.entered, Node.access, he]))
  | firstIterable =>
    exact .inl (.comprehension (List.mem_append_right _ (List.mem_cons_self ..)) rfl)

theorem Lineage.eq_nil_of_self {p : Node} {above : List Node} (h : Lineage p p above) :
    above = [] := by
  rcases h.eq_or_exists_child with ⟨-, hnil⟩ | ⟨c, -, below, rfl, -⟩
  · exact hnil
  · have hlt := (List.pairwise_cons.1 h.pairwise_sizeOf).1 p (by simp)
    exact absurd hlt (Nat.lt_irrefl _)

/-- What is evaluated in the scope of a node is met by the search of that scope,
or it is overlooked. -/
theorem Evaluated.overlooked_or_mem_places {p n : Node} {above openers : List Node} {s : Scope}
    (h : Evaluated p n above openers) (hs : p.opens? = some s) (hopeners : openers = [p]) :
    Overlooked n above ∨ n.isParameter = false ∧ (n, above) ∈ p.places := by
  induction h with
  | root => simp at hopeners
  | @plain q c above _ _ hscope hc ih =>
    rcases ih hopeners with hover | ⟨hparam, hmem⟩
    · exact .inl (hover.below [])
    · refine .inr ⟨?_, ?_⟩
      · rw [← Node.sameScope_eq_children hscope] at hc
        exact Node.isParameter_of_mem_sameScope hparam hc
      · exact Node.mem_places_of_mem_entered hmem
          (Node.mem_entered_of_mem_children hscope hparam hc)
  | @header q e between above _ _ hpart ih =>
    rcases ih hopeners with hover | ⟨-, hmem⟩
    · exact .inl (hover.below between)
    · rcases hpart.overlooked_or_mem_places hmem with hover | hmem
      · exact .inl hover
      · exact .inr ⟨rfl, hmem⟩
  | @body q c between above _ heval hpart _ =>
    -- the body is that of `p` itself, since nothing else is evaluated in its scope alone
    obtain ⟨rfl, -⟩ := List.cons.inj hopeners
    obtain rfl := heval.lineage.eq_nil_of_self
    have hfirst {t : Stmt} (ht : t ∈ q.scopeBody) : (.stmt t, [q]) ∈ q.places := by
      refine List.mem_flatMap.2 ⟨t, ht, ?_⟩
      rw [Node.searchedAt_eq]
      exact List.mem_cons_self ..
    cases hpart with
    | moduleStmt ht => exact .inr ⟨rfl, hfirst ht⟩
    | functionStmt ht => exact .inr ⟨rfl, hfirst ht⟩
    | classStmt ht => exact .inr ⟨rfl, hfirst ht⟩
    | lambdaBody => exact .inl (.lambda (List.mem_cons_self ..))
    | element | target | condition | laterIterable => simp [Node.opens?] at hs

/-! ## One binding counted, one place -/

theorem eq_of_flatMap_eq_singleton {α β : Type} {f : α → List β} {xs : List α} {b : β} {x y : α}
    (h : xs.flatMap f = [b]) (hx : x ∈ xs) (hy : y ∈ xs) (hfx : f x ≠ []) (hfy : f y ≠ []) :
    x = y := by
  induction xs with
  | nil => simp at hx
  | cons z xs ih =>
    rw [List.flatMap_cons, List.append_eq_singleton_iff] at h
    rcases h with ⟨hz, hrest⟩ | ⟨-, hrest⟩
    · -- the first element gives nothing, so neither `x` nor `y` is the first
      rcases List.mem_cons.1 hx with rfl | hx
      · exact absurd hz hfx
      · rcases List.mem_cons.1 hy with rfl | hy
        · exact absurd hz hfy
        · exact ih hrest hx hy
    · have hnone := List.flatMap_eq_nil_iff.1 hrest
      rcases List.mem_cons.1 hx with rfl | hx
      · rcases List.mem_cons.1 hy with rfl | hy
        · rfl
        · exact absurd (hnone y hy) hfy
      · exact absurd (hnone x hx) hfx

section Places

variable {p : Node} {s : Scope} {name : String} {d : FunctionDef}

/-- Of the places that the search meets, one binds the name, by the `def`. -/
theorem flatMap_places_eq (hs : p.opens? = some s) (hd : s.function? name = some d) :
    name ∉ p.paramNames ∧
      p.places.flatMap (fun x => x.1.occurrences.filter fun o => o.2 = name) =
        [(.stmt (.function d), name)] := by
  obtain ⟨isClass, params, rfl, hparams⟩ := Node.opens?_eq_ofBody hs
  have hplaces : p.places.map Prod.fst = p.scopeBody.flatMap fun t => (Node.stmt t).searched := by
    rw [Node.places, List.map_flatMap]
    exact List.flatMap_congr fun t _ => Node.map_fst_searchedAt [p] (.stmt t)
  have hlone := (function?_ofBody_iff.1 hd).1
  rw [occurrencesOf, bindingOccurrences, ← hplaces, List.filter_append, List.filter_flatMap,
    List.flatMap_map, List.append_eq_singleton_iff] at hlone
  rcases hlone with ⟨hnone, hplaced⟩ | ⟨hlone, -⟩
  · refine ⟨?_, hplaced⟩
    rw [hparams]
    intro hname
    obtain ⟨q, hq, rfl⟩ := List.mem_map.1 hname
    have hfree := List.filter_eq_nil_iff.1 hnone _ (List.mem_map_of_mem hq)
    simp at hfree
  · -- a parameter is no `def`
    have hmem := hlone ▸ List.mem_singleton_self (Node.stmt (.function d), name)
    obtain ⟨q, -, heq⟩ := List.mem_map.1 (List.mem_filter.1 hmem).1
    cases (Prod.mk.inj heq).1

theorem name_eq_of_function? (hs : p.opens? = some s) (hd : s.function? name = some d) :
    d.name = name := by
  have hmem := (flatMap_places_eq hs hd).2 ▸ List.mem_singleton_self (Node.stmt (.function d), name)
  obtain ⟨⟨n, above⟩, -, hmem⟩ := List.mem_flatMap.1 hmem
  obtain ⟨bound, hbound, heq⟩ := List.mem_map.1 (List.mem_filter.1 hmem).1
  obtain ⟨rfl, rfl⟩ := Prod.mk.inj heq
  exact (List.mem_singleton.1 hbound).symm

/-- Two places of the search that bind the name are the same place. -/
theorem eq_of_mem_places (hs : p.opens? = some s) (hd : s.function? name = some d)
    {x y : Node × List Node} (hx : x ∈ p.places) (hy : y ∈ p.places)
    (hxname : name ∈ x.1.boundNames) (hyname : name ∈ y.1.boundNames) : x = y := by
  have hcounted {z : Node × List Node} (hz : name ∈ z.1.boundNames) :
      (z.1.occurrences.filter fun o => o.2 = name) ≠ [] := by
    refine List.ne_nil_of_mem (a := (z.1, name)) ?_
    exact List.mem_filter.2 ⟨List.mem_map_of_mem hz, by simp⟩
  exact eq_of_flatMap_eq_singleton (flatMap_places_eq hs hd).2 hx hy (hcounted hxname)
    (hcounted hyname)

end Places

/-! ## Parts of expressions -/

/-- Expressions and what stands between them. -/
def Node.isExprPart : Node → Bool
  | .expr _ | .params _ | .param _ | .keyword _ | .clause _ => true
  | _ => false

theorem Node.isExprPart_of_mem_children {n c : Node} (hn : n.isExprPart = true)
    (hc : c ∈ n.children) : c.isExprPart = true := by
  revert c
  cases n with
  | expr e =>
    cases e with
    | dict span es =>
      intro c hc
      rcases List.mem_append.1 hc with hc | hc
      · obtain ⟨k, -, rfl⟩ := List.mem_map.1 hc
        rfl
      · obtain ⟨v, -, rfl⟩ := List.mem_map.1 hc
        rfl
    | _ => simp [Node.children, Expr.children, Node.isExprPart, or_imp, forall_and]
  | params ps => simp [Node.children, Params.children, Node.isExprPart, or_imp, forall_and]
  | param _ | keyword _ | clause _ =>
    simp [Node.children, Node.isExprPart, or_imp, forall_and]
  | _ => simp [Node.isExprPart] at hn

/-- Whatever stands below an expression is part of it. -/
theorem Lineage.isExprPart {p n a : Node} {above : List Node} (h : Lineage p n above)
    (ha : a ∈ n :: above) (hpart : a.isExprPart = true) : n.isExprPart = true := by
  induction h with
  | root =>
    obtain rfl := List.mem_singleton.1 ha
    exact hpart
  | child _ hc ih =>
    rcases List.mem_cons.1 ha with rfl | ha
    · exact hpart
    · exact Node.isExprPart_of_mem_children (ih ha) hc

theorem Overlooked.isExprPart {p n : Node} {above : List Node} (h : Overlooked n above)
    (hn : Lineage p n above) : n.isExprPart = true := by
  cases h with
  | lambda hmem => exact hn.isExprPart (List.mem_cons_of_mem _ hmem) rfl
  | comprehension hmem ha =>
    refine hn.isExprPart (List.mem_cons_of_mem _ hmem) ?_
    unfold Node.isComprehension at ha
    split at ha
    · rfl
    · simp at ha
  | declaredType hmem => exact hn.isExprPart (List.mem_cons_of_mem _ hmem) rfl
  | @returns _ nearer farther f r _ heq =>
    refine hn.isExprPart (a := .expr r) ?_ rfl
    rw [heq]
    simp

/-- In an expression, a name is bound only where it is stored or deleted. -/
theorem Node.eq_name_of_mem_boundNames {n : Node} {name : String} (hn : n.isExprPart = true)
    (h : name ∈ n.boundNames) :
    ∃ span use, use ≠ .load ∧ n = .expr (.name span name use) := by
  cases n with
  | expr e =>
    cases e with
    | name span id use =>
      cases use with
      | load => simp [Node.boundNames] at h
      | store =>
        obtain rfl := List.mem_singleton.1 h
        exact ⟨span, .store, by simp, rfl⟩
      | delete =>
        obtain rfl := List.mem_singleton.1 h
        exact ⟨span, .delete, by simp, rfl⟩
    | _ => simp [Node.boundNames] at h
  | params _ | param _ | keyword _ | clause _ => simp [Node.boundNames] at h
  | _ => simp [Node.isExprPart] at hn

/-! ## Where the `def` of a scope stands -/

theorem Lineage.isBlock_of_mem {c x : Node} {between : List Node} (h : Lineage c x between)
    (hc : ∀ m, c ≠ .module m) (hx : x.isBlock = true) :
    c.isBlock = true ∧ ∀ a ∈ between, a.isBlock = true := by
  induction h with
  | root => exact ⟨hx, by simp⟩
  | @child q x above hq hchild ih =>
    have hmodule : ∀ m, q ≠ .module m := by
      cases hq with
      | root => exact hc
      | child _ hq => exact Node.ne_module_of_mem_children hq
    have hblock : q.isBlock = true := by
      by_contra hfalse
      have := Node.isBlock_eq_false_of_mem_children (Bool.eq_false_iff.2 hfalse) hmodule hchild
      simp [hx] at this
    obtain ⟨hfirst, habove⟩ := ih hblock
    refine ⟨hfirst, ?_⟩
    intro a ha
    rcases List.mem_cons.1 ha with rfl | ha
    · exact hblock
    · exact habove a ha

/-- A statement directly below a node that opens a scope is in that scope. -/
theorem Node.body_of_isBlock {p c : Node} {s : Scope} (hs : p.opens? = some s)
    (hc : c ∈ p.children) (hblock : c.isBlock = true) : p.Body [] c := by
  unfold Node.opens? at hs
  split at hs
  · obtain ⟨t, ht, rfl⟩ := List.mem_map.1 hc
    exact .moduleStmt ht
  · simp only [Node.children, Stmt.children, List.mem_append, List.mem_cons, List.mem_map] at hc
    rcases hc with ((rfl | ⟨t, ht, rfl⟩) | ⟨e, -, rfl⟩) | ⟨e, -, rfl⟩
    · simp at hblock
    · exact .functionStmt ht
    · simp at hblock
    · simp at hblock
  · simp only [Node.children, Stmt.children, List.mem_append, List.mem_map] at hc
    rcases hc with ((⟨e, -, rfl⟩ | ⟨k, -, rfl⟩) | ⟨t, ht, rfl⟩) | ⟨e, -, rfl⟩
    · simp at hblock
    · simp at hblock
    · exact .classStmt ht
    · simp at hblock
  · simp only [Node.children, Expr.children, List.mem_cons, List.not_mem_nil, or_false] at hc
    rcases hc with rfl | rfl <;> simp at hblock
  · simp at hs

/-- Below a body part, and with no scope in between, everything is evaluated in
the scope of the body. -/
theorem Lineage.evaluated {p c x : Node} {between : List Node} (h : Lineage c x between)
    (hc : p.Body [] c) (hclosed : ∀ a ∈ between, a.hasScope = false) :
    Evaluated p x (between ++ [p]) [p] := by
  induction h with
  | root => exact .body .root hc
  | @child q x above _ hx ih =>
    have hq : Evaluated p q (above ++ [p]) [p] :=
      ih fun a ha => hclosed a (List.mem_cons_of_mem _ ha)
    exact hq.plain (hclosed q (List.mem_cons_self ..)) hx

/-- The `def` that a scope answers with is evaluated in that scope, and no other
scope is opened on the way down to it. -/
theorem exists_evaluated_of_function? {p : Node} {s : Scope} {name : String} {d : FunctionDef}
    (hs : p.opens? = some s) (hd : s.function? name = some d) :
    ∃ between, Evaluated p (.stmt (.function d)) (between ++ [p]) [p] ∧
      ∀ a ∈ between, a.opens? = none := by
  obtain ⟨c, hc, between, hlineage, hopen⟩ := exists_directlyBelow_of_function? hs hd
  have hclosed := List.filterMap_eq_nil_iff.1 hopen
  obtain ⟨hfirst, hblocks⟩ := hlineage.isBlock_of_mem (Node.ne_module_of_mem_children hc) rfl
  refine ⟨between, hlineage.evaluated (Node.body_of_isBlock hs hc hfirst) ?_, hclosed⟩
  intro a ha
  have hblock := hblocks a ha
  cases a with
  | stmt _ | handler _ | case _ => simp [Node.hasScope, hclosed _ ha, Node.isComprehension]
  | _ => simp [Node.isBlock] at hblock

theorem Node.BindsAt.evaluated {p n : Node} {name : String} {above : List Node}
    (h : p.BindsAt name n above) : ∃ inner, Evaluated p n above (inner ++ [p]) := by
  cases h with
  | own heval => exact ⟨[], heval⟩
  | hoisted heval => exact ⟨_, heval⟩

theorem Node.BindsAt.mem_above {p n : Node} {name : String} {above : List Node}
    (h : p.BindsAt name n above) : p ∈ above := by
  obtain ⟨inner, heval⟩ := h.evaluated
  exact heval.sublist.subset (by simp)

theorem Node.BindsAt.mem_boundNames {p n : Node} {name : String} {above : List Node}
    (h : p.BindsAt name n above) : name ∈ n.boundNames := by
  cases h with
  | own _ hbound _ => exact hbound
  | hoisted _ _ _ _ hbound _ => exact hbound

/-- A binding from inside stands below another definition than `p`. -/
theorem Node.BindsFromInside.exists_definition {p n : Node} {name : String} {above : List Node}
    (h : p.BindsFromInside name n above) : ∃ q ∈ above, q.isDefinition = true ∧ q ≠ p := by
  cases h with
  | @global m q _ outer openers inner hp hq _ _ hbinds _ =>
    refine ⟨q, List.mem_append_left _ hbinds.mem_above, hq, ?_⟩
    rintro rfl
    simp [hp, Node.isDefinition] at hq
  | @nonlocal d q _ outer between inner hp hq hinside _ _ hbinds _ =>
    refine ⟨q, List.mem_append_left _ hbinds.mem_above, hq, ?_⟩
    rintro rfl
    have hself : q ∈ outer := hinside.sublist.subset (by simp)
    rw [hinside.lineage.eq_nil_of_self] at hself
    simp at hself

theorem Node.opens?_ne_none_of_isDefinition {q : Node} (h : q.isDefinition = true) :
    q.opens? ≠ none := by
  unfold Node.isDefinition at h
  split at h
  · simp [Node.opens?]
  · simp [Node.opens?]
  · simp at h

/-! ## The only binding of a name -/

/-- A binding of the name that the search does not overlook is the `def`, at its
place. -/
theorem Node.BindsAt.eq_or_overlooked {p n : Node} {s : Scope} {name : String} {d : FunctionDef}
    {above place : List Node} (hs : p.opens? = some s) (hd : s.function? name = some d)
    (hplace : Evaluated p (.stmt (.function d)) place [p]) (hname : d.name = name)
    (h : p.BindsAt name n above) : (n = .stmt (.function d) ∧ above = place) ∨
      Overlooked n above := by
  cases h with
  | @hoisted inner heval hne hinner =>
    obtain ⟨a, ha⟩ := List.exists_mem_of_ne_nil inner hne
    exact .inr (.comprehension (heval.sublist.subset (List.mem_append_left _ ha)) (hinner a ha))
  | own heval hbound _ =>
    rcases heval.overlooked_or_mem_places hs rfl with hover | ⟨-, hmem⟩
    · exact .inr hover
    · rcases hplace.overlooked_or_mem_places hs rfl with hover | ⟨-, hdef⟩
      · have := hover.isExprPart hplace.lineage
        simp [Node.isExprPart] at this
      · have heq := eq_of_mem_places hs hd hmem hdef hbound (by simp [Node.boundNames, hname])
        exact .inl (Prod.mk.inj heq)

/-- **When a resolved name has no other binding.**  If a scope answers a name
with a `def`, the `def` has that name, binds it in the scope and is evaluated
there.  Every other binding of the name in the scope is a stored or deleted name
inside a lambda, a comprehension or an annotation.  The `def` is the only binding
that the language makes in the scope if and only if there is none of these and
none is made from inside a nested definition. -/
theorem function?_sole_binding_iff {p : Node} {s : Scope} {name : String} {d : FunctionDef}
    (hs : p.opens? = some s) (hd : s.function? name = some d) :
    d.name = name ∧ name ∉ p.paramNames ∧
      ∃ place, p.BindsAt name (.stmt (.function d)) place ∧
        (∀ n above, p.BindsAt name n above → (n = .stmt (.function d) ∧ above = place) ∨
          Overlooked n above ∧ ∃ span use, use ≠ .load ∧ n = .expr (.name span name use)) ∧
        ((∀ n above, p.BindsAt name n above ∨ p.BindsFromInside name n above →
            n = .stmt (.function d) ∧ above = place) ↔
          (∀ n above, p.BindsAt name n above → ¬Overlooked n above) ∧
            ∀ n above, ¬p.BindsFromInside name n above) := by
  have hname := name_eq_of_function? hs hd
  obtain ⟨between, heval, hclosed⟩ := exists_evaluated_of_function? hs hd
  have hseen : ¬Overlooked (.stmt (.function d)) (between ++ [p]) := by
    intro hover
    have hpart := hover.isExprPart heval.lineage
    simp [Node.isExprPart] at hpart
  refine ⟨hname, (flatMap_places_eq hs hd).1, between ++ [p], ?_, ?_, ?_⟩
  · refine .own heval (List.mem_singleton.2 hname.symm) ?_
    intro hp
    simp [Node.opens?_eq_none_of_isComprehension hp] at hs
  · intro n above h
    rcases h.eq_or_overlooked hs hd heval hname with heq | hover
    · exact .inl heq
    · obtain ⟨inner, hn⟩ := h.evaluated
      exact .inr ⟨hover,
        Node.eq_name_of_mem_boundNames (hover.isExprPart hn.lineage) h.mem_boundNames⟩
  · constructor
    · intro hall
      refine ⟨?_, ?_⟩
      · intro n above h hover
        obtain ⟨rfl, rfl⟩ := hall n above (.inl h)
        exact hseen hover
      · -- the nodes above the `def` open no scope, so none of them is a definition
        intro n above h
        obtain ⟨rfl, rfl⟩ := hall n above (.inr h)
        obtain ⟨q, hq, hdefinition, hne⟩ := h.exists_definition
        rcases List.mem_append.1 hq with hq | hq
        · exact Node.opens?_ne_none_of_isDefinition hdefinition (hclosed q hq)
        · exact hne (List.mem_singleton.1 hq)
    · rintro ⟨hvisible, hinside⟩ n above (h | h)
      · rcases h.eq_or_overlooked hs hd heval hname with heq | hover
        · exact heq
        · exact absurd hover (hvisible n above h)
      · exact absurd h (hinside n above)

/-! ### Trees without anything to miss -/

/-- Whether a node is none of those in or by which a binding can be missed. -/
def Node.isTransparent : Node → Bool
  | .expr (.lambda _) | .expr (.comprehension ..) | .param _ | .stmt (.declaration ..) => false
  | .stmt (.function f) => f.returns?.isNone
  | _ => true

theorem not_overlooked_of_isTransparent {n : Node} {above : List Node}
    (h : ∀ a ∈ n :: above, a.isTransparent = true) : ¬Overlooked n above := by
  intro hover
  cases hover with
  | lambda hmem => simpa [Node.isTransparent] using h _ (List.mem_cons_of_mem _ hmem)
  | comprehension hmem ha =>
    have htransparent := h _ (List.mem_cons_of_mem _ hmem)
    unfold Node.isComprehension at ha
    split at ha
    · simp [Node.isTransparent] at htransparent
    · simp at ha
  | declaredType hmem => simpa [Node.isTransparent] using h _ (List.mem_cons_of_mem _ hmem)
  | @returns _ nearer farther f r hr heq =>
    have htransparent := h (.stmt (.function f)) (by rw [heq]; simp)
    simp [Node.isTransparent, hr] at htransparent

theorem Node.BindsFromInside.exists_declaration {p n : Node} {name : String} {above : List Node}
    (h : p.BindsFromInside name n above) :
    ∃ span form names, Node.stmt (.declaration span form names) ∈ p.preorder := by
  have below {q : Node} {outer openers : List Node} {form : DeclarationForm}
      (hq : Evaluated p q outer openers) (hdeclares : q.DeclaresName form name) :
      ∃ span form names, Node.stmt (.declaration span form names) ∈ p.preorder := by
    obtain ⟨span, names, inner, hdeclaration, -⟩ := hdeclares
    exact ⟨span, form, names, mem_preorder_iff.2 ⟨_, hdeclaration.lineage.trans hq.lineage⟩⟩
  cases h with
  | global _ _ hinside hdeclares _ _ => exact below hinside hdeclares
  | nonlocal _ _ hinside hdeclares _ _ _ => exact below hinside hdeclares

theorem nothing_missed_of_isTransparent {p : Node}
    (h : ∀ n ∈ p.preorder, n.isTransparent = true) (name : String) :
    (∀ n above, p.BindsAt name n above → ¬Overlooked n above) ∧
      ∀ n above, ¬p.BindsFromInside name n above := by
  refine ⟨?_, ?_⟩
  · intro n above hbinds
    obtain ⟨inner, heval⟩ := hbinds.evaluated
    refine not_overlooked_of_isTransparent ?_
    intro a ha
    rcases List.mem_cons.1 ha with rfl | ha
    · exact h a (mem_preorder_iff.2 ⟨above, heval.lineage⟩)
    · exact h a (heval.lineage.mem_preorder_of_mem_above ha)
  · intro n above hbinds
    obtain ⟨span, form, names, hmem⟩ := hbinds.exists_declaration
    simpa [Node.isTransparent] using h _ hmem

/-- `def go(): return {"execute": run}` and one more statement. -/
def factoryAnd (t : Stmt) : Node := .module ⟨[.function namingFactory, t]⟩

theorem function?_factoryAnd {t : Stmt}
    (h : (Node.stmt t).bindings.filter (fun b => b.name = "go") = []) :
    (Scope.ofBody false .empty [.function namingFactory, t]).function? "go" =
      some namingFactory := by
  have hoccurrences : (Scope.ofBody false .empty [.function namingFactory, t]).occurrences "go" =
      [⟨"go", some namingFactory⟩] := by
    simp [Scope.occurrences, Scope.ofBody, h, Node.bindings_eq (.stmt (.function _)),
      namingFactory, returning, Params.empty, Params.names, Params.all, Params.defaults,
      Params.kwDefaults, Node.ownBindings, Node.sameScope]
  rw [Scope.function?, hoccurrences]

/-- In a module of two functions the factory is the only binding of its name. -/
theorem function?_sole_binding_iff_factoryAnd :
    let s := Scope.ofBody false .empty [.function namingFactory, .function (runner "a")]
    (factoryAnd (.function (runner "a"))).opens? = some s ∧
      s.function? "go" = some namingFactory ∧
      ∃ place, ∀ n above, (factoryAnd (.function (runner "a"))).BindsAt "go" n above ∨
          (factoryAnd (.function (runner "a"))).BindsFromInside "go" n above →
        n = .stmt (.function namingFactory) ∧ above = place := by
  intro s
  have hopens : (factoryAnd (.function (runner "a"))).opens? = some s := rfl
  have hfunction : s.function? "go" = some namingFactory := by
    refine function?_factoryAnd ?_
    simp [Node.bindings_eq, runner, returning, Params.empty, Params.defaults, Params.kwDefaults,
      Node.ownBindings, Node.sameScope]
  have htransparent : ∀ n ∈ (factoryAnd (.function (runner "a"))).preorder,
      n.isTransparent = true := by
    simp [factoryAnd, namingFactory, runner, returning, stateDisplay, displayOf,
      Node.preorder_eq, Node.children, Stmt.children, Expr.children, Params.children, Params.empty,
      Params.defaults, Params.kwDefaults, Entry.key?, Entry.value, Node.isTransparent]
  obtain ⟨-, -, place, -, -, hiff⟩ := function?_sole_binding_iff hopens hfunction
  exact ⟨hopens, hfunction, place, hiff.2 (nothing_missed_of_isTransparent htransparent "go")⟩

/-! ### Rebindings that are missed -/

/-- `(go := f)`. -/
def reassigned : Expr :=
  .compound default .named [.name default "go" .store, .name default "f" .load]

/-- `[(go := f) for f in factories]`. -/
def reboundInElement : Stmt :=
  .simple default .expression [.comprehension default .list [reassigned]
    [⟨.name default "f" .store, .name default "factories" .load, []⟩]]

/-- `[f for f in factories if (go := f)]`. -/
def reboundInCondition : Stmt :=
  .simple default .expression [.comprehension default .list [.name default "f" .load]
    [⟨.name default "f" .store, .name default "factories" .load, [reassigned]⟩]]

/-- `lambda x=(go := f): x`. -/
def reboundInLambda : Stmt :=
  .simple default .expression [.lambda ⟨default,
    ⟨[], [⟨default, "x", none, some reassigned⟩], none, [], none⟩, .name default "x" .load⟩]

/-- `def other(x: (go := f)): return x`. -/
def reboundInType : Stmt :=
  .function { returning "other" (.name default "x" .load) with
    params := ⟨[], [⟨default, "x", some reassigned, none⟩], none, [], none⟩ }

/-- `def other() -> (go := f): return f`. -/
def reboundInReturns : Stmt :=
  .function { returning "other" (.name default "f" .load) with returns? := some reassigned }

/-- `def other(): global go; go = f`. -/
def reboundFromInside : FunctionDef :=
  { returning "other" (.name default "f" .load) with
    body := [.declaration default .global ["go"],
      .simple default .assign [.name default "go" .store, .name default "f" .load]] }

theorem Evaluated.reassigned {p : Node} {above openers : List Node}
    (h : Evaluated p (.expr reassigned) above openers) :
    Evaluated p (.expr (.name default "go" .store)) (.expr StateCoverage.reassigned :: above)
      openers :=
  h.plain rfl (List.mem_cons_self ..)

theorem evaluated_second (t : Stmt) :
    Evaluated (factoryAnd t) (.stmt t) [factoryAnd t] [factoryAnd t] :=
  .body .root (.moduleStmt (List.mem_cons_of_mem _ (List.mem_singleton_self t)))

theorem bindsAt_of_evaluated {t : Stmt} {above : List Node}
    (h : Evaluated (factoryAnd t) (.expr reassigned) above [factoryAnd t]) :
    (factoryAnd t).BindsAt "go" (.expr (.name default "go" .store))
      (.expr reassigned :: above) := by
  refine .own h.reassigned (List.mem_singleton_self _) ?_
  intro hmodule
  simp [factoryAnd, Node.isComprehension] at hmodule

theorem bindsAt_of_evaluated_comprehension {t : Stmt} {above : List Node} {a : Node}
    (ha : a.isComprehension = true)
    (h : Evaluated (factoryAnd t) (.expr reassigned) above [a, factoryAnd t]) :
    (factoryAnd t).BindsAt "go" (.expr (.name default "go" .store))
      (.expr reassigned :: above) :=
  @Node.BindsAt.hoisted _ _ _ _ [a] h.reassigned (by simp) (by simpa using ha) rfl
    (List.mem_singleton_self _) ⟨_, _, _, _, rfl, rfl⟩

theorem bindsFromInside_reboundFromInside :
    (factoryAnd (.function reboundFromInside)).BindsFromInside "go"
      (.expr (.name default "go" .store))
      ([.stmt (.simple default .assign [.name default "go" .store, .name default "f" .load]),
        .stmt (.function reboundFromInside)] ++ [factoryAnd (.function reboundFromInside)]) := by
  have hbody {t : Stmt} (ht : t ∈ reboundFromInside.body) :
      Evaluated (.stmt (.function reboundFromInside)) (.stmt t)
        [.stmt (.function reboundFromInside)] [.stmt (.function reboundFromInside)] :=
    .body .root (.functionStmt ht)
  refine .global rfl rfl (evaluated_second _) ⟨default, ["go"], _, hbody ?_, by simp⟩ ?_ rfl
  · simp [reboundFromInside]
  · refine .own ((hbody ?_).plain rfl ?_) (List.mem_singleton_self _)
      (by simp [Node.isComprehension])
    · simp [reboundFromInside]
    · simp [Node.children, Stmt.children]

/-- The module of the factory and the statement answers with the factory, although
`go` is also bound as an assigned name. -/
def MissesRebinding (t : Stmt) : Prop :=
  (∃ s, (factoryAnd t).opens? = some s ∧ s.function? "go" = some namingFactory) ∧
    ∃ above, (factoryAnd t).BindsAt "go" (.expr (.name default "go" .store)) above ∨
      (factoryAnd t).BindsFromInside "go" (.expr (.name default "go" .store)) above

theorem MissesRebinding.of_bindings {t : Stmt} {above : List Node}
    (hcollected : (Node.stmt t).bindings.filter (fun b => b.name = "go") = [])
    (hbinds : (factoryAnd t).BindsAt "go" (.expr (.name default "go" .store)) above ∨
      (factoryAnd t).BindsFromInside "go" (.expr (.name default "go" .store)) above) :
    MissesRebinding t :=
  ⟨⟨_, rfl, function?_factoryAnd hcollected⟩, above, hbinds⟩

/-- An assignment expression in an element or a condition of a comprehension, in
a default of a lambda, in the type of a parameter or in a return type binds `go`
in the module, and so does a function that declares `go` global; the module still
answers with the `def`. -/
theorem function?_misses_rebindings :
    MissesRebinding reboundInElement ∧ MissesRebinding reboundInCondition ∧
      MissesRebinding reboundInLambda ∧ MissesRebinding reboundInType ∧
      MissesRebinding reboundInReturns ∧ MissesRebinding (.function reboundFromInside) := by
  refine ⟨?_, ?_, ?_, ?_, ?_, ?_⟩
  · have hlist := (evaluated_second reboundInElement).plain rfl (List.mem_singleton_self _)
    have heval := hlist.body (.element (List.mem_singleton_self _))
    refine .of_bindings ?_ (.inl (bindsAt_of_evaluated_comprehension rfl heval))
    simp [reboundInElement, Node.bindings_eq, Node.ownBindings, Node.sameScope, Node.children,
      Stmt.children]
  · have hlist := (evaluated_second reboundInCondition).plain rfl (List.mem_singleton_self _)
    have heval := hlist.body (.condition (List.mem_singleton_self _) (List.mem_singleton_self _))
    refine .of_bindings ?_ (.inl (bindsAt_of_evaluated_comprehension rfl heval))
    simp [reboundInCondition, Node.bindings_eq, Node.ownBindings, Node.sameScope, Node.children,
      Stmt.children]
  · have hlambda := (evaluated_second reboundInLambda).plain rfl (List.mem_singleton_self _)
    have heval := hlambda.header (.lambdaParam (.default (List.mem_singleton_self _)))
    refine .of_bindings ?_ (.inl (bindsAt_of_evaluated heval))
    simp [reboundInLambda, Node.bindings_eq, Node.ownBindings, Node.sameScope, Node.children,
      Stmt.children]
  · have heval := (evaluated_second reboundInType).header
      (.param (.declaredType (List.mem_singleton_self _) rfl))
    refine .of_bindings ?_ (.inl (bindsAt_of_evaluated heval))
    simp [reboundInType, returning, Params.defaults, Params.kwDefaults, Node.bindings_eq,
      Node.ownBindings, Node.sameScope]
  · have heval := (evaluated_second reboundInReturns).header (.returns rfl)
    refine .of_bindings ?_ (.inl (bindsAt_of_evaluated heval))
    simp [reboundInReturns, returning, Params.empty, Params.defaults, Params.kwDefaults,
      Node.bindings_eq, Node.ownBindings, Node.sameScope]
  · refine .of_bindings ?_ (.inr bindsFromInside_reboundFromInside)
    simp [reboundFromInside, returning, Params.empty, Params.defaults, Params.kwDefaults,
      Node.bindings_eq, Node.ownBindings, Node.sameScope]

end StateCoverage
