import Mathlib.Data.List.Perm.Basic
import StateCoverage.Proofs.Sites
import StateCoverage.Proofs.ScopeChains

/-!
# The rule by which names are resolved

A name is resolved by the scopes around it: the nearest scope that binds the
name decides, and it decides for a `def` only if that `def` is the one binding
of the name.  What counts as a binding is said here without the collector of
scopes.

* `Node.access` — the children of a node, each with whether a search of the
  scope around the node goes into it.
* `bindingOccurrences` — every node of a scope that binds a name, in the order
  of the tree; the collector lists the same bindings in another order
  (`perm_bindings_ofBody`).
* `Tally` — what one pass over a scope needs to keep: a count for each name and
  its last `def` (`Tally.summarises_ofBody`).
* `resolution_exact` — what scopes and chains of scopes answer, in terms of the
  occurrences alone.
-/

namespace StateCoverage

/-! ## Binding occurrences -/

/-- Whether a search for the names of a scope goes into a part of the tree. -/
inductive Access where
  /-- The part belongs to the scope. -/
  | entered
  /-- The part has a scope of its own, or is an annotation. -/
  | shut
  deriving DecidableEq

/-- The children of a node in field order, as seen by a search of the scope
around the node.  Of a definition only decorators, defaults, bases and class
keywords are entered, and nothing of a lambda or a comprehension. -/
def Node.access : Node → List (Access × Node)
  | .stmt (.function f) =>
      (.entered, .params f.params) :: f.body.map (fun s => (.shut, .stmt s))
        ++ f.decorators.map (fun e => (.entered, .expr e))
        ++ f.returns?.toList.map fun e => (.shut, .expr e)
  | .stmt (.classDef c) =>
      c.bases.map (fun e => (.entered, .expr e)) ++ c.keywords.map (fun k => (.entered, .keyword k))
        ++ c.body.map (fun s => (.shut, .stmt s)) ++ c.decorators.map fun e => (.entered, .expr e)
  | .params ps =>
      ps.posOnly.map (fun p => (.shut, .param p)) ++ ps.plain.map (fun p => (.shut, .param p))
        ++ ps.vararg?.toList.map (fun p => (.shut, .param p))
        ++ ps.kwOnly.map (fun p => (.shut, .param p))
        ++ ps.kwDefaults.map (fun e => (.entered, .expr e))
        ++ ps.kwarg?.toList.map (fun p => (.shut, .param p))
        ++ ps.defaults.map fun e => (.entered, .expr e)
  | .expr (.lambda f) => [(.shut, .params f.params), (.shut, .expr f.body)]
  | .expr (.comprehension _ _ es cs) =>
      es.map (fun e => (.shut, .expr e)) ++ cs.map fun c => (.shut, .clause c)
  | n => n.children.map (.entered, ·)

/-- Every child is either entered or shut. -/
theorem Node.map_snd_access (n : Node) : n.access.map Prod.snd = n.children := by
  unfold Node.access
  split <;> simp [Node.children, Stmt.children, Expr.children, Params.children,
    Function.comp_def]

/-- The children that a search of the scope around the node goes into. -/
def Node.entered (n : Node) : List Node :=
  (n.access.filter fun a => a.1 = .entered).map Prod.snd

theorem Node.mem_children_of_mem_entered {n c : Node} (h : c ∈ n.entered) : c ∈ n.children := by
  obtain ⟨a, ha, rfl⟩ := List.mem_map.1 h
  rw [← n.map_snd_access]
  exact List.mem_map_of_mem (List.mem_filter.1 ha).1

/-- The nodes that a search of the scope around a node meets, in the order of
the tree. -/
def Node.searched (n : Node) : List Node :=
  n :: n.entered.attach.flatMap fun ⟨c, _⟩ => c.searched
termination_by sizeOf n
decreasing_by exact Node.sizeOf_lt_of_mem_children (Node.mem_children_of_mem_entered ‹_›)

theorem Node.searched_eq (n : Node) : n.searched = n :: n.entered.flatMap Node.searched := by
  rw [Node.searched, List.flatMap_subtype fun _ _ => rfl, List.unattach_attach]

/-- The names that a node binds by itself, a name declared to belong elsewhere
twice.  An import binds the name given to it, or else the first segment of the
dotted name. -/
def Node.boundNames : Node → List String
  | .stmt (.function f) => [f.name]
  | .stmt (.classDef c) => [c.name]
  | .stmt (.declaration _ _ names) => names.flatMap fun name => [name, name]
  | .expr (.name _ id .store) | .expr (.name _ id .delete) => [id]
  | .imported a =>
      match a.asName? with
      | some name => [name]
      | none => [String.ofList (a.name.toList.takeWhile (· ≠ '.'))]
  | .handler h => h.name?.toList
  | .pattern (.capture _ _ name?) | .pattern (.star _ name?) => name?.toList
  | .pattern (.mapping _ _ _ rest?) => rest?.toList
  | _ => []

/-- The bindings of a node, each as the node and the name. -/
def Node.occurrences (n : Node) : List (Node × String) :=
  n.boundNames.map (n, ·)

/-- The binding occurrences of the scope of a parameter list and a body. -/
def bindingOccurrences (params : Params) (body : List Stmt) : List (Node × String) :=
  params.all.map (fun p => (.param p, p.name)) ++
    (body.flatMap fun s => (Node.stmt s).searched).flatMap Node.occurrences

/-! ### The collector finds the same bindings -/

/-- The function that a node defines, unless it is an `async def`. -/
def Node.plainDef? : Node → Option FunctionDef
  | .stmt (.function f) => if f.isAsync then none else some f
  | _ => none

theorem Node.plainDef?_eq_some_iff {n : Node} {d : FunctionDef} :
    n.plainDef? = some d ↔ n = .stmt (.function d) ∧ d.isAsync = false := by
  unfold Node.plainDef?
  split
  · rename_i f
    cases hf : f.isAsync with
    | true =>
      refine iff_of_false (by simp) ?_
      rintro ⟨heq, hd⟩
      obtain rfl := Stmt.function.inj (Node.stmt.inj heq)
      simp [hf] at hd
    | false =>
      simp only [Bool.false_eq_true, if_false, Option.some.injEq, Node.stmt.injEq,
        Stmt.function.injEq]
      constructor
      · rintro rfl
        exact ⟨rfl, hf⟩
      · exact And.left
  · rename_i hn
    refine iff_of_false (by simp) ?_
    rintro ⟨rfl, -⟩
    exact hn d rfl

/-- An occurrence as the collector records it. -/
def bindingOf (o : Node × String) : Binding := ⟨o.2, o.1.plainDef?⟩

/-- Parameter lists and parameters, which no search of a scope lists. -/
def Node.isParameter : Node → Bool
  | .params _ | .param _ => true
  | _ => false

/-- The collector records what a node binds by itself. -/
theorem Node.map_bindingOf_occurrences (n : Node) :
    n.occurrences.map bindingOf = n.ownBindings := by
  unfold Node.occurrences
  cases n with
  | stmt s =>
    cases s <;> simp [Node.boundNames, Node.ownBindings, bindingOf, Node.plainDef?,
      Binding.other, List.map_flatMap]
  | expr e =>
    cases e with
    | name span id use =>
      cases use <;> simp [Node.boundNames, Node.ownBindings, bindingOf, Node.plainDef?,
        Binding.other]
    | _ => simp [Node.boundNames, Node.ownBindings]
  | pattern p =>
    cases p <;> simp [Node.boundNames, Node.ownBindings, bindingOf, Node.plainDef?,
      Binding.other]
  | imported a =>
    cases hname : a.asName? <;>
      simp [Node.boundNames, Node.ownBindings, Alias.boundName, hname, bindingOf, Node.plainDef?,
        Binding.other]
  | _ => simp [Node.boundNames, Node.ownBindings, bindingOf, Node.plainDef?, Binding.other]

/-- A name that a node binds by itself is collected with the node. -/
theorem Node.exists_mem_ownBindings {n : Node} {name : String} (h : name ∈ n.boundNames) :
    ∃ b ∈ n.ownBindings, b.name = name := by
  rw [← n.map_bindingOf_occurrences]
  exact ⟨_, List.mem_map_of_mem (List.mem_map_of_mem h), rfl⟩

/-- The bindings that a search of the scope around a node meets, in the order
of the tree. -/
def Node.searchedBindings (n : Node) : List Binding :=
  (n.searched.flatMap Node.occurrences).map bindingOf

theorem Node.searchedBindings_eq (n : Node) :
    n.searchedBindings =
      n.occurrences.map bindingOf ++ n.entered.flatMap Node.searchedBindings := by
  rw [Node.searchedBindings, Node.searched_eq, List.flatMap_cons, List.map_append,
    List.flatMap_assoc, List.map_flatMap]
  rfl

/-- The nodes below a node in the same scope are no parameters. -/
theorem Node.isParameter_of_mem_sameScope {n c : Node} (hn : n.isParameter = false)
    (hc : c ∈ n.sameScope) : c.isParameter = false := by
  revert c
  cases n with
  | params _ | param _ => simp [Node.isParameter] at hn
  | stmt s =>
    cases s <;> simp [Node.sameScope, Node.children, Stmt.children, Node.isParameter, or_imp,
      forall_and]
  | expr e =>
    cases e with
    | dict span es =>
      intro c hc
      rcases List.mem_append.1 hc with hc | hc
      · obtain ⟨k, -, rfl⟩ := List.mem_map.1 hc
        rfl
      · obtain ⟨v, -, rfl⟩ := List.mem_map.1 hc
        rfl
    | _ => simp [Node.sameScope, Node.children, Expr.children, Node.isParameter, or_imp, forall_and]
  | pattern p =>
    cases p <;> simp [Node.sameScope, Node.children, Pattern.children, Node.isParameter, or_imp,
      forall_and]
  | _ => simp [Node.sameScope, Node.children, Node.isParameter, or_imp, forall_and]

theorem Node.searchedBindings_params (ps : Params) :
    (Node.params ps).searchedBindings =
      (ps.kwDefaults ++ ps.defaults).flatMap fun e => (Node.expr e).searchedBindings := by
  rw [Node.searchedBindings_eq]
  simp [Node.occurrences, Node.boundNames, Node.entered, Node.access, List.filter_map,
    Function.comp_def, List.flatMap_map]

theorem Node.searchedBindings_keyword (k : Keyword) :
    (Node.keyword k).searchedBindings = (Node.expr k.value).searchedBindings := by
  rw [Node.searchedBindings_eq]
  simp [Node.occurrences, Node.boundNames, Node.entered, Node.access, Node.children]

/-- The search goes into the parts that share the scope, in another order. -/
theorem Node.perm_entered {n : Node} (hn : n.isParameter = false) :
    (n.entered.flatMap Node.searchedBindings).Perm
      (n.sameScope.flatMap Node.searchedBindings) := by
  unfold Node.sameScope
  split
  -- the search meets the decorators of a definition last, the collector first
  · rename_i f
    have entered : (Node.stmt (.function f)).entered =
        .params f.params :: f.decorators.map .expr := by
      simp [Node.entered, Node.access, List.filter_map, Function.comp_def]
    simp only [entered, List.flatMap_cons, Node.searchedBindings_params, List.flatMap_map,
      List.flatMap_append]
    rw [List.append_assoc (f.decorators.flatMap _)]
    exact List.perm_append_comm.trans (.append_left _ List.perm_append_comm)
  · rename_i c
    have entered : (Node.stmt (.classDef c)).entered =
        c.bases.map .expr ++ c.keywords.map .keyword ++ c.decorators.map .expr := by
      simp [Node.entered, Node.access, List.filter_map, Function.comp_def]
    simp only [entered, List.map_append, List.flatMap_append, List.flatMap_map,
      Node.searchedBindings_keyword]
    rw [List.append_assoc (c.decorators.flatMap _)]
    exact List.perm_append_comm
  · simp [Node.entered, Node.access]
  · simp [Node.entered, Node.access, List.filter_map, Function.comp_def]
  · rename_i hfunction hclass hlambda hcomprehension
    have access : n.access = n.children.map (.entered, ·) := by
      unfold Node.access
      split
      · exact absurd rfl (hfunction _)
      · exact absurd rfl (hclass _)
      · simp [Node.isParameter] at hn
      · exact absurd rfl (hlambda _)
      · exact absurd rfl (hcomprehension _ _ _ _)
      · rfl
    have entered : n.entered = n.children := by
      simp [Node.entered, access, List.filter_map, Function.comp_def]
    rw [entered]

/-- The collector lists the bindings that the search meets. -/
theorem Node.perm_bindings {n : Node} (hn : n.isParameter = false) :
    n.searchedBindings.Perm n.bindings := by
  induction n using Node.sameScope_induction with
  | step n ih =>
    rw [Node.searchedBindings_eq, Node.bindings_eq, Node.map_bindingOf_occurrences]
    refine List.Perm.append_left _ ((Node.perm_entered hn).trans ?_)
    exact List.Perm.flatMap_left _ fun c hc => ih c hc (Node.isParameter_of_mem_sameScope hn hc)

/-- The collector of a scope lists its binding occurrences. -/
theorem perm_bindings_ofBody (isClass : Bool) (params : Params) (body : List Stmt) :
    ((bindingOccurrences params body).map bindingOf).Perm
      (Scope.ofBody isClass params body).bindings := by
  have own : (params.all.map fun p => (Node.param p, p.name)).map bindingOf =
      params.names.map .other := by
    rw [Params.names, List.map_map, List.map_map]
    rfl
  rw [bindingOccurrences, List.map_append, own, Scope.ofBody]
  refine List.Perm.append_left _ ?_
  rw [List.flatMap_assoc, List.map_flatMap]
  exact List.Perm.flatMap_left _ fun s _ => Node.perm_bindings rfl

/-! ## What a scope answers -/

namespace Scope

variable {s t : Scope} {name : String} {d : FunctionDef}

theorem name_of_mem_occurrences {b : Binding} (h : b ∈ s.occurrences name) : b.name = name := by
  simpa using (List.mem_filter.1 h).2

theorem function?_eq_some_iff :
    s.function? name = some d ↔ s.occurrences name = [⟨name, some d⟩] := by
  constructor
  · intro h
    unfold Scope.function? at h
    split at h
    · rename_i b hb
      have hname : b.name = name := name_of_mem_occurrences (hb ▸ List.mem_singleton_self b)
      rw [hb, ← hname, ← h]
    · simp at h
  · intro h
    rw [Scope.function?, h]

/-- The order of the bindings is not looked at. -/
theorem binds_eq_of_perm (h : s.bindings.Perm t.bindings) (name : String) :
    s.binds name = t.binds name :=
  h.any_eq

theorem function?_eq_of_perm (h : s.bindings.Perm t.bindings) (name : String) :
    s.function? name = t.function? name := by
  ext d
  have hperm : (s.occurrences name).Perm (t.occurrences name) := h.filter _
  rw [function?_eq_some_iff, function?_eq_some_iff]
  constructor
  · intro hs
    exact List.perm_singleton.1 (hs ▸ hperm.symm)
  · intro ht
    exact List.perm_singleton.1 (ht ▸ hperm)

end Scope

/-- The occurrences of a name. -/
def occurrencesOf (params : Params) (body : List Stmt) (name : String) : List (Node × String) :=
  (bindingOccurrences params body).filter fun o => o.2 = name

theorem occurrencesOf_ne_nil_iff {params : Params} {body : List Stmt} {name : String} :
    occurrencesOf params body name ≠ [] ↔ name ∈ (bindingOccurrences params body).map Prod.snd := by
  rw [occurrencesOf, Ne, List.filter_eq_nil_iff, List.mem_map]
  simp

theorem perm_occurrences_ofBody (isClass : Bool) (params : Params) (body : List Stmt)
    (name : String) : ((occurrencesOf params body name).map bindingOf).Perm
      ((Scope.ofBody isClass params body).occurrences name) := by
  have h := (perm_bindings_ofBody isClass params body).filter fun b => b.name = name
  rw [List.filter_map] at h
  exact h

theorem binds_ofBody_iff {isClass : Bool} {params : Params} {body : List Stmt} {name : String} :
    (Scope.ofBody isClass params body).binds name = true ↔ occurrencesOf params body name ≠ [] := by
  have hlength := (perm_occurrences_ofBody isClass params body name).length_eq
  rw [Scope.binds_eq_not_isEmpty, Bool.not_eq_true', List.isEmpty_eq_false_iff,
    ← List.length_pos_iff, ← hlength, List.length_map, List.length_pos_iff]

theorem function?_ofBody_iff {isClass : Bool} {params : Params} {body : List Stmt} {name : String}
    {d : FunctionDef} : (Scope.ofBody isClass params body).function? name = some d ↔
      occurrencesOf params body name = [(.stmt (.function d), name)] ∧ d.isAsync = false := by
  have hperm := perm_occurrences_ofBody isClass params body name
  rw [Scope.function?_eq_some_iff]
  constructor
  · intro h
    rw [h, List.perm_singleton, List.map_eq_singleton_iff] at hperm
    obtain ⟨⟨n, name'⟩, ho, hbinding⟩ := hperm
    obtain ⟨rfl, hn⟩ := Binding.mk.inj hbinding
    obtain ⟨rfl, hasync⟩ := Node.plainDef?_eq_some_iff.1 hn
    exact ⟨ho, hasync⟩
  · rintro ⟨ho, hasync⟩
    have hbinding : bindingOf (.stmt (.function d), name) = ⟨name, some d⟩ := by
      simp [bindingOf, Node.plainDef?, hasync]
    rw [ho, List.map_singleton, hbinding, List.singleton_perm] at hperm
    exact hperm.symm

/-! ## What a chain of scopes answers -/

/-- The scope at `k` decides that the name means the function `d`, and no scope
before it binds the name. -/
def ResolvesAt (scopes : List Scope) (name : String) (k : Nat) (d : FunctionDef) : Prop :=
  (∀ j < k, ∀ s, scopes[j]? = some s → s.binds name = false) ∧
    ∃ s, scopes[k]? = some s ∧ s.function? name = some d

theorem Scope.binds_of_function? {s : Scope} {name : String} {d : FunctionDef}
    (h : s.function? name = some d) : s.binds name = true := by
  rw [Scope.binds_eq_not_isEmpty, Scope.function?_eq_some_iff.1 h]
  rfl

theorem resolvesAt_zero_iff {s : Scope} {scopes : List Scope} {name : String} {d : FunctionDef} :
    ResolvesAt (s :: scopes) name 0 d ↔ s.function? name = some d := by
  simp [ResolvesAt]

theorem resolvesAt_succ_iff {s : Scope} {scopes : List Scope} {name : String} {k : Nat}
    {d : FunctionDef} : ResolvesAt (s :: scopes) name (k + 1) d ↔
      s.binds name = false ∧ ResolvesAt scopes name k d := by
  simp only [ResolvesAt, List.getElem?_cons_succ]
  constructor
  · rintro ⟨hfree, hk⟩
    refine ⟨hfree 0 (Nat.succ_pos k) s rfl, ?_, hk⟩
    intro j hj
    exact hfree (j + 1) (Nat.succ_lt_succ hj)
  · rintro ⟨hs, hfree, hk⟩
    refine ⟨?_, hk⟩
    intro j hj t ht
    cases j with
    | zero =>
      obtain rfl := Option.some.inj ht
      exact hs
    | succ j => exact hfree j (Nat.lt_of_succ_lt_succ hj) t ht

/-- A scope in a chain can be replaced by one with the same answers. -/
theorem resolvesAt_replace {s t : Scope} {name : String} (hbinds : s.binds name = t.binds name)
    (hfunction : s.function? name = t.function? name) (inner outer : List Scope) (k : Nat)
    (d : FunctionDef) : ResolvesAt (inner ++ s :: outer) name k d ↔
      ResolvesAt (inner ++ t :: outer) name k d := by
  induction inner generalizing k with
  | nil => cases k <;> simp only [List.nil_append, resolvesAt_zero_iff, resolvesAt_succ_iff, *]
  | cons u inner ih =>
    cases k <;> simp only [List.cons_append, resolvesAt_zero_iff, resolvesAt_succ_iff, ih]

/-- A look-up follows the rule and gives the chain from the scope that
decides. -/
theorem Scope.lookup_eq_some_iff {name : String} {scopes chain : List Scope} {d : FunctionDef} :
    Scope.lookup name scopes = some (d, chain) ↔
      ∃ k, ResolvesAt scopes name k d ∧ chain = scopes.drop k := by
  induction scopes with
  | nil => simp [Scope.lookup, ResolvesAt]
  | cons s scopes ih =>
    rw [Scope.lookup]
    by_cases hbinds : s.binds name = true
    · rw [if_pos hbinds, Option.map_eq_some_iff]
      constructor
      · rintro ⟨f, hf, heq⟩
        obtain ⟨rfl, rfl⟩ := Prod.mk.inj heq
        exact ⟨0, resolvesAt_zero_iff.2 hf, rfl⟩
      · rintro ⟨k, hk, rfl⟩
        cases k with
        | zero => exact ⟨d, resolvesAt_zero_iff.1 hk, rfl⟩
        | succ k => simp [(resolvesAt_succ_iff.1 hk).1] at hbinds
    · rw [if_neg hbinds, ih]
      constructor
      · rintro ⟨k, hk, rfl⟩
        exact ⟨k + 1, resolvesAt_succ_iff.2 ⟨Bool.eq_false_iff.2 hbinds, hk⟩, rfl⟩
      · rintro ⟨k, hk, rfl⟩
        cases k with
        | zero => exact absurd (Scope.binds_of_function? (resolvesAt_zero_iff.1 hk)) hbinds
        | succ k => exact ⟨k, (resolvesAt_succ_iff.1 hk).2, rfl⟩

theorem ResolvesAt.lt_length {scopes : List Scope} {name : String} {k : Nat} {d : FunctionDef}
    (h : ResolvesAt scopes name k d) : k < scopes.length := by
  obtain ⟨-, s, hs, -⟩ := h
  exact (List.getElem?_eq_some_iff.1 hs).1

/-- A bare name is located by the rule. -/
theorem locate_name_eq_some_iff {span : Span} {name : String} {use : NameUse}
    {scopes chain : List Scope} {f : Callable} :
    locate (.expr (.name span name use)) scopes = some (f, chain) ↔
      ∃ k d, ResolvesAt scopes name k d ∧ f = .block d ∧ chain = scopes.drop k := by
  show (Scope.lookup name scopes).map (fun r => (Callable.block r.1, r.2)) = some (f, chain) ↔ _
  rw [Option.map_eq_some_iff]
  constructor
  · rintro ⟨⟨d, outer⟩, hlookup, heq⟩
    obtain ⟨rfl, rfl⟩ := Prod.mk.inj heq
    obtain ⟨k, hk, rfl⟩ := Scope.lookup_eq_some_iff.1 hlookup
    exact ⟨k, d, hk, rfl, rfl⟩
  · rintro ⟨k, d, hk, rfl, rfl⟩
    exact ⟨(d, scopes.drop k), Scope.lookup_eq_some_iff.2 ⟨k, hk, rfl⟩, rfl⟩

/-! ## A scope in one pass -/

/-- What one pass over a scope keeps of it: how often a name is bound, and the
last `def` that binds it. -/
structure Tally where
  count : String → Nat
  lastDef? : String → Option FunctionDef

namespace Tally

/-- The tally before the first binding. -/
def empty : Tally := ⟨fun _ => 0, fun _ => none⟩

/-- Counts a binding and, if a `def` makes it, keeps that. -/
def add (t : Tally) (b : Binding) : Tally where
  count name := if name = b.name then t.count name + 1 else t.count name
  lastDef? name := if name = b.name then b.function?.or (t.lastDef? name) else t.lastDef? name

/-- Adds the bindings of a node and then those of the nodes below it in the
same scope. -/
def collect (t : Tally) (n : Node) : Tally :=
  n.sameScope.attach.foldl (fun t ⟨c, _⟩ => t.collect c) (n.ownBindings.foldl add t)
termination_by sizeOf n
decreasing_by exact Node.sizeOf_lt_of_mem_sameScope ‹_›

theorem collect_eq (t : Tally) (n : Node) :
    t.collect n = n.sameScope.foldl collect (n.ownBindings.foldl add t) := by
  rw [collect, List.foldl_subtype fun _ _ _ => rfl, List.unattach_attach]

/-- The tally of a parameter list and a body. -/
def ofBody (params : Params) (body : List Stmt) : Tally :=
  body.foldl (fun t s => t.collect (.stmt s)) ((params.names.map .other).foldl add empty)

/-- Whether the name is bound at all. -/
def binds (t : Tally) (name : String) : Bool :=
  0 < t.count name

/-- The last `def` of a name that is bound once. -/
def function? (t : Tally) (name : String) : Option FunctionDef :=
  if t.count name = 1 then t.lastDef? name else none

/-- The tally is that of the bindings: it has their number and their last `def`
for each name. -/
structure Summarises (t : Tally) (bs : List Binding) : Prop where
  count_eq : ∀ name, t.count name = (bs.filter fun b => b.name = name).length
  lastDef?_eq : ∀ name, t.lastDef? name =
    ((bs.filter fun b => b.name = name).filterMap Binding.function?).getLast?

variable {t : Tally} {bs : List Binding}

theorem summarises_empty : empty.Summarises [] :=
  ⟨fun _ => rfl, fun _ => rfl⟩

theorem Summarises.add (h : t.Summarises bs) (b : Binding) :
    (t.add b).Summarises (bs ++ [b]) := by
  refine ⟨?_, ?_⟩
  · intro name
    show (if name = b.name then t.count name + 1 else t.count name) = _
    rw [h.count_eq, List.filter_append, List.length_append]
    by_cases hb : name = b.name
    · simp [hb]
    · simp [hb, Ne.symm hb]
  · intro name
    show (if name = b.name then b.function?.or (t.lastDef? name) else t.lastDef? name) = _
    rw [h.lastDef?_eq, List.filter_append, List.filterMap_append, List.getLast?_append]
    by_cases hb : name = b.name
    · cases hd : b.function? <;> simp [hb, hd]
    · simp [hb, Ne.symm hb]

theorem Summarises.foldl_add (h : t.Summarises bs) (bs' : List Binding) :
    (bs'.foldl Tally.add t).Summarises (bs ++ bs') := by
  induction bs' generalizing t bs with
  | nil => simpa using h
  | cons b bs' ih =>
    rw [List.append_cons]
    exact ih (h.add b)

/-- If nodes add their bindings one by one, a list of nodes adds them all. -/
theorem Summarises.foldl_collect {α : Type} {f : α → Node} {as : List α}
    (step : ∀ a ∈ as, ∀ {t : Tally} {bs : List Binding}, t.Summarises bs →
      (t.collect (f a)).Summarises (bs ++ (f a).bindings))
    (h : t.Summarises bs) :
    (as.foldl (fun t a => t.collect (f a)) t).Summarises
      (bs ++ as.flatMap fun a => (f a).bindings) := by
  induction as generalizing t bs with
  | nil => simpa using h
  | cons a as ih =>
    rw [List.flatMap_cons, ← List.append_assoc]
    exact ih (fun a' ha' => step a' (List.mem_cons_of_mem _ ha'))
      (step a (List.mem_cons_self ..) h)

/-- One pass over a node adds the bindings of the node. -/
theorem Summarises.collect (h : t.Summarises bs) (n : Node) :
    (t.collect n).Summarises (bs ++ n.bindings) := by
  induction n using Node.sameScope_induction generalizing t bs with
  | step n ih =>
    rw [collect_eq, Node.bindings_eq, ← List.append_assoc]
    exact Summarises.foldl_collect (f := id) (fun c hc _ _ hc' => ih c hc hc')
      (h.foldl_add n.ownBindings)

/-- The tally of a body is that of the scope of the body. -/
theorem summarises_ofBody (isClass : Bool) (params : Params) (body : List Stmt) :
    (ofBody params body).Summarises (Scope.ofBody isClass params body).bindings :=
  Summarises.foldl_collect (f := Node.stmt) (fun s _ _ _ h => h.collect (.stmt s))
    (summarises_empty.foldl_add _)

theorem Summarises.binds_eq {s : Scope} (h : t.Summarises s.bindings) (name : String) :
    t.binds name = s.binds name := by
  rw [Scope.binds_eq_not_isEmpty, binds, h.count_eq, ← Scope.occurrences]
  cases s.occurrences name <;> simp

/-- A count and the last `def` are enough: if there is one binding, the last
`def` is the one it was made by. -/
theorem Summarises.function?_eq {s : Scope} (h : t.Summarises s.bindings) (name : String) :
    t.function? name = s.function? name := by
  rw [function?, h.count_eq, h.lastDef?_eq, ← Scope.occurrences, Scope.function?]
  rcases s.occurrences name with _ | ⟨b, _ | ⟨b', bs⟩⟩
  · rfl
  · cases hd : b.function? <;> simp [hd]
  · simp

end Tally

/-! ## The rule -/

/-- **Names are resolved by the rule.**  A scope binds the names that have an
occurrence in it, and has for a name the `def` that is its only occurrence.  A
count and the last `def` for each name are enough to tell, and the order of the
statements does not matter.  Along a chain of scopes, a bare name is located at
the first scope that binds it, if that scope has a `def` for it, and nowhere
else. -/
theorem resolution_exact (isClass : Bool) (params : Params) (body : List Stmt) :
    (∀ name, (Scope.ofBody isClass params body).binds name = true ↔
        occurrencesOf params body name ≠ []) ∧
      (∀ name d, (Scope.ofBody isClass params body).function? name = some d ↔
        occurrencesOf params body name = [(.stmt (.function d), name)] ∧ d.isAsync = false) ∧
      (∀ name, (Tally.ofBody params body).binds name =
          (Scope.ofBody isClass params body).binds name ∧
        (Tally.ofBody params body).function? name =
          (Scope.ofBody isClass params body).function? name) ∧
      (∀ body', body.Perm body' → ∀ name,
        (Scope.ofBody isClass params body).binds name =
          (Scope.ofBody isClass params body').binds name ∧
        (Scope.ofBody isClass params body).function? name =
          (Scope.ofBody isClass params body').function? name ∧
        ∀ inner outer k d,
          ResolvesAt (inner ++ .ofBody isClass params body :: outer) name k d ↔
            ResolvesAt (inner ++ .ofBody isClass params body' :: outer) name k d) ∧
      ∀ scopes span name use,
        (∀ k d, locate (.expr (.name span name use)) scopes = some (.block d, scopes.drop k) ↔
          ResolvesAt scopes name k d) ∧
        (locate (.expr (.name span name use)) scopes = none ↔
          ∀ k d, ¬ResolvesAt scopes name k d) := by
  have tally := Tally.summarises_ofBody isClass params body
  refine ⟨fun _ => binds_ofBody_iff, fun _ _ => function?_ofBody_iff,
    fun name => ⟨tally.binds_eq name, tally.function?_eq name⟩, ?_, ?_⟩
  · intro body' hperm name
    have hbindings : (Scope.ofBody isClass params body).bindings.Perm
        (Scope.ofBody isClass params body').bindings :=
      .append_left _ (hperm.flatMap_right _)
    have hbinds := Scope.binds_eq_of_perm hbindings name
    have hfunction := Scope.function?_eq_of_perm hbindings name
    exact ⟨hbinds, hfunction, resolvesAt_replace hbinds hfunction⟩
  · intro scopes span name use
    refine ⟨?_, ?_⟩
    · intro k d
      rw [locate_name_eq_some_iff]
      constructor
      · rintro ⟨j, d', hj, heq, hdrop⟩
        obtain rfl := Callable.block.inj heq
        -- two ends of one chain are the same only if they start at one scope
        have hlength := congrArg List.length hdrop
        have hlt := hj.lt_length
        rw [List.length_drop, List.length_drop] at hlength
        obtain rfl : k = j := by omega
        exact hj
      · intro hk
        exact ⟨k, d, hk, rfl, rfl⟩
    · rw [Option.eq_none_iff_forall_ne_some]
      constructor
      · intro hnone k d hk
        exact hnone _ (locate_name_eq_some_iff.2 ⟨k, d, hk, rfl, rfl⟩)
      · rintro hfree ⟨f, chain⟩ hsome
        obtain ⟨k, d, hk, -, -⟩ := locate_name_eq_some_iff.1 hsome
        exact hfree k d hk

/-- The statements `import shop.orders`, `import shop as store` and `def go(): …`. -/
def importingBody : List Stmt :=
  [.importing default false [⟨default, "shop.orders", none⟩],
   .importing default false [⟨default, "shop", some "store"⟩], .function heldFactory]

/-- The parameter list `(ctx)`. -/
def contextParam : Params := ⟨[], [⟨default, "ctx", none, none⟩], none, [], none⟩

theorem bindingOccurrences_importingBody :
    bindingOccurrences contextParam importingBody =
      [(.param ⟨default, "ctx", none, none⟩, "ctx"),
       (.imported ⟨default, "shop.orders", none⟩, "shop"),
       (.imported ⟨default, "shop", some "store"⟩, "store"),
       (.stmt (.function heldFactory), "go")] := by
  have first : String.ofList ("shop.orders".toList.takeWhile (· ≠ '.')) = "shop" := by decide
  simp [bindingOccurrences, contextParam, importingBody, Params.all, heldFactory, Node.searched_eq,
    Node.entered, Node.access, Node.occurrences, Node.boundNames, Node.children, Stmt.children,
    Params.empty, Params.kwDefaults, Params.defaults, ← first]

/-- The factory of the class body is found under its name, also if the machine
that uses it came first.  A parameter binds its name, an import the first segment
of its dotted name or the name it is given, and nothing else. -/
theorem resolution_exact_holder :
    holder.body.Perm holder.body.reverse ∧
      occurrencesOf .empty holder.body "go" = [(.stmt (.function heldFactory), "go")] ∧
      (Scope.ofBody true .empty holder.body.reverse).function? "go" = some heldFactory ∧
      ResolvesAt heldSite.scopes "go" 0 heldFactory ∧
      ∀ name, (Scope.ofBody false contextParam importingBody).binds name = true ↔
        name ∈ ["ctx", "shop", "store", "go"] := by
  obtain ⟨-, hfunction, -, hperm, hchain⟩ := resolution_exact true .empty holder.body
  obtain ⟨hbinds, -⟩ := resolution_exact false contextParam importingBody
  have hreverse : holder.body.Perm holder.body.reverse := (List.reverse_perm _).symm
  have hlocate := ((hchain heldSite.scopes default "go" .load).1 0 heldFactory).1 locate_heldFactory
  have hheld : (Scope.ofBody true .empty holder.body).function? "go" = some heldFactory :=
    resolvesAt_zero_iff.1 hlocate
  refine ⟨hreverse, ((hfunction "go" heldFactory).1 hheld).1, ?_, hlocate, ?_⟩
  · rw [← (hperm _ hreverse "go").2.1]
    exact hheld
  · intro name
    rw [hbinds, occurrencesOf_ne_nil_iff, bindingOccurrences_importingBody]
    rfl

end StateCoverage
