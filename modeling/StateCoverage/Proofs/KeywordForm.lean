import StateCoverage.Proofs.Respelling

/-!
# The keyword form of a machine and its dict form

Writing the keywords of a constructor call as one dict display changes nothing
that the analysis reads.  The stages of the analysis are taken one after the
other: each gives related results for respelt trees, and the diagnostics at the
end are equal.

* `Node.Respelt.bindings`, `Node.Respelt.opens?` — respelt trees make the same
  bindings in the same order, up to the bodies of the functions bound.
* `Node.Respelt.executeThunk?`, `Callable.Respelt.returnedStates_eq` — respelt
  factories have respelt thunks, and these return the same states.
* `Call.structures?_withDisplay` — both forms of a call have the same `config`
  and `commands`, or neither has them.
* `Node.Respelt.constructorCalls` — the calls of the constructor come in the
  same order and see respelt scopes.
* `analyze_respelt` — respelt trees have the same diagnostics.
-/

namespace StateCoverage

/-! ## Bindings and scopes -/

/-- Two functions that are respelt. -/
def FunctionDef.Respelt (d d' : FunctionDef) : Prop :=
  Node.Respelt (.stmt (.function d)) (.stmt (.function d'))

/-- Two bindings of one name, by respelt functions if by functions. -/
structure Binding.Respelt (b b' : Binding) : Prop where
  name_eq : b.name = b'.name
  function? : Option.Rel FunctionDef.Respelt b.function? b'.function?

/-- Two scopes of one kind with the same bindings in the same order. -/
structure Scope.Respelt (s s' : Scope) : Prop where
  isClass_eq : s.isClass = s'.isClass
  bindings : List.Forall₂ Binding.Respelt s.bindings s'.bindings

theorem Binding.Respelt.refl (b : Binding) : b.Respelt b :=
  ⟨rfl, optionRel_refl (fun d => .same (.stmt (.function d))) _⟩

theorem forall₂_binding_refl (bs : List Binding) : List.Forall₂ Binding.Respelt bs bs :=
  List.forall₂_same.2 fun b _ => .refl b

/-- A respelt node binds the same names itself, to respelt functions. -/
theorem Node.Respelt.ownBindings {n n' : Node} (h : n.Respelt n') :
    List.Forall₂ Binding.Respelt n.ownBindings n'.ownBindings := by
  cases h with
  | @function s isAsync name ps ps' body body' ds ds' r? r?' hparams hbody hdecorators hreturns =>
    refine .cons ⟨rfl, ?_⟩ .nil
    cases isAsync with
    | true => exact .none
    | false => exact .some (.function hparams hbody hdecorators hreturns)
  | same | classDef | handler | mapping | capture => exact forall₂_binding_refl _
  | _ => exact .nil

/-- What belongs to the scope around a node is respelt, or the node is a call
that was rewritten. -/
theorem Node.Respelt.sameScope_or {n n' : Node} (h : n.Respelt n') :
    List.Forall₂ Node.Respelt n.sameScope n'.sameScope ∨ ∃ c span es, c.args = [] ∧
      List.Forall₂ Keyword.SpeltAs c.keywords es ∧ n = .expr (.call c) ∧
      n' = .expr (.call (c.withDisplay span es)) := by
  have hchildren := h.children_or
  cases h with
  | same => exact .inl (forall₂_respelt_refl _)
  | lambda | comprehension => exact .inl .nil
  | function hparams hbody hdecorators hreturns =>
    simp only [Node.sameScope, List.map_append]
    exact .inl (List.rel_append (List.rel_append hdecorators hparams.defaults) hparams.kwDefaults)
  | classDef hbases hkeywords hbody hdecorators =>
    simp only [Node.sameScope, List.map_append, List.map_map]
    refine .inl (List.rel_append (List.rel_append hdecorators hbases) ?_)
    rw [List.forall₂_map_left_iff, List.forall₂_map_right_iff] at hkeywords ⊢
    refine hkeywords.imp ?_
    intro k k' hk
    cases hk with
    | same => exact .same _
    | keyword h => exact h
  | _ => exact hchildren

/-- Related items that contribute related lists make related lists as a whole. -/
theorem forall₂_flatMap_of_rel {α β γ δ : Type} {R : α → β → Prop} {S : γ → δ → Prop}
    {f : α → List γ} {g : β → List δ} {xs : List α} {ys : List β} (h : List.Forall₂ R xs ys)
    (hfg : ∀ x ∈ xs, ∀ y, R x y → List.Forall₂ S (f x) (g y)) :
    List.Forall₂ S (xs.flatMap f) (ys.flatMap g) := by
  induction h with
  | nil => exact .nil
  | @cons x y xs ys hxy _ ih =>
    rw [List.flatMap_cons, List.flatMap_cons]
    exact List.rel_append (hfg x (List.mem_cons_self ..) y hxy)
      (ih fun z hz => hfg z (List.mem_cons_of_mem _ hz))

/-- A listing that passes through keywords and finds nothing in a string
literal finds the same in keywords and in a display that says the same. -/
theorem flatMap_keyword_eq {β : Type} {f : Node → List β}
    (hkeyword : ∀ k, f (.keyword k) = f (.expr k.value)) (htext : ∀ s t, f (.expr (.text s t)) = [])
    {ks : List Keyword} {es : List Entry} (h : List.Forall₂ Keyword.SpeltAs ks es) (span : Span) :
    (ks.map Node.keyword).flatMap f = (Node.expr (.dict span es)).children.flatMap f := by
  have hkeys : ((es.filterMap Entry.key?).map Node.expr).flatMap f = [] := by
    induction h with
    | nil => rfl
    | cons hk _ ih =>
      cases hk
      simpa [Entry.key?, htext] using ih
  have hvalues : (ks.map Node.keyword).flatMap f =
      (es.map fun e => Node.expr e.value).flatMap f := by
    clear hkeys
    induction h with
    | nil => rfl
    | cons hk _ ih =>
      cases hk
      rw [List.map_cons, List.map_cons, List.flatMap_cons, List.flatMap_cons, ih, hkeyword]
      rfl
  rw [hvalues, Node.children, Expr.children, List.flatMap_append, hkeys, List.nil_append]

/-- Such a listing does not see that a call was rewritten, but for the call
itself. -/
theorem Call.flatMap_children_withDisplay {β : Type} {f : Node → List β} {c : Call}
    {es : List Entry} (hkeyword : ∀ k, f (.keyword k) = f (.expr k.value))
    (htext : ∀ s t, f (.expr (.text s t)) = [])
    (hdict : ∀ s, f (.expr (.dict s es)) = (Node.expr (.dict s es)).children.flatMap f)
    (hargs : c.args = []) (h : List.Forall₂ Keyword.SpeltAs c.keywords es) (span : Span) :
    (Node.expr (.call (c.withDisplay span es))).children.flatMap f =
      (Node.expr (.call c)).children.flatMap f := by
  have hcall : (Node.expr (.call c)).children = .expr c.callee :: c.keywords.map .keyword := by
    simp [Node.children, Expr.children, hargs]
  have hdisplay : (Node.expr (.call (c.withDisplay span es))).children =
      [.expr c.callee, .expr (.dict span es)] := rfl
  rw [hcall, hdisplay, List.flatMap_cons, List.flatMap_cons, List.flatMap_cons, List.flatMap_nil,
    List.append_nil, hdict, flatMap_keyword_eq hkeyword htext h span]

/-- A rewritten call binds what it bound: its keywords bind nothing, nor do the
keys. -/
theorem Call.bindings_withDisplay {c : Call} {es : List Entry} (hargs : c.args = [])
    (h : List.Forall₂ Keyword.SpeltAs c.keywords es) (span : Span) :
    (Node.expr (.call (c.withDisplay span es))).bindings = (Node.expr (.call c)).bindings := by
  rw [Node.bindings_eq, Node.bindings_eq (.expr (.call c))]
  refine Call.flatMap_children_withDisplay ?_ ?_ ?_ hargs h span
  · intro k
    simp [Node.bindings_eq (.keyword k), Node.ownBindings, Node.sameScope, Node.children]
  · intro s t
    simp [Node.bindings_eq, Node.ownBindings, Node.sameScope, Node.children, Expr.children]
  · intro s
    rw [Node.bindings_eq]
    rfl

/-- Respelt nodes contribute the same bindings to the scope around them. -/
theorem Node.Respelt.bindings {n n' : Node} (h : n.Respelt n') :
    List.Forall₂ Binding.Respelt n.bindings n'.bindings := by
  induction n using Node.sameScope_induction generalizing n' with
  | step n ih =>
    rcases h.sameScope_or with hscope | ⟨c, span, es, hargs, hkeywords, rfl, rfl⟩
    · rw [Node.bindings_eq, Node.bindings_eq]
      exact List.rel_append h.ownBindings (forall₂_flatMap_of_rel hscope fun m hm _ => ih m hm)
    · rw [Call.bindings_withDisplay hargs hkeywords]
      exact forall₂_binding_refl _

namespace Scope.Respelt

variable {s s' : Scope} {chain chain' : List Scope}

theorem refl (s : Scope) : s.Respelt s := ⟨rfl, forall₂_binding_refl _⟩

/-- A scope is respelt if its body is and its parameters have the same names. -/
theorem ofBody {isClass : Bool} {ps ps' : Params} {body body' : List Stmt}
    (hparams : ps.names = ps'.names)
    (hbody : List.Forall₂ Node.Respelt (body.map .stmt) (body'.map .stmt)) :
    (Scope.ofBody isClass ps body).Respelt (.ofBody isClass ps' body') := by
  refine ⟨rfl, ?_⟩
  show List.Forall₂ _ (ps.names.map _ ++ _) (ps'.names.map _ ++ _)
  rw [hparams]
  rw [List.forall₂_map_left_iff, List.forall₂_map_right_iff] at hbody
  exact List.rel_append (forall₂_binding_refl _)
    (forall₂_flatMap_of_rel hbody fun _ _ _ hs => hs.bindings)

theorem occurrences (h : s.Respelt s') (name : String) :
    List.Forall₂ Binding.Respelt (s.occurrences name) (s'.occurrences name) := by
  refine List.rel_filter ?_ h.bindings
  intro b b' hb
  simp [hb.name_eq]

/-- Respelt scopes bind the same names. -/
theorem binds_eq (h : s.Respelt s') (name : String) : s.binds name = s'.binds name := by
  have hempty : (s.occurrences name).isEmpty = (s'.occurrences name).isEmpty := by
    rw [Bool.eq_iff_iff, List.isEmpty_iff_length_eq_zero, List.isEmpty_iff_length_eq_zero,
      (h.occurrences name).length_eq]
  rw [Scope.binds_eq_not_isEmpty, Scope.binds_eq_not_isEmpty, hempty]

/-- A name stands for a function in both scopes or in none, and the functions are
respelt. -/
theorem function? (h : s.Respelt s') (name : String) :
    Option.Rel FunctionDef.Respelt (s.function? name) (s'.function? name) := by
  have hoccurrences := h.occurrences name
  rw [Scope.function?, Scope.function?]
  generalize s.occurrences name = bs at hoccurrences ⊢
  generalize s'.occurrences name = bs' at hoccurrences ⊢
  -- both scopes bind the name as often, and only a lone binding counts
  cases hoccurrences with
  | nil => exact .none
  | cons hb hrest =>
    cases hrest with
    | nil => exact hb.function?
    | cons _ _ => exact .none

/-- The step outwards through a chain: looking up a name stops at the same scope. -/
theorem lookup (h : List.Forall₂ Scope.Respelt chain chain') (name : String) :
    Option.Rel (fun r r' => r.1.Respelt r'.1 ∧ List.Forall₂ Scope.Respelt r.2 r'.2)
      (Scope.lookup name chain) (Scope.lookup name chain') := by
  induction h with
  | nil => exact .none
  | @cons s s' chain chain' hs hchain ih =>
    rw [Scope.lookup, Scope.lookup, hs.binds_eq]
    by_cases hbinds : s'.binds name = true
    · rw [if_pos hbinds, if_pos hbinds]
      exact optionRel_map (hs.function? name) fun _ _ hd => ⟨hd, .cons hs hchain⟩
    · rw [if_neg hbinds, if_neg hbinds]
      exact ih

theorem visibleInside (h : List.Forall₂ Scope.Respelt chain chain') :
    List.Forall₂ Scope.Respelt (Scope.visibleInside chain) (Scope.visibleInside chain') := by
  refine List.rel_filter ?_ h
  intro s s' hs
  simp [hs.isClass_eq]

end Scope.Respelt

/-- A respelt node opens a scope if the node does, and the scopes are respelt. -/
theorem Node.Respelt.opens? {n n' : Node} (h : n.Respelt n') :
    Option.Rel Scope.Respelt n.opens? n'.opens? := by
  cases h with
  | same => exact optionRel_refl Scope.Respelt.refl _
  | module h => exact .some (.ofBody rfl h)
  | function hparams hbody _ _ => exact .some (.ofBody hparams.names_eq hbody)
  | classDef _ _ hbody _ => exact .some (.ofBody rfl hbody)
  | lambda hparams _ => exact .some (.ofBody hparams.names_eq .nil)
  | _ => exact .none

/-! ## Functions -/

/-- Two functions of one form that are respelt. -/
def Callable.Respelt (f f' : Callable) : Prop :=
  f.node.Respelt f'.node

/-- A function stays a function. -/
theorem Node.Respelt.ofNode? {n n' : Node} (h : n.Respelt n') :
    Option.Rel Callable.Respelt (Callable.ofNode? n) (Callable.ofNode? n') := by
  cases h with
  | same => exact optionRel_refl (fun f => .same f.node) _
  | lambda hparams hbody => exact .some (.lambda hparams hbody)
  | @function _ isAsync _ _ _ _ _ _ _ _ _ hparams hbody hdecorators hreturns =>
    cases isAsync with
    | true => exact .none
    | false => exact .some (.function hparams hbody hdecorators hreturns)
  | _ => exact .none

/-- Respelt nodes stand for respelt functions, defined in respelt scopes. -/
theorem Node.Respelt.locate {n n' : Node} {chain chain' : List Scope} (h : n.Respelt n')
    (hchain : List.Forall₂ Scope.Respelt chain chain') :
    Option.Rel (fun r r' => r.1.Respelt r'.1 ∧ List.Forall₂ Scope.Respelt r.2 r'.2)
      (locate n chain) (locate n' chain') := by
  have hf := h.ofNode?
  unfold StateCoverage.locate
  generalize Callable.ofNode? n = f? at hf ⊢
  generalize Callable.ofNode? n' = f?' at hf ⊢
  cases hf with
  | some hf => exact .some ⟨hf, hchain⟩
  | none =>
    -- a bare name is not respelt itself, but what it is looked up in may be
    cases h with
    | same =>
      cases n with
      | expr e =>
        cases e with
        | name s id use => exact optionRel_map (Scope.Respelt.lookup hchain id) fun _ _ hr => hr
        | _ => exact .none
      | _ => exact .none
    | _ => exact .none

/-- A statement that returns a display still does. -/
theorem Stmt.returnedDisplay?_respelt {s s' : Stmt} (h : Node.Respelt (.stmt s) (.stmt s')) :
    Option.Rel (List.Forall₂ Entry.Respelt) s.returnedDisplay? s'.returnedDisplay? := by
  cases h with
  | same => exact optionRel_refl forall₂_entry_refl _
  | @ret _ v? v?' h =>
    cases v? <;> cases v?' <;> simp at h
    · exact .none
    · exact Expr.dict?_respelt h
  | _ => exact .none

namespace Callable.Respelt

variable {f f' : Callable} {chain chain' : List Scope}

/-- Respelt functions have the same form and place, and respelt bodies. -/
theorem shape (h : f.Respelt f') :
    (∃ g g', f = .lambda g ∧ f' = .lambda g' ∧ g.span = g'.span ∧
      Node.Respelt (.expr g.body) (.expr g'.body)) ∨
    ∃ d d', f = .block d ∧ f' = .block d' ∧ d.span = d'.span ∧
      List.Forall₂ Node.Respelt (d.body.map .stmt) (d'.body.map .stmt) := by
  cases f with
  | lambda g =>
    cases f' with
    | lambda g' =>
      unfold Callable.Respelt Callable.node at h
      cases h with
      | same => exact .inl ⟨g, g, rfl, rfl, rfl, .same _⟩
      | lambda _ hbody => exact .inl ⟨_, _, rfl, rfl, rfl, hbody⟩
    | block d' => cases h
  | block d =>
    cases f' with
    | lambda g' => cases h
    | block d' =>
      unfold Callable.Respelt Callable.node at h
      cases h with
      | same => exact .inr ⟨d, d, rfl, rfl, rfl, forall₂_respelt_refl _⟩
      | function _ hbody _ _ => exact .inr ⟨_, _, rfl, rfl, rfl, hbody⟩

theorem span_eq (h : f.Respelt f') : f.span = f'.span := by
  rcases h.shape with ⟨g, g', rfl, rfl, hspan, _⟩ | ⟨d, d', rfl, rfl, hspan, _⟩
  · exact hspan
  · exact hspan

theorem startNodes (h : f.Respelt f') :
    List.Forall₂ Node.Respelt f.startNodes f'.startNodes := by
  rcases h.shape with ⟨g, g', rfl, rfl, _, _⟩ | ⟨d, d', rfl, rfl, _, hbody⟩
  · exact .cons h .nil
  · exact hbody

/-- A factory still returns a display, entry by entry the same. -/
theorem product? (h : f.Respelt f') :
    Option.Rel (List.Forall₂ Entry.Respelt) f.product? f'.product? := by
  rcases h.shape with ⟨g, g', rfl, rfl, _, hbody⟩ | ⟨d, d', rfl, rfl, _, hbody⟩
  · exact Expr.dict?_respelt hbody
  · rw [List.forall₂_map_left_iff, List.forall₂_map_right_iff] at hbody
    exact optionRel_findSome? hbody fun _ _ hs => Stmt.returnedDisplay?_respelt hs

/-- What is visible inside a respelt function is respelt. -/
theorem innerScopes (h : f.Respelt f') (hchain : List.Forall₂ Scope.Respelt chain chain') :
    List.Forall₂ Scope.Respelt (f.innerScopes chain) (f'.innerScopes chain') := by
  have hscope := Node.Respelt.opens? h
  rw [f.opens?_node, f'.opens?_node] at hscope
  cases hscope with
  | some hscope => exact .cons hscope (Scope.Respelt.visibleInside hchain)

end Callable.Respelt

/-- Respelt factories have respelt thunks, although two names may be resolved on
the way. -/
theorem Node.Respelt.executeThunk? {n n' : Node} {chain chain' : List Scope} (h : n.Respelt n')
    (hchain : List.Forall₂ Scope.Respelt chain chain') :
    Option.Rel Callable.Respelt (executeThunk? n chain) (executeThunk? n' chain') := by
  refine optionRel_bind (h.locate hchain) ?_
  rintro ⟨f, definedIn⟩ ⟨f', definedIn'⟩ ⟨hf, hdefined⟩
  refine optionRel_bind hf.product? ?_
  intro product product' hproduct
  refine optionRel_bind ((textEntries_respelt hproduct).find? "execute") ?_
  intro execute execute' hexecute
  refine optionRel_bind (hexecute.locate (hf.innerScopes hdefined)) ?_
  rintro ⟨thunk, _⟩ ⟨thunk', _⟩ ⟨hthunk, _⟩
  exact .some hthunk

/-! ## The states of a thunk -/

/-- The states of a returned value do not change: a call has none. -/
theorem Expr.stateIds_eq_of_respelt {e e' : Expr} (h : Node.Respelt (.expr e) (.expr e')) :
    e.stateIds = e'.stateIds := by
  induction e using Expr.stateIds.induct generalizing e' with
  | case1 span t b o ihb iho =>
    cases h with
    | same => rfl
    | choice _ hbody horelse => rw [Expr.stateIds, Expr.stateIds, ihb hbody, iho horelse]
  | case2 span es =>
    cases h with
    | same => rfl
    | dict h =>
      rw [Expr.stateIds, Expr.stateIds]
      congr 1
      exact bind_eq_of_rel ((textEntries_respelt h).find? "id") fun _ _ => text?_eq_of_respelt
  | case3 e hconditional hdict =>
    cases h with
    | choice => exact absurd rfl (hconditional _ _ _ _)
    | dict => exact absurd rfl (hdict _ _)
    | _ => rfl

theorem Node.Respelt.stateIds_eq {n n' : Node} (h : n.Respelt n') : n.stateIds = n'.stateIds := by
  cases h with
  | lambda _ hbody => exact Expr.stateIds_eq_of_respelt hbody
  | @ret _ v? v?' h =>
    cases v? <;> cases v?' <;> simp at h
    · rfl
    · exact Expr.stateIds_eq_of_respelt h
  | _ => rfl

/-- One step of the walk over returns leads to respelt nodes. -/
theorem Node.Respelt.continuations {n n' : Node} (h : n.Respelt n') :
    List.Forall₂ Node.Respelt n.continuations n'.continuations := by
  cases h with
  | same => exact forall₂_respelt_refl _
  | lambda _ hbody => exact .cons hbody .nil
  | choice _ hbody horelse => exact .cons hbody (.cons horelse .nil)
  | ret h => exact h
  | conditional _ hbody horelse | loop _ hbody horelse => exact List.rel_append hbody horelse
  | branch _ hcases => exact hcases
  | within _ hbody | case _ _ hbody | handler _ hbody => exact hbody
  | attempt hbody hhandlers horelse hfinal =>
    exact List.rel_append (List.rel_append (List.rel_append hbody hhandlers) horelse) hfinal
  | _ => exact .nil

/-- The whole walk meets the same states. -/
theorem Node.Respelt.walkStates_eq {n n' : Node} (h : n.Respelt n') :
    n.walkStates = n'.walkStates := by
  induction n using Node.induction generalizing n' with
  | step n ih =>
    rw [Node.walkStates_eq, Node.walkStates_eq, h.stateIds_eq]
    congr 1
    refine flatMap_eq_of_forall₂ h.continuations ?_
    intro c hc c' hcc'
    exact ih c (Node.mem_children_of_mem_continuations hc) hcc'

/-- Respelt thunks return the same states in the same order. -/
theorem Callable.Respelt.returnedStates_eq {f f' : Callable} (h : f.Respelt f') :
    returnedStates f = returnedStates f' := by
  rw [returnedStates, returnedStates, collectStates_eq, collectStates_eq]
  congr 1
  exact flatMap_eq_of_forall₂ h.startNodes fun _ _ _ hn => hn.walkStates_eq

/-! ## Constructor calls -/

/-- Two calls that are respelt. -/
def Call.Respelt (c c' : Call) : Prop :=
  Node.Respelt (.expr (.call c)) (.expr (.call c'))

theorem Call.Respelt.isConstructor_eq {c c' : Call} (h : c.Respelt c') :
    c.isConstructor = c'.isConstructor := by
  unfold Call.Respelt at h
  cases h with
  | same | display => rfl
  | call hcallee _ _ =>
    rw [Call.isConstructor, Call.isConstructor, Expr.lastSegment?_eq_of_respelt hcallee]

/-- A constructor call stays one, and no other call becomes one. -/
theorem Node.Respelt.constructorCall? {n n' : Node} (h : n.Respelt n') :
    Option.Rel Call.Respelt n.constructorCall? n'.constructorCall? := by
  have hcall {c c' : Call} (h : c.Respelt c') : Option.Rel Call.Respelt
      (if c.isConstructor then some c else none) (if c'.isConstructor then some c' else none) := by
    rw [h.isConstructor_eq]
    by_cases hc : c'.isConstructor = true
    · rw [if_pos hc, if_pos hc]
      exact .some h
    · rw [if_neg hc, if_neg hc]
      exact .none
  cases h with
  | same => exact optionRel_refl (fun c => .same (.expr (.call c))) _
  | display hargs hkeywords => exact hcall (.display hargs hkeywords)
  | call hcallee hargs hkeywords => exact hcall (.call hcallee hargs hkeywords)
  | _ => exact .none

/-- Two calls found by the walk: they are respelt and see respelt scopes. -/
structure FoundRespelt (found found' : Call × List Scope) : Prop where
  call : found.1.Respelt found'.1
  scopes : List.Forall₂ Scope.Respelt found.2 found'.2

theorem Scope.Respelt.visibleScopes {chain chain' : List Scope}
    (h : List.Forall₂ Scope.Respelt chain chain') :
    List.Forall₂ Scope.Respelt (visibleScopes chain) (visibleScopes chain') := by
  cases h with
  | nil => exact .nil
  | cons hs h => exact .cons hs (Scope.Respelt.visibleInside h)

theorem Call.flatMap_constructorCalls_withDisplay {c : Call} {es : List Entry}
    (hargs : c.args = []) (h : List.Forall₂ Keyword.SpeltAs c.keywords es) (span : Span)
    (enclosing : List Scope) :
    (Node.expr (.call (c.withDisplay span es))).children.flatMap
        (Node.constructorCalls enclosing) =
      (Node.expr (.call c)).children.flatMap (Node.constructorCalls enclosing) := by
  refine Call.flatMap_children_withDisplay ?_ ?_ ?_ hargs h span
  · intro k
    simp [Node.constructorCalls_eq enclosing (.keyword k), Node.constructorCall?, Node.opens?,
      Node.children]
  · intro s t
    simp [Node.constructorCalls_eq, Node.constructorCall?, Node.children, Expr.children]
  · intro s
    rw [Node.constructorCalls_eq]
    rfl

/-- The walk finds the constructor calls of respelt trees in the same order. -/
theorem Node.Respelt.constructorCalls {n n' : Node} {chain chain' : List Scope}
    (h : n.Respelt n') (hchain : List.Forall₂ Scope.Respelt chain chain') :
    List.Forall₂ FoundRespelt (n.constructorCalls chain) (n'.constructorCalls chain') := by
  induction n using Node.induction generalizing n' chain chain' with
  | step n ih =>
    have inside : List.Forall₂ Scope.Respelt (n.opens?.toList ++ chain)
        (n'.opens?.toList ++ chain') := by
      refine List.rel_append ?_ hchain
      exact forall₂_toList h.opens?
    rw [Node.constructorCalls_eq, Node.constructorCalls_eq]
    refine List.rel_append ?_ ?_
    · rw [List.forall₂_map_left_iff, List.forall₂_map_right_iff]
      exact (forall₂_toList h.constructorCall?).imp
        fun _ _ hc => ⟨hc, Scope.Respelt.visibleScopes inside⟩
    · rcases h.children_or with hchildren | ⟨c, span, es, hargs, hkeywords, rfl, rfl⟩
      · exact forall₂_flatMap_of_rel hchildren fun m hm _ hm' => ih m hm hm' inside
      · -- the values of the keywords are met in the same order as those of the display
        rw [Call.flatMap_constructorCalls_withDisplay hargs hkeywords]
        exact forall₂_flatMap_of_rel (forall₂_respelt_refl _)
          fun m hm _ hm' => ih m hm hm' inside

/-! ## The structures of a call -/

/-- The keywords of a call and the entries of its display are read as the same
pairs. -/
theorem mapM_named?_eq {ks : List Keyword} {es : List Entry}
    (h : List.Forall₂ Keyword.SpeltAs ks es) :
    ks.mapM Keyword.named? = some (es.filterMap Entry.textual?) := by
  induction h with
  | nil => rfl
  | cons hk _ ih =>
    cases hk
    rw [List.mapM_cons, ih]
    rfl

/-- The two forms of a call have the same `config` and `commands`. -/
theorem Call.structures?_withDisplay {c : Call} {es : List Entry} (hargs : c.args = [])
    (h : List.Forall₂ Keyword.SpeltAs c.keywords es) (span : Span) :
    (c.withDisplay span es).structures? = c.structures? := by
  obtain ⟨callSpan, callee, args, keywords⟩ := c
  obtain rfl : args = [] := hargs
  cases h with
  | nil => rfl
  | @cons k e ks es hk h =>
    have hnamed : (Call.mk callSpan callee [] (k :: ks)).namedArguments? =
        some (textEntries (e :: es)) := by
      show Option.map _ ((k :: ks).mapM Keyword.named?) = _
      rw [mapM_named?_eq (.cons hk h)]
      rfl
    rw [Call.structures?, Call.structures?, hnamed]
    rfl

/-- A keyword keeps its name; its value is respelt. -/
theorem Node.Respelt.named? {k k' : Keyword} (h : Node.Respelt (.keyword k) (.keyword k')) :
    Option.Rel (fun p q => p.1 = q.1 ∧ Node.Respelt (.expr p.2) (.expr q.2)) k.named?
      k'.named? := by
  cases h with
  | same => exact optionRel_refl (fun p => ⟨rfl, .same _⟩) _
  | @keyword _ name? _ _ h =>
    exact optionRel_map (optionRel_refl (fun _ => rfl) name?) fun _ _ hname => ⟨hname, h⟩

theorem Call.Respelt.namedArguments? {span : Span} {f f' : Expr} {as as' : List Expr}
    {ks ks' : List Keyword} (hargs : List.Forall₂ Node.Respelt (as.map .expr) (as'.map .expr))
    (hkeywords : List.Forall₂ Node.Respelt (ks.map .keyword) (ks'.map .keyword)) :
    Option.Rel (OrderedMap.Rel fun v v' => Node.Respelt (.expr v) (.expr v'))
      (Call.mk span f as ks).namedArguments? (Call.mk span f' as' ks').namedArguments? := by
  rw [List.forall₂_map_left_iff, List.forall₂_map_right_iff] at hargs hkeywords
  cases hargs with
  | nil =>
    cases hkeywords with
    | nil => exact .none
    | cons hk h =>
      exact optionRel_map (optionRel_mapM (.cons hk h) fun _ _ hk => hk.named?)
        fun _ _ hnamed => OrderedMap.rel_ofList hnamed
  | cons harg hargs =>
    cases hargs with
    | cons _ _ => exact .none
    | nil =>
      cases hkeywords with
      | nil => exact Expr.textEntries?_respelt harg
      | cons _ _ => exact .none

/-- Respelt calls are both sites or neither, with respelt structures. -/
theorem Call.Respelt.structures? {c c' : Call} (h : c.Respelt c') :
    Option.Rel (fun p q => List.Forall₂ Entry.Respelt p.1 q.1 ∧ List.Forall₂ Entry.Respelt p.2 q.2)
      c.structures? c'.structures? := by
  unfold Call.Respelt at h
  cases h with
  | same =>
    exact optionRel_refl (fun p => ⟨forall₂_entry_refl p.1, forall₂_entry_refl p.2⟩) _
  | display hargs hkeywords =>
    rw [Call.structures?_withDisplay hargs hkeywords]
    exact optionRel_refl (fun p => ⟨forall₂_entry_refl p.1, forall₂_entry_refl p.2⟩) _
  | call _ hargs hkeywords =>
    refine optionRel_bind (Call.Respelt.namedArguments? hargs hkeywords) ?_
    intro named named' hnamed
    refine optionRel_bind (hnamed.find? "config") ?_
    intro config config' hconfig
    refine optionRel_bind (Expr.dict?_respelt hconfig) ?_
    intro es es' hes
    refine optionRel_bind (hnamed.find? "commands") ?_
    intro commands commands' hcommands
    refine optionRel_bind (Expr.dict?_respelt hcommands) ?_
    intro fs fs' hfs
    exact .some ⟨hes, hfs⟩

/-! ## Sites and their gaps -/

/-- Two sites that are respelt: in the call, in both displays and in the
functions of the scopes. -/
structure Site.Respelt (s s' : Site) : Prop where
  call : s.call.Respelt s'.call
  config : List.Forall₂ Entry.Respelt s.config s'.config
  commands : List.Forall₂ Entry.Respelt s.commands s'.commands
  scopes : List.Forall₂ Scope.Respelt s.scopes s'.scopes

/-- Respelt trees have respelt sites, one by one. -/
theorem Node.Respelt.sites {root root' : Node} (h : root.Respelt root') :
    List.Forall₂ Site.Respelt (sites root) (sites root') := by
  refine List.rel_filterMap ?_ (h.constructorCalls .nil)
  intro found found' hfound
  exact optionRel_map hfound.call.structures? fun _ _ hs =>
    ⟨hfound.call, hs.1, hs.2, hfound.scopes⟩

/-- Two commands of one transition with respelt factories. -/
structure Command.Respelt (c c' : Command) : Prop where
  state_eq : c.state = c'.state
  message_eq : c.message = c'.message
  declared_eq : c.declared = c'.declared
  factory : Node.Respelt (.expr c.factory) (.expr c'.factory)

theorem Command.Respelt.ofTargets? (state : String) (targets : MessageTargets) (message : String)
    {e e' : Expr} (h : Node.Respelt (.expr e) (.expr e')) :
    Option.Rel Command.Respelt (Command.ofTargets? state targets message e)
      (Command.ofTargets? state targets message e') := by
  unfold Command.ofTargets?
  cases targets.find? message with
  | none => exact .none
  | some declared =>
    by_cases hmany : leastTargets ≤ declared.length
    · simp only [if_pos hmany]
      exact .some ⟨rfl, rfl, rfl, h⟩
    · simp only [if_neg hmany]
      exact .none

namespace Site.Respelt

variable {s s' : Site}

theorem commandsOf (h : s.Respelt s') (state : String) {e e' : Expr}
    (he : Node.Respelt (.expr e) (.expr e')) :
    List.Forall₂ Command.Respelt (s.commandsOf state e) (s'.commandsOf state e') := by
  have hentries := Expr.textEntries?_respelt he
  unfold Site.commandsOf
  rw [TransitionTable.ofDisplay_eq_of_respelt h.config]
  generalize e.textEntries? = factories? at hentries ⊢
  generalize e'.textEntries? = factories?' at hentries ⊢
  cases (TransitionTable.ofDisplay s'.config).find? state with
  | none => exact .nil
  | some targets =>
    cases hentries with
    | none => exact .nil
    | some hfactories =>
      refine List.rel_filterMap ?_ hfactories
      rintro ⟨message, factory⟩ ⟨_, factory'⟩ ⟨rfl, hfactory⟩
      exact Command.Respelt.ofTargets? state targets message hfactory

/-- The commands to check are the same up to respelling. -/
theorem commandsToCheck (h : s.Respelt s') :
    List.Forall₂ Command.Respelt s.commandsToCheck s'.commandsToCheck := by
  refine forall₂_flatMap_of_rel (textEntries_respelt h.commands) ?_
  rintro ⟨state, commands⟩ - ⟨_, commands'⟩ ⟨rfl, hcommands⟩
  exact h.commandsOf state hcommands

/-- Respelt sites have the same gaps. -/
theorem gaps_eq (h : s.Respelt s') (path? : Option String) (severity : Severity) :
    s.gaps path? severity = s'.gaps path? severity := by
  refine filterMap_eq_of_forall₂ h.commandsToCheck ?_
  intro c c' hc
  rw [Command.gap?_eq_bind, Command.gap?_eq_bind, hc.state_eq, hc.message_eq, hc.declared_eq]
  refine bind_eq_of_rel (hc.factory.executeThunk? h.scopes) ?_
  intro thunk thunk' hthunk
  rw [hthunk.returnedStates_eq, hthunk.span_eq]

end Site.Respelt

/-- **The keyword form and the dict form are the same structure.**  Writing the
keywords of any calls of a tree as dict displays, at any depth, leaves the
diagnostics of the tree as they are.  The sites are found in the same order, with
respelt displays and scopes; and a call has the same `config` and `commands` in
both forms, or is a site in neither. -/
theorem analyze_respelt {root root' : Node} (h : root.Respelt root') :
    (∀ settings path?, analyze settings path? root = analyze settings path? root') ∧
      List.Forall₂ Site.Respelt (sites root) (sites root') ∧
      ∀ (c : Call) (span : Span) (es : List Entry), c.args = [] →
        List.Forall₂ Keyword.SpeltAs c.keywords es →
        (c.withDisplay span es).structures? = c.structures? := by
  refine ⟨?_, h.sites, ?_⟩
  · intro settings path?
    rw [analyze, analyze]
    by_cases henabled : settings.enabled = true
    · rw [if_pos henabled, if_pos henabled]
      exact flatMap_eq_of_forall₂ h.sites fun _ _ _ hs => hs.gaps_eq path? settings.severity
    · rw [if_neg henabled, if_neg henabled]
  · intro c span es hargs hkeywords
    exact Call.structures?_withDisplay hargs hkeywords span

/-- The call that builds the machine of `loneCall`, with keywords. -/
def keywordCall (factory : Expr) : Call where
  span := default
  callee := .name default "StateMachine" .load
  args := []
  keywords := [⟨default, some "config", .dict default loneConfig⟩,
    ⟨default, some "commands", .dict default (loneCommands factory)⟩]

/-- The class `Holder`, with the keyword form of its machine. -/
def keywordMachine : Node :=
  .module ⟨[.classDef { holder with
    body := [.function heldFactory,
      .simple default .expression [.call (keywordCall (.name default "go" .load))]] }]⟩

/-- The machine in a class body has a gap in its keyword form as well. -/
theorem analyze_respelt_heldMachine :
    keywordMachine.Respelt heldMachine ∧
      analyze .standard none keywordMachine = analyze .standard none heldMachine ∧
      ∃ d ∈ analyze .standard none keywordMachine, d.observed = ["a"] := by
  have hcall : (keywordCall (.name default "go" .load)).Respelt
      (loneCall (.name default "go" .load)) :=
    .display rfl (.cons .entry (.cons .entry .nil))
  have hrespelt : keywordMachine.Respelt heldMachine :=
    .module (.cons (.classDef .nil .nil (.cons (.same _) (.cons (.simple (.cons hcall .nil)) .nil))
      .nil) .nil)
  have hequal := (analyze_respelt hrespelt).1 .standard none
  obtain ⟨d, hgap, hreports⟩ := exists_mem_gaps_of_uncovered heldSite_uncovered none .error
  have hmem : d ∈ analyze .standard none heldMachine :=
    List.mem_flatMap.2 ⟨heldSite, heldSite_mem_sites, hgap⟩
  exact ⟨hrespelt, hequal, d, hequal ▸ hmem, hreports.observed_eq.trans (by decide +kernel)⟩

end StateCoverage
