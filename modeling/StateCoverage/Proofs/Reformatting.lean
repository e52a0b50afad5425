import StateCoverage.Proofs.Agreement
import StateCoverage.Proofs.Relabelling

/-!
# Reformatting moves findings and changes nothing else

No step of the check looks at a span.  Each of them therefore commutes with
replacing the spans of a tree, and a run on a relabelled tree finds what a run
on the tree finds, at the new places.  For two trees that differ in spans only
this is used twice, on the tree that both are relabellings of.

* `sites_mapSpan`, `executeThunk?_mapSpan`, `returnedStates_mapSpan` — the
  stages of the check commute with relabelling.
* `Site.gaps_mapSpan` — the gaps of a site, for every choice of its spans.
* `Counterparts` — two diagnostics about one function of two trees.
* `analyze_reformatted` — trees that differ in spans only have the same
  findings, at corresponding nodes.
-/

namespace StateCoverage

/-! ## Maps with other values -/

namespace OrderedMap

variable {β γ δ : Type}

/-- Applies a function to every value. -/
def map (g : β → γ) (m : OrderedMap β) : OrderedMap γ where
  entries := m.entries.map (Prod.map id g)
  distinct := by
    rw [List.map_map]
    exact m.distinct

/-- Putting a value under a key commutes with changing all values. -/
theorem put_map (g : β → γ) (k : String) (v : β) (ps : List (String × β)) :
    put k (g v) (ps.map (Prod.map id g)) = (put k v ps).map (Prod.map id g) := by
  induction ps with
  | nil => rfl
  | cons p ps ih =>
    rw [List.map_cons, put, put, Prod.map_fst, id_eq]
    by_cases h : p.1 = k
    · rw [if_pos h, if_pos h]
      rfl
    · rw [if_neg h, if_neg h, ih]
      rfl

theorem insert_map (g : β → γ) (m : OrderedMap β) (k : String) (v : β) :
    (m.map g).insert k (g v) = (m.insert k v).map g := by
  rw [insert, mk.injEq]
  exact put_map g k v m.entries

/-- Building a map commutes with changing all values. -/
theorem ofList_map (g : β → γ) (ps : List (String × β)) :
    ofList (ps.map (Prod.map id g)) = (ofList ps).map g := by
  induction ps using List.reverseRecOn with
  | nil => rfl
  | append_singleton ps p ih =>
    rw [List.map_append, List.map_singleton, ofList_concat, ofList_concat, ih]
    exact insert_map g _ p.1 p.2

/-- Looking up a key commutes with changing all values. -/
theorem find?_map (g : β → γ) (m : OrderedMap β) (k : String) :
    (m.map g).find? k = (m.find? k).map g := by
  show (m.entries.map (Prod.map id g)).lookup k = (m.entries.lookup k).map g
  induction m.entries with
  | nil => rfl
  | cons p ps ih =>
    show ((p.1, g p.2) :: ps.map (Prod.map id g)).lookup k = _
    rw [lookup_cons_eq_ite, lookup_cons_eq_ite, ih]
    by_cases h : k = p.1
    · rw [if_pos h, if_pos h]
      rfl
    · rw [if_neg h, if_neg h]

theorem filterMap_map (g : β → γ) (h : String → γ → Option δ) (m : OrderedMap β) :
    (m.map g).filterMap h = m.filterMap fun k v => h k (g v) := by
  simp [filterMap, map, List.filterMap_map]

end OrderedMap

section MapSpan

variable (f : Span → Span)

/-! ## Displays -/

/-- An entry keeps its text key; only its value has new spans. -/
theorem Entry.textual?_mapSpan (e : Entry) :
    (e.mapSpan f).textual? = e.textual?.map (Prod.map id (Expr.mapSpan f)) := by
  cases e with
  | spread v =>
    rw [Entry.mapSpan]
    rfl
  | pair k v => cases k <;> simp [Entry.mapSpan, Expr.mapSpan, Entry.textual?]

/-- What is read off a display has new spans and the same keys. -/
@[simp] theorem textEntries_mapSpan (es : List Entry) :
    textEntries (es.map (Entry.mapSpan f)) = (textEntries es).map (Expr.mapSpan f) := by
  rw [textEntries, filterMap_map_of_comm (Entry.textual?_mapSpan f), OrderedMap.ofList_map]
  rfl

namespace Expr

@[simp] theorem text?_mapSpan (e : Expr) : (e.mapSpan f).text? = e.text? := by
  cases e <;> simp [Expr.mapSpan, Expr.text?]

@[simp] theorem dict?_mapSpan (e : Expr) :
    (e.mapSpan f).dict? = e.dict?.map (List.map (Entry.mapSpan f)) := by
  cases e <;> simp [Expr.mapSpan, Expr.dict?]

@[simp] theorem textEntries?_mapSpan (e : Expr) :
    (e.mapSpan f).textEntries? = e.textEntries?.map (OrderedMap.map (Expr.mapSpan f)) := by
  simp [Expr.textEntries?, Function.comp_def]

/-- Texts have no span of their own. -/
@[simp] theorem texts_mapSpan (e : Expr) : (e.mapSpan f).texts = e.texts := by
  cases e <;> simp [Expr.mapSpan, Expr.texts, List.filterMap_map]

@[simp] theorem lastSegment?_mapSpan (e : Expr) :
    (e.mapSpan f).lastSegment? = e.lastSegment? := by
  cases e <;> simp [Expr.mapSpan, Expr.lastSegment?]

end Expr

/-- Targets are texts, so they do not change. -/
@[simp] theorem MessageTargets.ofDisplay_mapSpan (on : List Entry) :
    MessageTargets.ofDisplay (on.map (Entry.mapSpan f)) = .ofDisplay on := by
  simp [MessageTargets.ofDisplay, OrderedMap.filterMap_map]

@[simp] theorem MessageTargets.ofState?_mapSpan (state : Expr) :
    MessageTargets.ofState? (state.mapSpan f) = MessageTargets.ofState? state := by
  simp [MessageTargets.ofState?, OrderedMap.find?_map, Option.bind_map]

/-- What a machine declares does not depend on spans. -/
@[simp] theorem TransitionTable.ofDisplay_mapSpan (config : List Entry) :
    TransitionTable.ofDisplay (config.map (Entry.mapSpan f)) = .ofDisplay config := by
  simp [TransitionTable.ofDisplay, OrderedMap.filterMap_map]

/-! ## Scopes -/

/-- A binding with the spans of its function replaced. -/
def Binding.mapSpan (b : Binding) : Binding := ⟨b.name, b.function?.map (FunctionDef.mapSpan f)⟩

/-- A scope with the spans of its functions replaced. -/
def Scope.mapSpan (s : Scope) : Scope := ⟨s.isClass, s.bindings.map (Binding.mapSpan f)⟩

/-- A node binds the same names wherever it stands. -/
theorem Node.ownBindings_mapSpan (n : Node) :
    (n.mapSpan f).ownBindings = n.ownBindings.map (Binding.mapSpan f) := by
  cases n with
  | stmt s =>
    cases s with
    | function g =>
      by_cases h : g.isAsync <;>
        simp [Node.mapSpan, Stmt.mapSpan, FunctionDef.mapSpan_eq, Node.ownBindings,
          Binding.mapSpan, h]
    | _ =>
      simp [Node.mapSpan, Stmt.mapSpan, ClassDef.mapSpan_eq, Node.ownBindings, Binding.mapSpan,
        Binding.other, List.map_flatMap]
  | expr e =>
    cases e with
    | name s id use =>
      cases use <;>
        simp [Node.mapSpan, Expr.mapSpan, Node.ownBindings, Binding.mapSpan, Binding.other]
    | _ => simp [Node.mapSpan, Expr.mapSpan, Node.ownBindings]
  | pattern p =>
    cases p <;> simp [Node.mapSpan, Pattern.mapSpan, Pattern.mapSpan_capture, Node.ownBindings,
      Binding.mapSpan, Binding.other, Function.comp_def]
  | _ =>
    simp [Node.mapSpan, Node.ownBindings, Binding.mapSpan, Binding.other, Handler.mapSpan_eq,
      Alias.mapSpan, Alias.boundName, Function.comp_def]

/-- The collector goes to the same children. -/
theorem Node.sameScope_mapSpan (n : Node) :
    (n.mapSpan f).sameScope = n.sameScope.map (Node.mapSpan f) := by
  -- all but definitions, lambdas and comprehensions share their scope with every child
  have below := n.children_mapSpan f
  cases n with
  | stmt s =>
    cases s with
    | function g =>
      simp [Node.mapSpan, Stmt.mapSpan, FunctionDef.mapSpan_eq, Node.sameScope,
        Params.defaults_mapSpan, Params.kwDefaults_mapSpan, Function.comp_def]
    | classDef c =>
      simp [Node.mapSpan, Stmt.mapSpan, ClassDef.mapSpan_eq, Node.sameScope, Keyword.mapSpan_eq,
        Function.comp_def]
    | _ => simpa only [Node.mapSpan, Stmt.mapSpan, Node.sameScope] using below
  | expr e =>
    cases e with
    | lambda g => simp [Node.mapSpan, Expr.mapSpan, Node.sameScope]
    | comprehension s form es cs => simp [Node.mapSpan, Expr.mapSpan, Node.sameScope]
    | _ => simpa only [Node.mapSpan, Expr.mapSpan, Node.sameScope] using below
  | _ => exact below

/-- The collector finds the same names, with functions that have new spans. -/
theorem Node.bindings_mapSpan (n : Node) :
    (n.mapSpan f).bindings = n.bindings.map (Binding.mapSpan f) := by
  induction n using Node.sameScope_induction with
  | step n ih =>
    rw [Node.bindings_eq, Node.bindings_eq, Node.ownBindings_mapSpan, Node.sameScope_mapSpan,
      List.map_append, List.flatMap_map, List.map_flatMap, List.flatMap_congr ih]

theorem Params.names_mapSpan (ps : Params) : (ps.mapSpan f).names = ps.names := by
  simp [Params.mapSpan_eq, Params.names, Params.all, Param.mapSpan_eq, Option.toList_map,
    Function.comp_def]

/-- A scope with new spans is the scope of a body with new spans. -/
theorem Scope.mapSpan_ofBody (isClass : Bool) (params : Params) (body : List Stmt) :
    (Scope.ofBody isClass params body).mapSpan f =
      .ofBody isClass (params.mapSpan f) (body.map (Stmt.mapSpan f)) := by
  have stmts (s : Stmt) : (Node.stmt (s.mapSpan f)).bindings =
      (Node.stmt s).bindings.map (Binding.mapSpan f) :=
    Node.bindings_mapSpan f (.stmt s)
  simp [Scope.ofBody, Scope.mapSpan, Params.names_mapSpan, List.flatMap_map, List.map_flatMap,
    stmts, Binding.mapSpan, Binding.other, Function.comp_def]

/-- The same nodes open scopes. -/
theorem Node.opens?_mapSpan (n : Node) :
    (n.mapSpan f).opens? = n.opens?.map (Scope.mapSpan f) := by
  have empty : Params.empty.mapSpan f = .empty := by simp [Params.mapSpan_eq, Params.empty]
  cases n with
  | stmt s =>
    cases s <;> simp [Node.mapSpan, Stmt.mapSpan, Node.opens?, FunctionDef.mapSpan_eq,
      ClassDef.mapSpan_eq, Scope.mapSpan_ofBody, empty]
  | expr e =>
    cases e <;> simp [Node.mapSpan, Expr.mapSpan, Node.opens?, Lambda.mapSpan_eq,
      Scope.mapSpan_ofBody]
  | _ => simp [Node.mapSpan, Node.opens?, Scope.mapSpan_ofBody, empty]

namespace Scope

/-- A name occurs as often, with new spans. -/
theorem occurrences_mapSpan (s : Scope) (name : String) :
    (s.mapSpan f).occurrences name = (s.occurrences name).map (Binding.mapSpan f) := by
  rw [occurrences, mapSpan, List.filter_map]
  rfl

/-- A scope binds the same names. -/
theorem binds_mapSpan (s : Scope) (name : String) : (s.mapSpan f).binds name = s.binds name := by
  rw [binds, mapSpan, List.any_map]
  rfl

/-- A name stands for the same function, with new spans. -/
theorem function?_mapSpan (s : Scope) (name : String) :
    (s.mapSpan f).function? name = (s.function? name).map (FunctionDef.mapSpan f) := by
  rw [function?, occurrences_mapSpan, function?]
  rcases s.occurrences name with _ | ⟨b, _ | ⟨b', bs⟩⟩ <;> rfl

/-- Looking up a name stops at the same scope of a chain. -/
theorem lookup_mapSpan (name : String) (scopes : List Scope) :
    lookup name (scopes.map (mapSpan f)) =
      (lookup name scopes).map (Prod.map (FunctionDef.mapSpan f) (List.map (mapSpan f))) := by
  induction scopes with
  | nil => rfl
  | cons s scopes ih =>
    rw [List.map_cons, lookup, lookup, binds_mapSpan, function?_mapSpan, ih]
    by_cases h : s.binds name = true
    · rw [if_pos h, if_pos h, Option.map_map, Option.map_map]
      rfl
    · rw [if_neg h, if_neg h]

theorem visibleInside_mapSpan (scopes : List Scope) :
    visibleInside (scopes.map (mapSpan f)) = (visibleInside scopes).map (mapSpan f) := by
  rw [visibleInside, List.filter_map]
  rfl

end Scope

/-! ## Functions -/

namespace Callable

/-- A function with every span replaced. -/
def mapSpan : Callable → Callable
  | .lambda g => .lambda (g.mapSpan f)
  | .block g => .block (g.mapSpan f)

theorem node_mapSpan (t : Callable) : (t.mapSpan f).node = t.node.mapSpan f := by
  cases t <;> simp [mapSpan, node, Node.mapSpan, Expr.mapSpan, Stmt.mapSpan]

theorem span_mapSpan (t : Callable) : (t.mapSpan f).span = f t.span := by
  cases t <;> simp [mapSpan, span, Lambda.mapSpan_eq, FunctionDef.mapSpan_eq]

/-- The same nodes are functions. -/
theorem ofNode?_mapSpan (n : Node) : ofNode? (n.mapSpan f) = (ofNode? n).map (mapSpan f) := by
  cases n with
  | stmt s =>
    cases s with
    | function g =>
      by_cases h : g.isAsync <;>
        simp [Node.mapSpan, Stmt.mapSpan, ofNode?, FunctionDef.mapSpan_eq, mapSpan, h]
    | _ => simp [Node.mapSpan, Stmt.mapSpan, ofNode?]
  | expr e => cases e <;> simp [Node.mapSpan, Expr.mapSpan, ofNode?, mapSpan]
  | _ => rfl

theorem innerScopes_mapSpan (t : Callable) (definedIn : List Scope) :
    (t.mapSpan f).innerScopes (definedIn.map (Scope.mapSpan f)) =
      (t.innerScopes definedIn).map (Scope.mapSpan f) := by
  rw [innerScopes, innerScopes, Scope.visibleInside_mapSpan, List.map_cons]
  cases t <;>
    simp [mapSpan, scope, Lambda.mapSpan_eq, FunctionDef.mapSpan_eq, Scope.mapSpan_ofBody]

/-- A factory returns the same display, with new spans. -/
theorem product?_mapSpan (t : Callable) :
    (t.mapSpan f).product? = t.product?.map (List.map (Entry.mapSpan f)) := by
  have returned (s : Stmt) : (s.mapSpan f).returnedDisplay? =
      s.returnedDisplay?.map (List.map (Entry.mapSpan f)) := by
    cases s with
    | ret span v? => cases v? <;> simp [Stmt.mapSpan, Stmt.returnedDisplay?]
    | _ => simp [Stmt.mapSpan, Stmt.returnedDisplay?]
  cases t with
  | lambda g => simp [mapSpan, product?, Lambda.mapSpan_eq]
  | block g =>
    simp [mapSpan, product?, FunctionDef.mapSpan_eq, List.findSome?_map, Function.comp_def,
      returned]

end Callable

/-- Resolving a factory ends at the same function. -/
theorem locate_mapSpan (n : Node) (scopes : List Scope) :
    locate (n.mapSpan f) (scopes.map (Scope.mapSpan f)) =
      (locate n scopes).map (Prod.map (Callable.mapSpan f) (List.map (Scope.mapSpan f))) := by
  unfold locate
  rw [Callable.ofNode?_mapSpan]
  cases Callable.ofNode? n with
  | some t => rfl
  | none =>
    cases n with
    | expr e =>
      cases e with
      | name s id use =>
        simp only [Node.mapSpan, Expr.mapSpan, Option.map_none, Scope.lookup_mapSpan,
          Option.map_map]
        rfl
      | _ => simp [Node.mapSpan, Expr.mapSpan]
    | _ => simp [Node.mapSpan]

/-- A relabelled factory has the thunk of the factory, relabelled, although two
names may be resolved on the way. -/
theorem executeThunk?_mapSpan (n : Node) (scopes : List Scope) :
    executeThunk? (n.mapSpan f) (scopes.map (Scope.mapSpan f)) =
      (executeThunk? n scopes).map (Callable.mapSpan f) := by
  -- the second name is looked up from inside the factory, in scopes relabelled with it
  have execute (e : Expr) (t : Callable) (definedIn : List Scope) :
      locate (.expr (e.mapSpan f)) ((t.mapSpan f).innerScopes (definedIn.map (Scope.mapSpan f))) =
        (locate (.expr e) (t.innerScopes definedIn)).map
          (Prod.map (Callable.mapSpan f) (List.map (Scope.mapSpan f))) := by
    rw [Callable.innerScopes_mapSpan]
    exact locate_mapSpan f (.expr e) _
  simp [executeThunk?, locate_mapSpan, Callable.product?_mapSpan, OrderedMap.find?_map, execute,
    Option.bind_map, Option.map_bind]

/-! ## Returned states -/

theorem Expr.stateIds_mapSpan (e : Expr) : (e.mapSpan f).stateIds = e.stateIds := by
  induction e using Expr.stateIds.induct with
  | case1 s t b o ihb iho => rw [Expr.mapSpan, Expr.stateIds, Expr.stateIds, ihb, iho]
  | case2 s es => simp [Expr.mapSpan, Expr.stateIds, OrderedMap.find?_map, Option.bind_map]
  | case3 e hconditional hdict =>
    cases e with
    | conditional s t b o => exact absurd rfl (hconditional s t b o)
    | dict s es => exact absurd rfl (hdict s es)
    | _ => simp [Expr.mapSpan, Expr.stateIds]

/-- States are texts, so a node returns the same ones. -/
theorem Node.stateIds_mapSpan (n : Node) : (n.mapSpan f).stateIds = n.stateIds := by
  cases n with
  | stmt s =>
    cases s with
    | ret span v? =>
      cases v? <;> simp [Node.mapSpan, Stmt.mapSpan, Node.stateIds, Expr.stateIds_mapSpan]
    | _ => simp [Node.mapSpan, Stmt.mapSpan, Node.stateIds]
  | expr e =>
    cases e <;>
      simp [Node.mapSpan, Expr.mapSpan, Node.stateIds, Lambda.mapSpan_eq, Expr.stateIds_mapSpan]
  | _ => rfl

/-- One step of the walk over returns leads to the same nodes. -/
theorem Node.continuations_mapSpan (n : Node) :
    (n.mapSpan f).continuations = n.continuations.map (Node.mapSpan f) := by
  cases n with
  | stmt s =>
    cases s <;> simp [Node.mapSpan, Stmt.mapSpan, Node.continuations, Function.comp_def,
      Option.toList_map]
  | expr e =>
    cases e <;> simp [Node.mapSpan, Expr.mapSpan, Node.continuations, Lambda.mapSpan_eq]
  | _ =>
    simp [Node.mapSpan, Node.continuations, Handler.mapSpan_eq, MatchCase.mapSpan_eq,
      Function.comp_def]

/-- The whole walk meets the same states, by induction on what is pending. -/
theorem collectStates_mapSpan (pending : List Node) (found : List String) :
    collectStates (pending.map (Node.mapSpan f)) found = collectStates pending found := by
  fun_induction collectStates pending found with
  | case1 found => rw [List.map_nil, collectStates]
  | case2 found n rest ih =>
    rw [List.map_cons, collectStates, Node.stateIds_mapSpan, Node.continuations_mapSpan,
      ← List.map_append, ih]

/-- A thunk returns the same states wherever it stands. -/
theorem returnedStates_mapSpan (t : Callable) :
    returnedStates (t.mapSpan f) = returnedStates t := by
  have starts : (t.mapSpan f).startNodes = t.startNodes.map (Node.mapSpan f) := by
    cases t <;> simp [Callable.mapSpan, Callable.startNodes, Node.mapSpan, Expr.mapSpan,
      FunctionDef.mapSpan_eq, Function.comp_def]
  rw [returnedStates, starts, collectStates_mapSpan, returnedStates]

/-! ## Sites -/

theorem Keyword.named?_mapSpan (k : Keyword) :
    (k.mapSpan f).named? = k.named?.map (Prod.map id (Expr.mapSpan f)) := by
  simp [Keyword.named?, Keyword.mapSpan_eq, Function.comp_def]

/-- A partial function that commutes with relabelling does so along a list that
it has to accept as a whole. -/
theorem mapM_map_of_comm {α β : Type} {g : α → Option β} {m : α → α} {m' : β → β}
    (h : ∀ a, g (m a) = (g a).map m') (as : List α) :
    (as.map m).mapM g = (as.mapM g).map (List.map m') := by
  induction as with
  | nil => rfl
  | cons a as ih =>
    rw [List.map_cons, List.mapM_cons, List.mapM_cons, h, ih]
    cases g a <;> cases as.mapM g <;> rfl

theorem Call.namedArguments?_mapSpan (c : Call) :
    (c.mapSpan f).namedArguments? = c.namedArguments?.map (OrderedMap.map (Expr.mapSpan f)) := by
  obtain ⟨span, callee, args, keywords⟩ := c
  rw [Call.mapSpan]
  rcases args with _ | ⟨arg, _ | ⟨arg', args⟩⟩
  · cases keywords with
    | nil => rfl
    | cons k ks =>
      show (((k :: ks).map (Keyword.mapSpan f)).mapM Keyword.named?).map OrderedMap.ofList =
        (((k :: ks).mapM Keyword.named?).map OrderedMap.ofList).map _
      rw [mapM_map_of_comm (Keyword.named?_mapSpan f), Option.map_map, Option.map_map]
      exact Option.map_congr fun ps _ => OrderedMap.ofList_map _ ps
  · cases keywords with
    | nil => exact arg.textEntries?_mapSpan f
    | cons k ks => rfl
  · rfl

/-- A call passes the same displays, with new spans. -/
theorem Call.structures?_mapSpan (c : Call) :
    (c.mapSpan f).structures? = c.structures?.map
      (Prod.map (List.map (Entry.mapSpan f)) (List.map (Entry.mapSpan f))) := by
  simp [Call.structures?, Call.namedArguments?_mapSpan, OrderedMap.find?_map, Option.bind_map,
    Option.map_bind]

theorem visibleScopes_mapSpan (scopes : List Scope) :
    visibleScopes (scopes.map (Scope.mapSpan f)) =
      (visibleScopes scopes).map (Scope.mapSpan f) := by
  cases scopes with
  | nil => rfl
  | cons s outer =>
    rw [List.map_cons, visibleScopes, visibleScopes, Scope.visibleInside_mapSpan, List.map_cons]

/-- The same calls are constructor calls. -/
theorem Node.constructorCall?_mapSpan (n : Node) :
    (n.mapSpan f).constructorCall? = n.constructorCall?.map (Call.mapSpan f) := by
  cases n with
  | expr e =>
    cases e with
    | call c =>
      have same : (c.mapSpan f).isConstructor = c.isConstructor := by
        simp [Call.isConstructor, Call.mapSpan_eq]
      by_cases h : c.isConstructor <;>
        simp [Node.mapSpan, Expr.mapSpan, Node.constructorCall?, same, h]
    | _ => simp [Node.mapSpan, Expr.mapSpan, Node.constructorCall?]
  | _ => rfl

/-- The walk over a tree meets constructor calls in the same order, in the same scopes. -/
theorem Node.constructorCalls_mapSpan (n : Node) (enclosing : List Scope) :
    (n.mapSpan f).constructorCalls (enclosing.map (Scope.mapSpan f)) =
      (n.constructorCalls enclosing).map
        (Prod.map (Call.mapSpan f) (List.map (Scope.mapSpan f))) := by
  induction n using Node.induction generalizing enclosing with
  | step n ih =>
    have inside : (n.mapSpan f).opens?.toList ++ enclosing.map (Scope.mapSpan f) =
        (n.opens?.toList ++ enclosing).map (Scope.mapSpan f) := by
      rw [Node.opens?_mapSpan, Option.toList_map, List.map_append]
    rw [Node.constructorCalls_eq, Node.constructorCalls_eq, inside]
    generalize n.opens?.toList ++ enclosing = chain
    rw [Node.constructorCall?_mapSpan, Node.children_mapSpan, visibleScopes_mapSpan,
      List.map_append, List.flatMap_map, List.map_flatMap,
      List.flatMap_congr fun c hc => ih c hc chain]
    cases n.constructorCall? <;> rfl

/-- A site with every span replaced. -/
def Site.mapSpan (s : Site) : Site where
  call := s.call.mapSpan f
  config := s.config.map (Entry.mapSpan f)
  commands := s.commands.map (Entry.mapSpan f)
  scopes := s.scopes.map (Scope.mapSpan f)

/-- A relabelled tree has the sites of the tree, relabelled. -/
theorem sites_mapSpan (root : Node) :
    sites (root.mapSpan f) = (sites root).map (Site.mapSpan f) := by
  have ofCall (found : Call × List Scope) :
      Site.ofCall? (Prod.map (Call.mapSpan f) (List.map (Scope.mapSpan f)) found) =
        (Site.ofCall? found).map (Site.mapSpan f) := by
    simp [Site.ofCall?, Call.structures?_mapSpan, Site.mapSpan, Function.comp_def]
  rw [sites, ← List.map_nil (f := Scope.mapSpan f), Node.constructorCalls_mapSpan,
    filterMap_map_of_comm ofCall, sites]

/-! ## Commands and gaps -/

/-- A command with the spans of its factory replaced. -/
def Command.mapSpan (c : Command) : Command :=
  { c with factory := c.factory.mapSpan f }

theorem Command.ofTargets?_mapSpan (state : String) (targets : MessageTargets) (message : String)
    (factory : Expr) : Command.ofTargets? state targets message (factory.mapSpan f) =
      (Command.ofTargets? state targets message factory).map (Command.mapSpan f) := by
  unfold Command.ofTargets?
  split
  · split <;> rfl
  · rfl

theorem Site.commandsOf_mapSpan (s : Site) (state : String) (commands : Expr) :
    (s.mapSpan f).commandsOf state (commands.mapSpan f) =
      (s.commandsOf state commands).map (Command.mapSpan f) := by
  unfold Site.commandsOf
  rw [Expr.textEntries?_mapSpan, Site.mapSpan, TransitionTable.ofDisplay_mapSpan]
  cases (TransitionTable.ofDisplay s.config).find? state with
  | none => rfl
  | some targets =>
    cases commands.textEntries? with
    | none => rfl
    | some factories =>
      show (factories.entries.map (Prod.map id (Expr.mapSpan f))).filterMap _ = _
      exact filterMap_map_of_comm
        (fun p => Command.ofTargets?_mapSpan f state targets p.1 p.2) factories.entries

/-- A site has the same commands to check. -/
theorem Site.commandsToCheck_mapSpan (s : Site) :
    (s.mapSpan f).commandsToCheck = s.commandsToCheck.map (Command.mapSpan f) := by
  rw [Site.commandsToCheck, Site.commandsToCheck, Site.mapSpan, textEntries_mapSpan,
    OrderedMap.map, List.flatMap_map, List.map_flatMap]
  exact List.flatMap_congr fun p _ => s.commandsOf_mapSpan f p.1 p.2

/-- A command has the same thunk. -/
theorem Command.thunk?_mapSpan (c : Command) (scopes : List Scope) :
    (c.mapSpan f).thunk? (scopes.map (Scope.mapSpan f)) =
      (c.thunk? scopes).map (Callable.mapSpan f) :=
  executeThunk?_mapSpan f (.expr c.factory) scopes

/-- The gaps of a relabelled site are those of the site, each at the new place
of its thunk. -/
theorem Site.gaps_mapSpan (s : Site) (path? : Option String) (severity : Severity) :
    (s.mapSpan f).gaps path? severity = s.commandsToCheck.filterMap fun c =>
      (c.thunk? s.scopes).bind fun t => coverageGap? c.state c.message c.declared
        (returnedStates t) (.ofSpan (f t.span)) path? severity := by
  rw [Site.gaps, Site.commandsToCheck_mapSpan, List.filterMap_map]
  refine List.filterMap_congr fun c _ => ?_
  show (c.mapSpan f).gap? (s.scopes.map (Scope.mapSpan f)) path? severity = _
  rw [Command.gap?_eq_bind, Command.thunk?_mapSpan, Option.bind_map]
  simp only [Function.comp_def, returnedStates_mapSpan, Callable.span_mapSpan]
  rfl

end MapSpan

/-! ## Findings about one function -/

/-- The diagnostic is reported at the place of the node. -/
def Diagnostic.LocatedAt (d : Diagnostic) (n : Node) : Prop :=
  ∃ span, n.span? = some span ∧ d.PointsAt span

/-- Two diagnostics say the same, whatever their places, paths and
severities. -/
structure Diagnostic.SaysSame (d d' : Diagnostic) : Prop where
  kind_eq : d.kind = d'.kind
  state_eq : d.state = d'.state
  message_eq : d.message = d'.message
  declared_eq : d.declared = d'.declared
  observed_eq : d.observed = d'.observed

/-- Two trees have these nodes at the same place in their orders. -/
structure CorrespondAt (root root' : Node) (i : Nat) (n n' : Node) : Prop where
  node_at : root.preorder[i]? = some n
  node_at' : root'.preorder[i]? = some n'

/-- The diagnostics are about one function: they say the same, each at the
place that the function has in its tree. -/
structure Counterparts (root root' : Node) (d d' : Diagnostic) : Prop where
  says_same : d.SaysSame d'
  located : ∃ i n n', CorrespondAt root root' i n n' ∧ n.kind ∈ functionKinds ∧
    n'.kind = n.kind ∧ d.LocatedAt n ∧ d'.LocatedAt n'

/-- If no other function stands at the place of the first diagnostic, the
second is at the place of the corresponding function. -/
theorem Counterparts.locatedAt {root root' n n' : Node} {d d' : Diagnostic} {i : Nat}
    (h : Counterparts root root' d d') (hi : CorrespondAt root root' i n n')
    (only : ∀ j m, root.preorder[j]? = some m → m.kind ∈ functionKinds → d.LocatedAt m → j = i) :
    d'.LocatedAt n' := by
  -- the function that both are about stands at the place of the first, so at `i`
  obtain ⟨j, m, m', hj, hkind, -, hm, hm'⟩ := h.located
  obtain rfl := only j m hj.node_at hkind hm
  obtain rfl := Option.some.inj (hj.node_at'.symm.trans hi.node_at')
  exact hm'

/-- Place, path and severity are written into a gap and decide nothing. -/
theorem coverageGap?_rel {R : Diagnostic → Diagnostic → Prop} {state message : String}
    {declared observed : List String} {location location' : Location} {path? path?' : Option String}
    {severity severity' : Severity}
    (h : ∀ d d', d.SaysSame d' → d.severity = severity → d'.severity = severity' →
      d.location = location → d'.location = location' → R d d') :
    Option.Rel R (coverageGap? state message declared observed location path? severity)
      (coverageGap? state message declared observed location' path?' severity') := by
  unfold coverageGap?
  split
  · exact .some (h _ _ ⟨rfl, rfl, rfl, rfl, rfl⟩ rfl rfl rfl rfl)
  · exact .none

/-- A function of a tree stands at one place in all relabellings of the tree. -/
theorem exists_correspondAt {root : Node} {t : Callable} (h : t.node ∈ root.preorder)
    (f g : Span → Span) : ∃ i, CorrespondAt (root.mapSpan f) (root.mapSpan g) i
      (t.mapSpan f).node (t.mapSpan g).node := by
  obtain ⟨i, hi⟩ := List.mem_iff_getElem?.1 h
  have place (f : Span → Span) : (root.mapSpan f).preorder[i]? = some (t.mapSpan f).node := by
    rw [Node.preorder_mapSpan, List.getElem?_map, hi, Callable.node_mapSpan]
    rfl
  exact ⟨i, place f, place g⟩

theorem Node.kind_mapSpan (f : Span → Span) (n : Node) : (n.mapSpan f).kind = n.kind := by
  cases n with
  | stmt s =>
    cases s <;> simp [Node.mapSpan, Stmt.mapSpan, Node.kind, Stmt.kind, FunctionDef.mapSpan_eq]
  | expr e =>
    cases e with
    | sequence s form es => cases form <;> simp [Node.mapSpan, Expr.mapSpan, Node.kind, Expr.kind]
    | _ => simp [Node.mapSpan, Expr.mapSpan, Node.kind, Expr.kind]
  | pattern p =>
    cases p <;> simp [Node.mapSpan, Pattern.mapSpan, Pattern.mapSpan_capture, Node.kind,
      Pattern.kind]
  | _ => rfl

/-- A location made from a new span is that of the function with new spans. -/
theorem Diagnostic.locatedAt_mapSpan {d : Diagnostic} {t : Callable} {f : Span → Span}
    (h : d.location = .ofSpan (f t.span)) : d.LocatedAt (t.mapSpan f).node := by
  refine ⟨(t.mapSpan f).span, ?_, ?_⟩
  · cases t <;> rfl
  · rw [Callable.span_mapSpan]
    exact Diagnostic.pointsAt_of_location_eq h

/-- Two relabellings of a site have the same gaps, at corresponding nodes of the
two relabelled trees. -/
theorem Site.forall₂_gaps {root : Node} {site : Site} (hsite : site ∈ sites root)
    (f g : Span → Span) (path? path?' : Option String) (severity severity' : Severity) :
    List.Forall₂ (fun d d' => Counterparts (root.mapSpan f) (root.mapSpan g) d d' ∧
        d.severity = severity ∧ d'.severity = severity')
      ((site.mapSpan f).gaps path? severity) ((site.mapSpan g).gaps path?' severity') := by
  -- both runs go through the commands of `site` and find the same thunk for each
  rw [Site.gaps_mapSpan, Site.gaps_mapSpan]
  refine List.rel_filterMap (R := fun c c' => c = c' ∧ c ∈ site.commandsToCheck) ?_
    (List.forall₂_same.2 fun c hc => ⟨rfl, hc⟩)
  rintro c _ ⟨rfl, hc⟩
  show Option.Rel _ ((c.thunk? site.scopes).bind _) ((c.thunk? site.scopes).bind _)
  cases hthunk : c.thunk? site.scopes with
  | none => exact .none
  | some t =>
    obtain ⟨-, hsupplies, -⟩ := mem_commandsToCheck_iff.1 hc
    obtain ⟨hmem, hkind⟩ := mem_preorder_of_executeThunk? hsite hsupplies hthunk
    obtain ⟨i, hi⟩ := exists_correspondAt hmem f g
    have kinds (f : Span → Span) : (t.mapSpan f).node.kind = t.node.kind := by
      rw [Callable.node_mapSpan, Node.kind_mapSpan]
    rw [Option.bind_some, Option.bind_some]
    refine coverageGap?_rel fun d d' hsame hseverity hseverity' hlocation hlocation' => ?_
    refine ⟨⟨hsame, i, _, _, hi, ?_, ?_, Diagnostic.locatedAt_mapSpan hlocation,
      Diagnostic.locatedAt_mapSpan hlocation'⟩, hseverity, hseverity'⟩
    · rw [kinds]
      exact hkind
    · rw [kinds, kinds]

/-- **Reformatting and severity only relabel.**  Two trees that are the same
without spans have, under any two settings that enable the check, the same
findings in the same order.  Each is reported with the severity of its own run
and at the place of one function, which stands at the same point of both
trees; so if the place of the first belongs to one function only, the second is
at the place of the corresponding one. -/
theorem analyze_reformatted (settings settings' : Settings) (enabled : settings.enabled = true)
    (enabled' : settings'.enabled = true) {root root' : Node} (same : root.bare = root'.bare)
    (path? path?' : Option String) :
    List.Forall₂ (fun d d' => Counterparts root root' d d' ∧
        (d.severity = settings.severity ∧ d'.severity = settings'.severity) ∧
        ∀ i n n', CorrespondAt root root' i n n' →
          (∀ j m, root.preorder[j]? = some m → m.kind ∈ functionKinds → d.LocatedAt m → j = i) →
          d'.LocatedAt n')
      (analyze settings path? root) (analyze settings' path?' root') := by
  obtain ⟨common, rfl, rfl⟩ := Node.exists_common same
  unfold analyze
  rw [if_pos enabled, if_pos enabled', sites_mapSpan, sites_mapSpan, List.flatMap_map,
    List.flatMap_map]
  refine List.Forall₂.imp ?_ (forall₂_flatMap fun site hsite =>
    Site.forall₂_gaps hsite .left .right path? path?' settings.severity settings'.severity)
  rintro d d' ⟨h, hseverity⟩
  exact ⟨h, hseverity, fun i n n' hi only => h.locatedAt hi only⟩

/-- The span ten lines further down. -/
def Span.down (s : Span) : Span :=
  ⟨⟨s.start.line + 10, s.start.column⟩, ⟨s.stop.line + 10, s.stop.column⟩⟩

theorem bare_heldMachine_down : heldMachine.bare = (heldMachine.mapSpan .down).bare := by
  simp [heldMachine, holder, heldFactory, loneCall, loneCommands, loneConfig, displayOf,
    stateDisplay, Params.empty, Node.bare, Node.mapSpan, Stmt.mapSpan, Expr.mapSpan, Entry.mapSpan,
    Call.mapSpan_eq, ClassDef.mapSpan_eq, FunctionDef.mapSpan_eq, Lambda.mapSpan_eq,
    Params.mapSpan_eq, Span.blank]

/-- The machine in a class body, checked again ten lines further down and as a
warning. -/
theorem analyze_reformatted_heldMachine :
    heldMachine.bare = (heldMachine.mapSpan .down).bare ∧
      ∃ d ∈ analyze .standard none heldMachine,
        ∃ d' ∈ analyze ⟨true, .warning, [], ["*"]⟩ (some "held.py") (heldMachine.mapSpan .down),
          Counterparts heldMachine (heldMachine.mapSpan .down) d d' ∧ d.observed = ["a"] ∧
            d.severity = .error ∧ d'.severity = .warning := by
  obtain ⟨d, hgap, hreports⟩ := exists_mem_gaps_of_uncovered heldSite_uncovered none .error
  have hmem : d ∈ analyze .standard none heldMachine :=
    List.mem_flatMap.2 ⟨heldSite, heldSite_mem_sites, hgap⟩
  have hobserved : d.observed = ["a"] := hreports.observed_eq.trans (by decide +kernel)
  obtain ⟨hlength, hpairs⟩ := List.forall₂_iff_get.1 (analyze_reformatted .standard
    ⟨true, .warning, [], ["*"]⟩ rfl rfl bare_heldMachine_down none (some "held.py"))
  obtain ⟨⟨k, hk⟩, rfl⟩ := List.mem_iff_get.1 hmem
  obtain ⟨hcounterparts, ⟨hseverity, hseverity'⟩, -⟩ := hpairs k hk (hlength ▸ hk)
  exact ⟨bare_heldMachine_down, _, hmem, _, List.get_mem .., hcounterparts, hobserved, hseverity,
    hseverity'⟩

end StateCoverage
