import Mathlib.Logic.Relation
import StateCoverage.Proofs.Returns

/-!
# The walk over a thunk: what it finds and in which order

`returnedStates` walks a thunk with a stack of pending nodes.  Here the walk is
compared with three plainer accounts of it.

* `Expr.StandsFor` — the states of a returned value; a thunk returns those of
  the values of its `return` statements, wherever these stand
  (`returnedStates_descent`).
* `Stmt.emits`, `Expr.emits` — the states of a statement or an expression by
  recursion on the syntax, in the order of the text and with repetitions.
* `Walk.step` — one turn of a loop that keeps its pending nodes with the top at
  the end and passes over the nodes it has visited.  Of a tree no node is met
  twice (`Walk.Fresh`), and a turn changes nothing of what will have been found
  at the end (`Walk.step_spec`).
* `stackWalk_eq_emits` — the loop ends, and finds what the recursion emits, each
  state where it is emitted first.
-/

namespace StateCoverage

/-! ## Returns found by plain descent -/

/-- The states that a returned value stands for: those of both branches of a
conditional expression, the last `id` of a dict display if it is a string
literal, and those of the body of a lambda. -/
inductive Expr.StandsFor (s : String) : Expr → Prop
  | body {span : Span} {t b o : Expr} : StandsFor s b → StandsFor s (.conditional span t b o)
  | orelse {span : Span} {t b o : Expr} : StandsFor s o → StandsFor s (.conditional span t b o)
  | display {span textSpan : Span} {es : List Entry} :
      EffectiveEntry es "id" (.text textSpan s) → StandsFor s (.dict span es)
  | lambda {f : Lambda} : StandsFor s f.body → StandsFor s (.lambda f)

theorem Expr.standsFor_iff {e : Expr} {s : String} :
    e.StandsFor s ↔ ∃ v ∈ e.outcomes, v.NamesState s := by
  constructor
  · intro h
    induction h with
    | @body span t b o _ ih =>
      obtain ⟨v, hv, hs⟩ := ih
      exact ⟨v, by simp [Expr.outcomes, hv], hs⟩
    | @orelse span t b o _ ih =>
      obtain ⟨v, hv, hs⟩ := ih
      exact ⟨v, by simp [Expr.outcomes, hv], hs⟩
    | @display span textSpan es hid =>
      exact ⟨.dict span es, by simp [Expr.outcomes], span, es, textSpan, rfl, hid⟩
    | @lambda f _ ih =>
      obtain ⟨v, hv, hs⟩ := ih
      obtain ⟨span, params, body⟩ := f
      exact ⟨v, by simpa [Expr.outcomes] using hv, hs⟩
  · rintro ⟨v, hv, hs⟩
    fun_induction Expr.outcomes e with
    | case1 span t b o ihb iho =>
      rcases List.mem_append.1 hv with hv | hv
      · exact .body (ihb hv)
      · exact .orelse (iho hv)
    | case2 span params body ih => exact .lambda (ih hv)
    | case3 e _ _ =>
      obtain rfl := List.mem_singleton.1 hv
      obtain ⟨span, es, textSpan, rfl, hid⟩ := hs
      exact .display hid

/-- **Every return is seen, and nothing else.**  A lambda returns the states
that its body stands for.  A `def` returns those of the values of the `return`
statements that are met on the way down from its body, through every child of
every node but a nested definition. -/
theorem returnedStates_descent (s : String) :
    (∀ f : Lambda, s ∈ returnedStates (.lambda f) ↔ f.body.StandsFor s) ∧
      ∀ f : FunctionDef, s ∈ returnedStates (.block f) ↔
        ∃ stmt ∈ f.body, ∃ span v,
          (Node.stmt stmt).RunsWithin (.stmt (.ret span (some v))) ∧ v.StandsFor s := by
  refine ⟨fun f => ?_, fun f => ?_⟩
  · rw [mem_returnedStates_iff, Expr.standsFor_iff]
    constructor
    · rintro ⟨v, ⟨hv⟩, hs⟩
      exact ⟨v, hv, hs⟩
    · rintro ⟨v, hv, hs⟩
      exact ⟨v, .lambda hv, hs⟩
  · rw [mem_returnedStates_iff]
    constructor
    · rintro ⟨v, hreturn, hs⟩
      cases hreturn with
      | @block _ stmt span r _ hstmt hruns hv =>
        exact ⟨stmt, hstmt, span, r, hruns, Expr.standsFor_iff.2 ⟨v, hv, hs⟩⟩
    · rintro ⟨stmt, hstmt, span, r, hruns, hr⟩
      obtain ⟨v, hv, hs⟩ := Expr.standsFor_iff.1 hr
      exact ⟨v, .block hstmt hruns hv, hs⟩

/-- `if ready: return {"id": "a"}` and then
`return (lambda: {"id": "b"}) if done else {"id": "c"}`. -/
def mixedReturns : Callable :=
  .block {
    span := default
    isAsync := false
    name := "run"
    params := .empty
    body := [
      .conditional default (.name default "ready" .load)
        [.ret default (some (stateDisplay "a"))] [],
      .ret default (some (.conditional default (.name default "done" .load)
        (.lambda ⟨default, .empty, stateDisplay "b"⟩) (stateDisplay "c")))]
    decorators := []
    returns? := none }

example : returnedStates mixedReturns = ["a", "c", "b"] := by decide +kernel

/-! ## The states of a thunk by recursion -/

/-- The values at the ends of a conditional expression, from left to right. -/
def Expr.leaves : Expr → List Expr
  | .conditional _ _ b o => b.leaves ++ o.leaves
  | e => [e]

/-- The value of an entry under the key `id`. -/
def Entry.idValue? : Entry → Option Expr
  | .pair (.text _ "id") v => some v
  | _ => none

/-- The state that a dict display names by its last `id` entry. -/
def Expr.stateId? : Expr → Option String
  | .dict _ es => (es.reverse.findSome? Entry.idValue?).bind Expr.text?
  | _ => none

/-- The states that the ends of a conditional expression name. -/
def Expr.leafIds (e : Expr) : List String :=
  e.leaves.filterMap Expr.stateId?

/-- The states of an expression in return position, less those that it names
itself. -/
def Expr.emits : Expr → List String
  | .lambda ⟨_, _, body⟩ => body.leafIds ++ body.emits
  | .conditional _ _ b o => b.emits ++ o.emits
  | _ => []

mutual

/-- The states that a statement returns, in the order of the text. -/
def Stmt.emits : Stmt → List String
  | .ret _ (some v) => v.leafIds ++ v.emits
  | .conditional _ _ b o => b.flatMap Stmt.emits ++ o.flatMap Stmt.emits
  | .branch _ _ cs => cs.flatMap MatchCase.emits
  | .loop _ _ _ b o => b.flatMap Stmt.emits ++ o.flatMap Stmt.emits
  | .within _ _ _ b => b.flatMap Stmt.emits
  | .attempt _ _ b hs o f =>
      b.flatMap Stmt.emits ++ hs.flatMap Handler.emits ++ o.flatMap Stmt.emits
        ++ f.flatMap Stmt.emits
  | _ => []

/-- The states that a `case` returns. -/
def MatchCase.emits : MatchCase → List String
  | ⟨_, _, body⟩ => body.flatMap Stmt.emits

/-- The states that an `except` clause returns. -/
def Handler.emits : Handler → List String
  | ⟨_, _, _, body⟩ => body.flatMap Stmt.emits

end

/-- The states that a function returns, in the order of the text and with
repetitions. -/
def Callable.emits : Callable → List String
  | .lambda f => (Expr.lambda f).emits
  | .block f => f.body.flatMap Stmt.emits

/-! ### The recursion and the walk -/

theorem Entry.idValue?_eq_some_iff {e : Entry} {v : Expr} :
    e.idValue? = some v ↔ e.textual? = some ("id", v) := by
  unfold Entry.idValue? Entry.textual?
  split
  · simp
  · rename_i hid
    split
    · rename_i span k w
      have hk : k ≠ "id" := fun h => hid span w (h ▸ rfl)
      simp [hk]
    · simp

/-- Searching a display from its end finds the entry that counts. -/
theorem findSome?_reverse_eq_find? (es : List Entry) :
    es.reverse.findSome? Entry.idValue? = (textEntries es).find? "id" := by
  ext v
  rw [find?_textEntries_iff, ← lastUnder_textual?_iff, List.findSome?_eq_some_iff]
  constructor
  · rintro ⟨after, e, before, hes, he, hafter⟩
    refine ⟨before.reverse, e, after.reverse, ?_, Entry.idValue?_eq_some_iff.1 he, ?_⟩
    · rw [← List.reverse_reverse es, hes]
      simp
    · intro y hy w hw
      have hnone := hafter y (List.mem_reverse.1 hy)
      rw [Entry.idValue?_eq_some_iff.2 hw] at hnone
      simp at hnone
  · rintro ⟨before, e, after, rfl, he, hafter⟩
    refine ⟨after.reverse, e, before.reverse, by simp, Entry.idValue?_eq_some_iff.2 he, ?_⟩
    intro y hy
    rw [Option.eq_none_iff_forall_ne_some]
    intro w hw
    exact hafter y (List.mem_reverse.1 hy) w (Entry.idValue?_eq_some_iff.1 hw)

theorem Expr.stateIds_eq_leafIds (e : Expr) : e.stateIds = e.leafIds := by
  fun_induction Expr.stateIds e with
  | case1 span t b o ihb iho => simp [Expr.leafIds, Expr.leaves, ihb, iho]
  | case2 span es =>
    rw [Expr.leafIds, Expr.leaves, List.filterMap_cons, Expr.stateId?, findSome?_reverse_eq_find?]
    · cases ((textEntries es).find? "id").bind Expr.text? <;> rfl
    · simp
  | case3 e hconditional hdict =>
    rw [Expr.leafIds, Expr.leaves]
    · cases e with
      | dict span es => exact absurd rfl (hdict span es)
      | _ => rfl
    · exact hconditional

/-- The states of a node, for the nodes that the walk can meet. -/
def Node.emits : Node → List String
  | .expr e => e.emits
  | .stmt s => s.emits
  | .case c => c.emits
  | .handler h => h.emits
  | _ => []

/-- A node emits its own states and then those of the nodes below it. -/
theorem Node.emits_eq (n : Node) :
    n.emits = n.stateIds ++ n.continuations.flatMap Node.emits := by
  cases n with
  | expr e =>
    cases e with
    | lambda f =>
      obtain ⟨span, params, body⟩ := f
      simp [Node.emits, Expr.emits, Node.stateIds, Node.continuations, Expr.stateIds_eq_leafIds]
    | _ => simp [Node.emits, Expr.emits, Node.stateIds, Node.continuations]
  | stmt s =>
    cases s with
    | ret span v? =>
      cases v? with
      | none => simp [Node.emits, Stmt.emits, Node.stateIds, Node.continuations]
      | some v =>
        simp [Node.emits, Stmt.emits, Node.stateIds, Node.continuations,
          Expr.stateIds_eq_leafIds]
    | _ => simp [Node.emits, Stmt.emits, Node.stateIds, Node.continuations, List.flatMap_map]
  | case c =>
    obtain ⟨pattern, guard?, body⟩ := c
    simp [Node.emits, MatchCase.emits, Node.stateIds, Node.continuations, List.flatMap_map]
  | handler h =>
    obtain ⟨span, type?, name?, body⟩ := h
    simp [Node.emits, Handler.emits, Node.stateIds, Node.continuations, List.flatMap_map]
  | _ => simp [Node.emits, Node.stateIds, Node.continuations]

theorem Node.walkStates_eq_emits (n : Node) : n.walkStates = n.emits := by
  induction n using Node.induction with
  | step n ih =>
    rw [Node.walkStates_eq, Node.emits_eq]
    congr 1
    refine List.flatMap_congr ?_
    intro c hc
    exact ih c (Node.mem_children_of_mem_continuations hc)

theorem record_eq_eraseDups (ids : List String) : record [] ids = ids.eraseDups := by
  induction ids using List.reverseRecOn with
  | nil => rfl
  | append_singleton ids i ih =>
    rw [record_append, ih, List.eraseDups_append, record, List.foldl_cons, List.foldl_nil]
    by_cases hi : i ∈ ids
    · rw [if_pos (List.mem_eraseDups.2 hi)]
      simp [List.removeAll, hi]
    · rw [if_neg (fun h => hi (List.mem_eraseDups.1 h))]
      simp [List.removeAll, hi, List.eraseDups_cons]

/-- A thunk is found to return what the recursion emits, each state once and
where it is emitted first. -/
theorem returnedStates_eq_eraseDups (t : Callable) : returnedStates t = t.emits.eraseDups := by
  rw [returnedStates, collectStates_eq, record_eq_eraseDups]
  congr 1
  cases t with
  | lambda f => simp [Callable.startNodes, Callable.emits, Node.walkStates_eq_emits, Node.emits]
  | block f =>
    simp [Callable.startNodes, Callable.emits, Node.walkStates_eq_emits, Node.emits,
      List.flatMap_map]

/-! ## The loop -/

/-- A place below a thunk: which way was taken at each node on the way down, the
last first. -/
abbrev Place := List Nat

/-- A node that waits on the stack, with its place. -/
structure Pending where
  place : Place
  node : Node

/-- The nodes below a pending node, with their places. -/
def Pending.below (p : Pending) : List Pending :=
  p.node.continuations.mapIdx fun i c => ⟨i :: p.place, c⟩

/-- The state of the loop: the stack with its top at the end, the identities of
the nodes visited, and the states found. -/
structure Walk (ι : Type) where
  stack : List Pending
  visited : List ι
  found : List String

namespace Walk

variable {ι : Type}

/-- The state in which the walk of a thunk starts. -/
def start (t : Callable) : Walk ι where
  stack := (t.startNodes.mapIdx fun i n => ⟨[i], n⟩).reverse
  visited := []
  found := []

/-- One turn of the loop, where `ident` tells nodes apart: takes a node from the
stack and, unless it was visited before, records its states and puts the nodes
below it on the stack, the first on top. -/
def step [DecidableEq ι] (ident : Place → ι) (w : Walk ι) : Option (Walk ι) :=
  match w.stack.getLast? with
  | none => none
  | some top =>
      if ident top.place ∈ w.visited then some { w with stack := w.stack.dropLast }
      else some {
        stack := w.stack.dropLast ++ top.below.reverse
        visited := ident top.place :: w.visited
        found := record w.found top.node.stateIds }

/-- What will have been found once the stack is empty, if no node is passed
over. -/
def outcome (w : Walk ι) : List String :=
  record w.found (w.stack.reverse.flatMap fun p => p.node.walkStates)

/-- The total size of the pending nodes. -/
noncomputable def size (w : Walk ι) : Nat :=
  totalSize (w.stack.reverse.map Pending.node)

/-- Nothing that is pending, or below something pending, was visited, and no
pending node stands at or below another one. -/
structure Fresh (ident : Place → ι) (w : Walk ι) : Prop where
  unseen : ∀ p ∈ w.stack, ∀ place, p.place <:+ place → ident place ∉ w.visited
  apart : w.stack.Pairwise fun p q => ¬p.place <:+ q.place ∧ ¬q.place <:+ p.place

end Walk

theorem apart_of_ne {i j : Nat} (h : i ≠ j) (place : Place) :
    ¬(i :: place) <:+ (j :: place) ∧ ¬(j :: place) <:+ (i :: place) := by
  constructor
  · intro hsuffix
    exact h (List.cons.inj (hsuffix.eq_of_length rfl)).1
  · intro hsuffix
    exact h (List.cons.inj (hsuffix.eq_of_length rfl)).1.symm

theorem pairwise_apart_mapIdx (place : Place) (ns : List Node) :
    (ns.mapIdx fun i c => (⟨i :: place, c⟩ : Pending)).Pairwise
      fun p q => ¬p.place <:+ q.place ∧ ¬q.place <:+ p.place := by
  rw [List.pairwise_iff_getElem]
  intro i j hi hj hij
  rw [List.getElem_mapIdx, List.getElem_mapIdx]
  exact apart_of_ne (Nat.ne_of_lt hij) place

theorem map_node_mapIdx (place : Place) (ns : List Node) :
    (ns.mapIdx fun i c => (⟨i :: place, c⟩ : Pending)).map Pending.node = ns := by
  refine List.ext_getElem (by simp) ?_
  intro i _ _
  simp

theorem Pending.mem_below {p q : Pending} (h : q ∈ p.below) : ∃ i, q.place = i :: p.place := by
  obtain ⟨i, hi, rfl⟩ := List.mem_mapIdx.1 h
  exact ⟨i, rfl⟩

namespace Walk

variable {ι : Type} {ident : Place → ι}

theorem fresh_start (t : Callable) : (start t : Walk ι).Fresh ident := by
  refine ⟨by simp [start], ?_⟩
  rw [start, List.pairwise_reverse]
  exact (pairwise_apart_mapIdx [] t.startNodes).imp And.symm

theorem outcome_start (t : Callable) : (start t : Walk ι).outcome = t.emits.eraseDups := by
  rw [← returnedStates_eq_eraseDups, returnedStates, collectStates_eq, outcome, start,
    List.reverse_reverse]
  congr 1
  nth_rewrite 2 [← map_node_mapIdx [] t.startNodes]
  rw [List.flatMap_map]

/-- Visiting the top of the stack leaves nothing visited that is still to
come: places below it are longer than its own, and the other pending nodes stand
apart from it. -/
theorem Fresh.visit (distinct : Function.Injective ident) {rest : List Pending} {top : Pending}
    {visited : List ι} {found found' : List String}
    (h : Fresh ident ⟨rest ++ [top], visited, found⟩) :
    Fresh ident ⟨rest ++ top.below.reverse, ident top.place :: visited, found'⟩ := by
  obtain ⟨unseen, apart⟩ := h
  obtain ⟨apartRest, -, apartTop⟩ := List.pairwise_append.1 apart
  have fromTop : ∀ p ∈ rest, ¬p.place <:+ top.place ∧ ¬top.place <:+ p.place :=
    fun p hp => apartTop p hp top (List.mem_singleton_self top)
  have unseenTop := unseen top (List.mem_append_right _ (List.mem_singleton_self top))
  refine ⟨?_, ?_⟩
  · intro p hp place hplace hvisited
    rcases List.mem_append.1 hp with hp | hp
    · rcases List.mem_cons.1 hvisited with heq | hvisited
      · exact (fromTop p hp).1 (distinct heq ▸ hplace)
      · exact unseen p (List.mem_append_left _ hp) place hplace hvisited
    · obtain ⟨i, hi⟩ := Pending.mem_below (List.mem_reverse.1 hp)
      rw [hi] at hplace
      rcases List.mem_cons.1 hvisited with heq | hvisited
      · have hlength := hplace.length_le
        rw [distinct heq, List.length_cons] at hlength
        omega
      · exact unseenTop place ((List.suffix_cons i top.place).trans hplace) hvisited
  · refine List.pairwise_append.2 ⟨apartRest, ?_, ?_⟩
    · rw [List.pairwise_reverse]
      exact (pairwise_apart_mapIdx top.place top.node.continuations).imp And.symm
    · intro p hp q hq
      obtain ⟨i, hi⟩ := Pending.mem_below (List.mem_reverse.1 hq)
      rw [hi]
      refine ⟨?_, ?_⟩
      · intro hsuffix
        rcases List.suffix_cons_iff.1 hsuffix with heq | hsuffix
        · exact (fromTop p hp).2 (heq ▸ List.suffix_cons i top.place)
        · exact (fromTop p hp).1 hsuffix
      · intro hsuffix
        exact (fromTop p hp).2 ((List.suffix_cons i top.place).trans hsuffix)

variable [DecidableEq ι]

theorem step_concat {rest : List Pending} {top : Pending} {visited : List ι}
    (h : ident top.place ∉ visited) (found : List String) :
    step ident ⟨rest ++ [top], visited, found⟩ =
      some ⟨rest ++ top.below.reverse, ident top.place :: visited,
        record found top.node.stateIds⟩ := by
  simp [step, h]

theorem step_eq_none_iff {w : Walk ι} : w.step ident = none ↔ w.stack = [] := by
  rw [step, ← List.getLast?_eq_none_iff]
  cases w.stack.getLast? with
  | none => simp
  | some top => by_cases h : ident top.place ∈ w.visited <;> simp [h]

/-- One turn keeps the nodes to come unvisited, changes nothing of what will
have been found, and leaves less to do. -/
theorem step_spec (distinct : Function.Injective ident) {w w' : Walk ι} (fresh : w.Fresh ident)
    (h : w.step ident = some w') :
    w'.Fresh ident ∧ w'.outcome = w.outcome ∧ w'.size < w.size := by
  obtain ⟨stack, visited, found⟩ := w
  rcases List.eq_nil_or_concat' stack with rfl | ⟨rest, top, rfl⟩
  · simp [step] at h
  · have htop : ident top.place ∉ visited :=
      fresh.unseen top (by simp) top.place (List.suffix_refl _)
    rw [step_concat htop] at h
    obtain rfl := Option.some.inj h
    have nodes := map_node_mapIdx top.place top.node.continuations
    have below : top.below.flatMap (fun p => p.node.walkStates) =
        top.node.continuations.flatMap Node.walkStates := by
      rw [← nodes, List.flatMap_map]
      rfl
    refine ⟨fresh.visit distinct, ?_, ?_⟩
    -- the nodes below the top come first off the stack, as in the recursion
    · simp only [outcome, List.reverse_append, List.reverse_reverse, List.reverse_singleton,
        List.singleton_append, List.flatMap_append, List.flatMap_cons, below,
        Node.walkStates_eq top.node]
      rw [← record_append, List.append_assoc]
    · have smaller := totalSize_continuations_lt top.node
      have pushed : totalSize (top.below.map Pending.node) = totalSize top.node.continuations :=
        congrArg totalSize nodes
      simp only [size, List.reverse_append, List.reverse_reverse, List.reverse_singleton,
        List.singleton_append, List.map_append, List.map_cons, totalSize_append, totalSize_cons,
        pushed]
      omega

/-- One state of the loop comes after another. -/
def Next (ident : Place → ι) (w w' : Walk ι) : Prop :=
  w.step ident = some w'

/-- From a state in which nothing to come was visited, the loop ends with what
was to be found. -/
theorem exists_end (distinct : Function.Injective ident) (w : Walk ι) (fresh : w.Fresh ident) :
    ∃ final, Relation.ReflTransGen (Next ident) w final ∧ final.step ident = none ∧
      final.found = w.outcome := by
  cases h : w.step ident with
  | none =>
    refine ⟨w, .refl, h, ?_⟩
    rw [outcome, step_eq_none_iff.1 h]
    rfl
  | some w' =>
    obtain ⟨fresh', same, smaller⟩ := step_spec distinct fresh h
    obtain ⟨final, hrun, hend, hfound⟩ := exists_end distinct w' fresh'
    exact ⟨final, .head h hrun, hend, hfound.trans same⟩
termination_by w.size

end Walk

/-- **The loop is the recursion.**  If nodes at different places are told apart,
the loop over the stack ends, and it has found the states that the recursion on
the syntax emits, each once and in the order of their first emission; so has
`returnedStates`. -/
theorem stackWalk_eq_emits {ι : Type} [DecidableEq ι] (ident : Place → ι)
    (distinct : Function.Injective ident) (t : Callable) :
    (∃ final, Relation.ReflTransGen (Walk.Next ident) (Walk.start t) final ∧
      final.step ident = none ∧ final.found = t.emits.eraseDups) ∧
      returnedStates t = t.emits.eraseDups := by
  refine ⟨?_, returnedStates_eq_eraseDups t⟩
  obtain ⟨final, hrun, hend, hfound⟩ := Walk.exists_end distinct (.start t) (Walk.fresh_start t)
  exact ⟨final, hrun, hend, hfound.trans (Walk.outcome_start t)⟩

/-- The state of the display is found before that of the lambda on its left. -/
theorem stackWalk_eq_emits_mixedReturns :
    Function.Injective (id : Place → Place) ∧
      (∃ final, Relation.ReflTransGen (Walk.Next id) (Walk.start mixedReturns) final ∧
        final.step id = none ∧ final.found = ["a", "c", "b"]) ∧
      returnedStates mixedReturns = ["a", "c", "b"] := by
  have emitted : mixedReturns.emits = ["a", "c", "b"] := by
    simp [mixedReturns, Callable.emits, Stmt.emits, Expr.emits, Expr.leafIds, Expr.leaves,
      Expr.stateId?, stateDisplay, displayOf, Entry.idValue?, Expr.text?, List.filterMap_cons]
  have distinct : ["a", "c", "b"].eraseDups = ["a", "c", "b"] := rfl
  have walked := stackWalk_eq_emits (id : Place → Place) Function.injective_id mixedReturns
  rw [emitted, distinct] at walked
  exact ⟨Function.injective_id, walked⟩

end StateCoverage
