import Mathlib.Data.List.Perm.Subperm
import StateCoverage.Proofs.Sites

/-!
# When sites come in source order

The walk over a tree follows the fields of its nodes, and these do not always
stand in the order of the text.  A conditional expression gives its test before
its body, a dict display all its keys before all its values, a definition its
body before its decorators.  So the order of the sites is that of the text for
most trees, but not for all of them.

* `Node.written` — the children of a node in the order in which they are
  written, the same children as ever (`Node.written_perm`).
* `LaidOut` — the construction calls of a tree have positions that follow the
  text.
* `Node.Transposes` — a node has two children with sites that are visited in
  one order and written in the other.
* `sites_sorted_iff` — the sites of a tree come in source order exactly when no
  node of it transposes two children.
-/

namespace StateCoverage

/-! ## Positions -/

namespace Pos

/-- Positions are compared by line, and on one line by column. -/
instance : LT Pos := ⟨fun p q => p.line < q.line ∨ p.line = q.line ∧ p.column < q.column⟩

instance : LE Pos := ⟨fun p q => p.line < q.line ∨ p.line = q.line ∧ p.column ≤ q.column⟩

instance (p q : Pos) : Decidable (p < q) := inferInstanceAs (Decidable (_ ∨ _ ∧ _))

instance (p q : Pos) : Decidable (p ≤ q) := inferInstanceAs (Decidable (_ ∨ _ ∧ _))

theorem lt_iff {p q : Pos} :
    p < q ↔ p.line < q.line ∨ p.line = q.line ∧ p.column < q.column := Iff.rfl

theorem le_iff {p q : Pos} :
    p ≤ q ↔ p.line < q.line ∨ p.line = q.line ∧ p.column ≤ q.column := Iff.rfl

theorem le_of_lt {p q : Pos} (h : p < q) : p ≤ q := by
  rw [lt_iff] at h
  rw [le_iff]
  omega

theorem not_lt_of_le {p q : Pos} (h : p ≤ q) : ¬q < p := by
  rw [le_iff] at h
  rw [lt_iff]
  omega

end Pos

/-! ## The order in which children are written -/

/-- The key and the value of an entry. -/
def Entry.written : Entry → List Node
  | .pair k v => [.expr k, .expr v]
  | .spread v => [.expr v]

/-- A parameter and its default. -/
def Param.written (p : Param) : List Node :=
  .param p :: p.default?.toList.map .expr

/-- Whether a node does not start after another one. -/
def Node.startsBy (a b : Node) : Bool :=
  decide ((a.span?.getD default).start ≤ (b.span?.getD default).start)

/-- Arguments, of which a starred one may follow a named one. -/
def writtenArguments (args : List Expr) (keywords : List Keyword) : List Node :=
  (args.map Node.expr).merge (keywords.map Node.keyword) Node.startsBy

/-- The elements of two lists by turns. -/
def alternate {α : Type} : List α → List α → List α
  | [], ys => ys
  | x :: xs, [] => x :: xs
  | x :: xs, y :: ys => x :: y :: alternate xs ys

/-- The children of an expression as they are written. -/
def Expr.written : Expr → List Node
  | .dict _ es => es.flatMap Entry.written
  | .conditional _ t b o => [.expr b, .expr t, .expr o]
  | .call c => .expr c.callee :: writtenArguments c.args c.keywords
  | e => e.children

/-- The children of a statement as they are written. -/
def Stmt.written : Stmt → List Node
  | .function f => f.decorators.map .expr ++ .params f.params :: f.returns?.toList.map .expr
      ++ f.body.map .stmt
  | .classDef c => c.decorators.map .expr ++ writtenArguments c.bases c.keywords
      ++ c.body.map .stmt
  | s => s.children

/-- The children of a parameter list as they are written. -/
def Params.written (ps : Params) : List Node :=
  (ps.posOnly ++ ps.plain).flatMap Param.written ++ ps.vararg?.toList.map .param
    ++ ps.kwOnly.flatMap Param.written ++ ps.kwarg?.toList.map .param

/-- The children of a pattern as they are written. -/
def Pattern.written : Pattern → List Node
  | .mapping _ ks ps _ => alternate (ks.map .expr) (ps.map .pattern)
  | p => p.children

/-- The children of a node as they are written. -/
def Node.written : Node → List Node
  | .expr e => e.written
  | .stmt s => s.written
  | .params ps => ps.written
  | .pattern p => p.written
  | n => n.children

/-- A display is walked keys first and written entry by entry. -/
theorem flatMap_entry_written_perm (es : List Entry) :
    (es.flatMap Entry.written).Perm
      ((es.filterMap Entry.key?).map .expr ++ es.map fun e => .expr e.value) := by
  induction es with
  | nil => exact .nil
  | cons e es ih =>
    cases e with
    | pair k v => exact ((ih.cons _).trans List.perm_middle.symm).cons _
    | spread v => exact (ih.cons _).trans List.perm_middle.symm

/-- Parameters are walked before all defaults and written each with its own. -/
theorem flatMap_param_written_perm (ps : List Param) :
    (ps.flatMap Param.written).Perm
      (ps.map .param ++ (ps.filterMap Param.default?).map .expr) := by
  induction ps with
  | nil => exact .nil
  | cons p ps ih =>
    rw [List.flatMap_cons, Param.written, List.map_cons, List.cons_append, List.cons_append]
    refine .cons _ ?_
    cases hd : p.default? with
    | none => simpa [hd] using ih
    | some d => simpa [hd] using (ih.cons (Node.expr d)).trans List.perm_middle.symm

/-- Two lists in turn have the items of both. -/
theorem alternate_perm {α : Type} (xs ys : List α) : (alternate xs ys).Perm (xs ++ ys) := by
  induction xs generalizing ys with
  | nil => exact .rfl
  | cons x xs ih =>
    cases ys with
    | nil => simp [alternate]
    | cons y ys => exact (((ih ys).cons y).trans List.perm_middle.symm).cons x

/-- A parameter list is written with all its parts, if in another order. -/
theorem Params.written_perm (ps : Params) : ps.written.Perm ps.children := by
  classical
  have positional := flatMap_param_written_perm (ps.posOnly ++ ps.plain)
  have named := flatMap_param_written_perm ps.kwOnly
  rw [List.perm_iff_count] at positional named ⊢
  intro n
  have hpositional := positional n
  have hnamed := named n
  simp only [List.map_append, List.count_append] at hpositional hnamed
  simp only [Params.written, Params.children, Params.defaults, Params.kwDefaults,
    List.count_append]
  omega

/-- The parts of a statement are all written, decorators before what they stand on. -/
theorem Stmt.written_perm (s : Stmt) : s.written.Perm s.children := by
  classical
  cases s with
  | function f =>
    rw [List.perm_iff_count]
    intro n
    simp only [Stmt.written, Stmt.children, List.count_append, List.count_cons]
    omega
  | classDef c =>
    have hargs : (writtenArguments c.bases c.keywords).Perm _ :=
      List.merge_perm_append Node.startsBy
    rw [List.perm_iff_count] at hargs ⊢
    intro n
    have hcount := hargs n
    rw [List.count_append] at hcount
    simp only [Stmt.written, Stmt.children, List.count_append]
    omega
  | _ => exact .rfl

/-- Writing puts the children of a node in another order and does no more. -/
theorem Node.written_perm (n : Node) : n.written.Perm n.children := by
  cases n with
  | expr e =>
    cases e with
    | dict _ es => exact flatMap_entry_written_perm es
    | conditional _ t b o => exact .swap ..
    | call c => exact (List.merge_perm_append Node.startsBy).cons _
    | _ => exact .rfl
  | stmt s => exact s.written_perm
  | params ps => exact ps.written_perm
  | pattern p =>
    cases p with
    | mapping _ ks ps _ => exact alternate_perm _ _
    | _ => exact .rfl
  | _ => exact .rfl

/-- The kinds of nodes whose children are not always written in field order. -/
def rearrangedKinds : List String :=
  ["Dict", "IfExp", "Call", "FunctionDef", "AsyncFunctionDef", "ClassDef", "arguments",
    "MatchMapping"]

/-- Nodes of all other kinds are walked as they are written. -/
theorem Node.written_eq_children {n : Node} (h : n.kind ∉ rearrangedKinds) :
    n.written = n.children := by
  cases n with
  | expr e =>
    cases e with
    | dict | conditional | call => simp [Node.kind, Expr.kind, rearrangedKinds] at h
    | _ => rfl
  | stmt s =>
    cases s with
    | function f =>
      cases hasync : f.isAsync <;> simp [Node.kind, Stmt.kind, rearrangedKinds, hasync] at h
    | classDef c => simp [Node.kind, Stmt.kind, rearrangedKinds] at h
    | _ => rfl
  | params ps => simp [Node.kind, rearrangedKinds] at h
  | pattern p =>
    cases p with
    | mapping => simp [Node.kind, Pattern.kind, rearrangedKinds] at h
    | _ => rfl
  | _ => rfl

/-! ## Where sites start -/

/-- Where a node starts, if it is a construction call. -/
def Node.siteStart? (n : Node) : Option Pos :=
  n.constructorCall?.bind fun c => c.structures?.map fun _ => c.span.start

/-- Where the construction calls at and below a node start, in the order of the
walk. -/
def Node.siteStarts (n : Node) : List Pos :=
  n.preorder.filterMap Node.siteStart?

theorem siteAt?_map_start (o : Node × List Node) :
    (siteAt? o).map (fun s => s.call.span.start) = o.1.siteStart? := by
  simp only [siteAt?, callAt?, Node.siteStart?]
  cases o.1.constructorCall? with
  | none => rfl
  | some c => cases hc : c.structures? <;> simp [Site.ofCall?, hc]

/-- The sites start where the walk over the tree meets a construction. -/
theorem map_start_sites (root : Node) :
    (sites root).map (fun s => s.call.span.start) = root.siteStarts := by
  rw [sites_eq_filterMap_lineages, List.map_filterMap, Node.siteStarts,
    ← map_fst_lineages [] root, List.filterMap_map]
  exact List.filterMap_congr fun o _ => siteAt?_map_start o

/-- One step of this walk. -/
theorem Node.siteStarts_eq (n : Node) :
    n.siteStarts = n.siteStart?.toList ++ n.children.flatMap Node.siteStarts := by
  rw [Node.siteStarts, Node.preorder_eq, List.filterMap_cons, List.filterMap_flatMap]
  cases n.siteStart? <;> rfl

/-- The node is a construction call or has one below it. -/
def Node.HoldsSite (n : Node) : Prop :=
  ∃ m ∈ n.preorder, m.BuildsMachine

theorem Node.isSome_siteStart?_iff (n : Node) : n.siteStart?.isSome = true ↔ n.BuildsMachine := by
  rw [← siteAt?_map_start (n, []), Option.isSome_map]
  exact isSome_siteAt?_iff

/-- A node holds a site if the walk over it meets one. -/
theorem Node.holdsSite_iff (n : Node) : n.HoldsSite ↔ ∃ p, p ∈ n.siteStarts := by
  simp only [Node.HoldsSite, Node.siteStarts, List.mem_filterMap, ← Node.isSome_siteStart?_iff,
    Option.isSome_iff_exists]
  constructor
  · rintro ⟨m, hm, p, hp⟩
    exact ⟨p, m, hm, hp⟩
  · rintro ⟨p, m, hm, hp⟩
    exact ⟨m, hm, p, hp⟩

/-! ## Trees whose sites have their positions in the text -/

/-- The sites of a child start before those of the children written after it,
and a construction call starts no later than the sites inside it. -/
structure Node.InPlace (n : Node) : Prop where
  apart : n.written.Pairwise fun c d => ∀ p ∈ c.siteStarts, ∀ q ∈ d.siteStarts, p < q
  around : ∀ p ∈ n.siteStart?, ∀ c ∈ n.children, ∀ q ∈ c.siteStarts, p ≤ q

/-- The sites of a tree start where they are written. -/
def LaidOut (root : Node) : Prop :=
  ∀ n ∈ root.preorder, n.InPlace

/-- Sites of children that are written one after the other start so. -/
theorem Node.InPlace.lt_of_sublist {n c d : Node} (h : n.InPlace)
    (hwritten : [c, d].Sublist n.written) {p q : Pos} (hp : p ∈ c.siteStarts)
    (hq : q ∈ d.siteStarts) : p < q :=
  List.pairwise_iff_forall_sublist.1 h.apart hwritten p hp q hq

theorem LaidOut.inPlace {root : Node} (h : LaidOut root) : root.InPlace :=
  h root root.mem_preorder_self

/-- The parts of a tree that is laid out are laid out. -/
theorem LaidOut.child {root c : Node} (h : LaidOut root) (hc : c ∈ root.children) : LaidOut c :=
  fun n hn => h n (mem_preorder_trans hn (Node.mem_preorder_of_mem_children hc))

/-! ## Children that are visited out of order -/

/-- Two children with sites are visited in the one order and written in the
other. -/
def Node.Transposes (n : Node) : Prop :=
  ∃ c d, c.HoldsSite ∧ d.HoldsSite ∧ [c, d].Sublist n.children ∧ [d, c].Sublist n.written

theorem eq_or_eq_of_perm_pair {α : Type} {l : List α} {a b : α} (h : l.Perm [a, b]) :
    l = [a, b] ∨ l = [b, a] := by
  obtain ⟨x, y, rfl⟩ := List.length_eq_two.1 h.length_eq
  have hx : x = a ∨ x = b := by simpa using h.mem_iff.1 (List.mem_cons_self ..)
  rcases hx with rfl | rfl
  · rw [List.perm_cons, List.perm_singleton] at h
    exact .inl (congrArg (x :: ·) h)
  · have hswap := h.trans (.swap _ _ _)
    rw [List.perm_cons, List.perm_singleton] at hswap
    exact .inr (congrArg (x :: ·) hswap)

/-- Two children that are visited one after the other are written in this order
or in the other one. -/
theorem Node.sublist_written_or {n c d : Node} (h : [c, d].Sublist n.children) :
    [c, d].Sublist n.written ∨ [d, c].Sublist n.written := by
  obtain ⟨l, hperm, hsub⟩ := (n.written_perm.subperm_left (l := [c, d])).2 h.subperm
  rcases eq_or_eq_of_perm_pair hperm with rfl | rfl
  · exact .inl hsub
  · exact .inr hsub

/-- The sites of the children come in order exactly when the node transposes no
two of them. -/
theorem Node.InPlace.pairwise_children_iff {n : Node} (h : n.InPlace) :
    (n.children.Pairwise fun c d => ∀ p ∈ c.siteStarts, ∀ q ∈ d.siteStarts, p ≤ q) ↔
      ¬n.Transposes := by
  rw [List.pairwise_iff_forall_sublist]
  constructor
  · rintro sorted ⟨c, d, hc, hd, hvisited, hwritten⟩
    obtain ⟨p, hp⟩ := c.holdsSite_iff.1 hc
    obtain ⟨q, hq⟩ := d.holdsSite_iff.1 hd
    exact Pos.not_lt_of_le (sorted hvisited p hp q hq) (h.lt_of_sublist hwritten hq hp)
  · intro keeps c d hvisited p hp q hq
    rcases Node.sublist_written_or hvisited with hwritten | hwritten
    · exact Pos.le_of_lt (h.lt_of_sublist hwritten hp hq)
    · have hc := c.holdsSite_iff.2 ⟨p, hp⟩
      have hd := d.holdsSite_iff.2 ⟨q, hq⟩
      exact absurd ⟨c, d, hc, hd, hvisited, hwritten⟩ keeps

/-- The sites at and below a node come in order exactly when no node there
transposes two children. -/
theorem LaidOut.pairwise_siteStarts_iff {n : Node} (h : LaidOut n) :
    n.siteStarts.Pairwise (· ≤ ·) ↔ ∀ m ∈ n.preorder, ¬m.Transposes := by
  induction n using Node.induction with
  | step n ih =>
    have own : n.siteStart?.toList.Pairwise (· ≤ ·) := by
      cases n.siteStart? <;> simp
    have first : ∀ p ∈ n.siteStart?.toList, ∀ q ∈ n.children.flatMap Node.siteStarts, p ≤ q := by
      intro p hp q hq
      obtain ⟨c, hc, hq⟩ := List.mem_flatMap.1 hq
      exact h.inPlace.around p (Option.mem_toList.1 hp) c hc q hq
    -- what is left is to compare the sites of each child, and those of two children
    rw [Node.siteStarts_eq, List.pairwise_append, List.pairwise_flatMap,
      h.inPlace.pairwise_children_iff, Node.preorder_eq, List.forall_mem_cons]
    simp only [own, true_and, List.mem_flatMap, forall_exists_index, and_imp]
    constructor
    · rintro ⟨⟨hbelow, hhere⟩, -⟩
      refine ⟨hhere, ?_⟩
      intro m c hc hm
      exact (ih c hc (h.child hc)).1 (hbelow c hc) m hm
    · rintro ⟨hhere, hbelow⟩
      refine ⟨⟨?_, hhere⟩, ?_⟩
      · intro c hc
        exact (ih c hc (h.child hc)).2 fun m hm => hbelow m c hc hm
      · intro p hp q c hc hq
        exact first p hp q (List.mem_flatMap.2 ⟨c, hc, hq⟩)

/-- Only nodes whose children are not written in field order transpose any. -/
theorem Node.InPlace.kind_mem_of_transposes {n : Node} (h : n.InPlace) (ht : n.Transposes) :
    n.kind ∈ rearrangedKinds := by
  by_contra hkind
  obtain ⟨c, d, hc, hd, hvisited, hwritten⟩ := ht
  rw [← Node.written_eq_children hkind] at hvisited
  obtain ⟨p, hp⟩ := c.holdsSite_iff.1 hc
  obtain ⟨q, hq⟩ := d.holdsSite_iff.1 hd
  have hpq : p < q := h.lt_of_sublist hvisited hp hq
  have hqp : q < p := h.lt_of_sublist hwritten hq hp
  exact Pos.not_lt_of_le (Pos.le_of_lt hpq) hqp

/-- The sites of a tree come in the order of their positions. -/
def SitesSorted (root : Node) : Prop :=
  (sites root).Pairwise fun a b => a.call.span.start ≤ b.call.span.start

/-- The order of sites is the order of their starts. -/
theorem sitesSorted_iff_siteStarts (root : Node) :
    SitesSorted root ↔ root.siteStarts.Pairwise (· ≤ ·) := by
  rw [← map_start_sites, List.pairwise_map]
  rfl

/-- **When sites come in source order.**  In a tree whose sites start where they
are written, they come in the order of their positions if and only if no node
visits two children with sites in another order than that in which they are
written.  Only dict displays, conditional expressions, calls, definitions,
parameter lists and mapping patterns can do so. -/
theorem sites_sorted_iff {root : Node} (h : LaidOut root) :
    (SitesSorted root ↔ ∀ n ∈ root.preorder, ¬n.Transposes) ∧
      ∀ n ∈ root.preorder, n.Transposes → n.kind ∈ rearrangedKinds := by
  refine ⟨?_, fun n hn => (h n hn).kind_mem_of_transposes⟩
  rw [sitesSorted_iff_siteStarts, h.pairwise_siteStarts_iff]

/-! ### Machines in a conditional expression -/

/-- A tree is laid out if its root is in place and its parts are laid out. -/
theorem laidOut_iff (n : Node) : LaidOut n ↔ n.InPlace ∧ ∀ c ∈ n.children, LaidOut c := by
  simp only [LaidOut, Node.preorder_eq n, List.forall_mem_cons, List.mem_flatMap,
    forall_exists_index, and_imp]
  constructor
  · rintro ⟨hn, hbelow⟩
    exact ⟨hn, fun c hc m hm => hbelow m c hc hm⟩
  · rintro ⟨hn, hbelow⟩
    exact ⟨hn, fun m c hc hm => hbelow c hc m hm⟩

/-- A tree without sites below its root is laid out. -/
theorem laidOut_of_children {n : Node} (h : n.children.flatMap Node.siteStarts = []) :
    LaidOut n := by
  induction n using Node.induction with
  | step n ih =>
    have none_in : ∀ c ∈ n.children, c.siteStarts = [] := List.flatMap_eq_nil_iff.1 h
    rw [laidOut_iff]
    refine ⟨⟨List.pairwise_of_forall_mem_list ?_, ?_⟩, ?_⟩
    · intro c hc d _ p hp
      simp [none_in c (n.written_perm.mem_iff.1 hc)] at hp
    · intro p _ c hc q hq
      simp [none_in c hc] at hq
    · intro c hc
      have hbelow := none_in c hc
      rw [Node.siteStarts_eq, List.append_eq_nil_iff] at hbelow
      exact ih c hc hbelow.2

/-- `StateMachine(config={}, commands={})` at a position. -/
def machineAt (p : Pos) : Expr :=
  let upTo (a b : Nat) : Span := ⟨⟨p.line, p.column + a⟩, ⟨p.line, p.column + b⟩⟩
  .call {
    span := ⟨p, ⟨p.line, p.column + 36⟩⟩
    callee := .name (upTo 0 12) "StateMachine" .load
    args := []
    keywords := [⟨upTo 13 22, some "config", .dict (upTo 20 22) []⟩,
      ⟨upTo 24 35, some "commands", .dict (upTo 33 35) []⟩] }

theorem siteStarts_children_machineAt (p : Pos) :
    (Node.expr (machineAt p)).children.flatMap Node.siteStarts = [] := by
  simp [machineAt, Node.siteStarts_eq, Node.siteStart?, Node.constructorCall?, Node.children,
    Expr.children]

theorem siteStarts_machineAt (p : Pos) : (Node.expr (machineAt p)).siteStarts = [p] := by
  have start : (Node.expr (machineAt p)).siteStart? = some p := rfl
  rw [Node.siteStarts_eq, start, siteStarts_children_machineAt]
  rfl

theorem laidOut_machineAt (p : Pos) : LaidOut (.expr (machineAt p)) :=
  laidOut_of_children (siteStarts_children_machineAt p)

/-- A module that consists of one expression. -/
def lineOf (e : Expr) : Node := .module ⟨[.simple default .expression [e]]⟩

theorem siteStarts_lineOf (e : Expr) : (lineOf e).siteStarts = (Node.expr e).siteStarts := by
  simp [lineOf, Node.siteStarts_eq (.module _), Node.siteStarts_eq (.stmt _), Node.siteStart?,
    Node.constructorCall?, Node.children, Stmt.children]

theorem laidOut_lineOf {e : Expr} (h : LaidOut (.expr e)) : LaidOut (lineOf e) := by
  have single : ∀ {n c : Node}, n.siteStart? = none → n.written = [c] → n.InPlace := by
    intro n c hstart hwritten
    refine ⟨?_, ?_⟩
    · rw [hwritten]
      exact List.pairwise_singleton _ _
    · simp [hstart]
  rw [laidOut_iff]
  refine ⟨single rfl rfl, ?_⟩
  intro c hc
  obtain rfl := List.mem_singleton.1 hc
  rw [laidOut_iff]
  refine ⟨single rfl rfl, ?_⟩
  intro c hc
  obtain rfl := List.mem_singleton.1 hc
  exact h

/-- `body if test else orelse`. -/
def choice (test body orelse : Expr) : Expr := .conditional default test body orelse

theorem siteStarts_constant (span : Span) : (Node.expr (.constant span)).siteStarts = [] := by
  rw [Node.siteStarts_eq]
  rfl

/-- A conditional expression is walked test first. -/
theorem siteStarts_choice (test body orelse : Expr) :
    (Node.expr (choice test body orelse)).siteStarts =
      (Node.expr test).siteStarts ++ (Node.expr body).siteStarts ++ (Node.expr orelse).siteStarts := by
  rw [Node.siteStarts_eq]
  simp [choice, Node.siteStart?, Node.constructorCall?, Node.children, Expr.children]

/-- A conditional expression is laid out if its parts are and each stands before
the next. -/
theorem laidOut_choice {test body orelse : Expr} (ht : LaidOut (.expr test))
    (hb : LaidOut (.expr body)) (ho : LaidOut (.expr orelse))
    (h : [body, test, orelse].Pairwise fun c d =>
      ∀ p ∈ (Node.expr c).siteStarts, ∀ q ∈ (Node.expr d).siteStarts, p < q) :
    LaidOut (.expr (choice test body orelse)) := by
  have written : (Node.expr (choice test body orelse)).written =
      [body, test, orelse].map Node.expr := rfl
  rw [laidOut_iff]
  refine ⟨⟨?_, ?_⟩, ?_⟩
  · rwa [written, List.pairwise_map]
  · simp [choice, Node.siteStart?, Node.constructorCall?]
  · simp [choice, Node.children, Expr.children, ht, hb, ho]

/-- The machines of `StateMachine(…) if 0 else StateMachine(…)` are visited in
the order in which they are written. -/
theorem sites_sorted_iff_choice :
    let root := lineOf (choice (.constant default) (machineAt ⟨1, 0⟩) (machineAt ⟨1, 47⟩))
    LaidOut root ∧ SitesSorted root ∧ ∀ n ∈ root.preorder, ¬n.Transposes := by
  intro root
  have laid : LaidOut root := by
    refine laidOut_lineOf (laidOut_choice (laidOut_of_children rfl) (laidOut_machineAt _)
      (laidOut_machineAt _) ?_)
    simp [siteStarts_machineAt, siteStarts_constant, Pos.lt_iff]
  have sorted : SitesSorted root := by
    rw [sitesSorted_iff_siteStarts, siteStarts_lineOf, siteStarts_choice, siteStarts_constant,
      siteStarts_machineAt, siteStarts_machineAt]
    decide
  exact ⟨laid, sorted, (sites_sorted_iff laid).1.1 sorted⟩

/-- The machine in the test of `StateMachine(…) if StateMachine(…) else 0` is
visited before the one that is written first. -/
theorem sites_not_sorted_choice :
    let root := lineOf (choice (machineAt ⟨1, 40⟩) (machineAt ⟨1, 0⟩) (.constant default))
    LaidOut root ∧ ¬SitesSorted root := by
  intro root
  refine ⟨?_, ?_⟩
  · refine laidOut_lineOf (laidOut_choice (laidOut_machineAt _) (laidOut_machineAt _)
      (laidOut_of_children rfl) ?_)
    simp [siteStarts_machineAt, siteStarts_constant, Pos.lt_iff]
  · rw [sitesSorted_iff_siteStarts, siteStarts_lineOf, siteStarts_choice, siteStarts_constant,
      siteStarts_machineAt, siteStarts_machineAt]
    decide

end StateCoverage
