import Mathlib.Data.List.Basic
import StateCoverage.Source.Node

/-!
# Occurrences of nodes in a tree

A node has no identity of its own: the same node may stand at several places of
a tree.  An occurrence is a node together with the nodes above it.

* `Lineage` — an occurrence of a node in a tree; `Node.lineages` lists them all
  in preorder (`map_fst_lineages`, `mem_lineages_iff`), so the nodes of a tree
  are the nodes that occur in it (`mem_preorder_iff`).
* `Node.isBlock` — the nodes that hold statements.  There is none of them below
  an expression, a pattern or a parameter (`Node.isBlock_eq_false_of_mem_children`).
-/

namespace StateCoverage

/-! ## Occurrences of nodes -/

/-- The node occurs in the tree `root`, below the nodes listed, the nearest of
them first. -/
inductive Lineage (root : Node) : Node → List Node → Prop
  | root : Lineage root root []
  | child {p c : Node} {above : List Node} : Lineage root p above → c ∈ p.children →
      Lineage root c (p :: above)

/-- Lineages are put together: the nearer ancestors come first. -/
theorem Lineage.trans {root n x : Node} {above between : List Node}
    (hx : Lineage n x between) (hn : Lineage root n above) :
    Lineage root x (between ++ above) := by
  induction hx with
  | root => exact hn
  | child _ hc ih => exact .child ih hc

/-- The nodes above an occurrence occur above it. -/
theorem Lineage.ancestor {root n a : Node} {nearer farther : List Node}
    (h : Lineage root n (nearer ++ a :: farther)) : Lineage root a farther := by
  induction nearer generalizing n with
  | nil =>
    cases h with
    | child ha _ => exact ha
  | cons p nearer ih =>
    cases h with
    | child hp _ => exact ih hp

/-- An occurrence is the node itself or stands below one of its children. -/
theorem Lineage.eq_or_exists_child {n x : Node} {xs : List Node} (h : Lineage n x xs) :
    x = n ∧ xs = [] ∨ ∃ c ∈ n.children, ∃ below, xs = below ++ [n] ∧ Lineage c x below := by
  induction h with
  | root => exact .inl ⟨rfl, rfl⟩
  | @child p c above _ hc ih =>
    rcases ih with ⟨rfl, rfl⟩ | ⟨b, hb, below, rfl, hbelow⟩
    · exact .inr ⟨c, hc, [], rfl, .root⟩
    · exact .inr ⟨b, hb, p :: below, rfl, .child hbelow hc⟩

/-- The nodes above an occurrence grow from the nearest to the root. -/
theorem Lineage.pairwise_sizeOf {root n : Node} {above : List Node} (h : Lineage root n above) :
    (n :: above).Pairwise fun a b => sizeOf a < sizeOf b := by
  induction h with
  | root => exact List.pairwise_singleton _ _
  | @child p c above _ hc ih =>
    have hsize := Node.sizeOf_lt_of_mem_children hc
    refine List.pairwise_cons.2 ⟨?_, ih⟩
    intro a ha
    rcases List.mem_cons.1 ha with rfl | ha
    · exact hsize
    · exact Nat.lt_trans hsize ((List.pairwise_cons.1 ih).1 a ha)

/-- No node is its own ancestor. -/
theorem Lineage.nodup {root n : Node} {above : List Node} (h : Lineage root n above) :
    above.Nodup := by
  refine (List.pairwise_cons.1 h.pairwise_sizeOf).2.imp ?_
  rintro a _ hlt rfl
  exact Nat.lt_irrefl _ hlt

/-- Every occurrence of a node at and below `n`, in preorder, with the nodes
above it; `above` are the nodes above `n`. -/
def Node.lineages (above : List Node) (n : Node) : List (Node × List Node) :=
  (n, above) :: n.children.attach.flatMap fun ⟨c, _⟩ => c.lineages (n :: above)
termination_by sizeOf n
decreasing_by exact Node.sizeOf_lt_of_mem_children ‹_›

/-- One step of the walk: a node, then its children with this node above them. -/
theorem Node.lineages_eq (above : List Node) (n : Node) :
    n.lineages above = (n, above) :: n.children.flatMap (Node.lineages (n :: above)) := by
  rw [Node.lineages, List.flatMap_subtype fun _ _ => rfl, List.unattach_attach]

/-- Without the ancestors, the walk is the one in preorder. -/
theorem map_fst_lineages (above : List Node) (n : Node) :
    (n.lineages above).map Prod.fst = n.preorder := by
  induction n using Node.induction generalizing above with
  | step n ih =>
    rw [Node.lineages_eq, Node.preorder_eq, List.map_cons, List.map_flatMap]
    congr 1
    exact List.flatMap_congr fun c hc => ih c hc (n :: above)

/-- With a node the walk meets its children. -/
theorem mem_lineages_of_mem_children {n p c : Node} {above ps : List Node}
    (h : (p, ps) ∈ n.lineages above) (hc : c ∈ p.children) : (c, p :: ps) ∈ n.lineages above := by
  induction n using Node.induction generalizing above with
  | step n ih =>
    rw [Node.lineages_eq, List.mem_cons, List.mem_flatMap] at h
    rw [Node.lineages_eq, List.mem_cons, List.mem_flatMap]
    rcases h with h | ⟨b, hb, h⟩
    · obtain ⟨rfl, rfl⟩ := Prod.mk.inj h
      refine .inr ⟨c, hc, ?_⟩
      rw [Node.lineages_eq]
      exact List.mem_cons_self ..
    · exact .inr ⟨b, hb, ih b hb h⟩

/-- What the walk puts above a node are its ancestors. -/
theorem exists_lineage_of_mem_lineages {n x : Node} {above xs : List Node}
    (h : (x, xs) ∈ n.lineages above) : ∃ between, xs = between ++ above ∧ Lineage n x between := by
  induction n using Node.induction generalizing above with
  | step n ih =>
    rw [Node.lineages_eq, List.mem_cons, List.mem_flatMap] at h
    rcases h with h | ⟨c, hc, h⟩
    · obtain ⟨rfl, rfl⟩ := Prod.mk.inj h
      exact ⟨[], rfl, .root⟩
    · obtain ⟨between, rfl, hx⟩ := ih c hc h
      refine ⟨between ++ [n], by simp, ?_⟩
      exact hx.trans (.child .root hc)

/-- The list holds the occurrences and nothing else. -/
theorem mem_lineages_iff {root n : Node} {above : List Node} :
    (n, above) ∈ root.lineages [] ↔ Lineage root n above := by
  constructor
  · intro h
    obtain ⟨between, rfl, hn⟩ := exists_lineage_of_mem_lineages h
    rwa [List.append_nil]
  · intro h
    induction h with
    | root =>
      rw [Node.lineages_eq]
      exact List.mem_cons_self ..
    | child _ hc ih => exact mem_lineages_of_mem_children ih hc

/-- The nodes of a tree are those that occur in it. -/
theorem mem_preorder_iff {root n : Node} : n ∈ root.preorder ↔ ∃ above, Lineage root n above := by
  rw [← map_fst_lineages [] root, List.mem_map]
  constructor
  · rintro ⟨⟨m, above⟩, hmem, rfl⟩
    exact ⟨above, mem_lineages_iff.1 hmem⟩
  · rintro ⟨above, h⟩
    exact ⟨(n, above), mem_lineages_iff.2 h, rfl⟩

theorem mem_preorder_trans {root n x : Node} (hx : x ∈ n.preorder) (hn : n ∈ root.preorder) :
    x ∈ root.preorder := by
  obtain ⟨between, hx⟩ := mem_preorder_iff.1 hx
  obtain ⟨above, hn⟩ := mem_preorder_iff.1 hn
  exact mem_preorder_iff.2 ⟨between ++ above, hx.trans hn⟩

theorem Node.mem_preorder_self (n : Node) : n ∈ n.preorder :=
  mem_preorder_iff.2 ⟨[], .root⟩

theorem Node.mem_preorder_of_mem_children {n c : Node} (h : c ∈ n.children) : c ∈ n.preorder :=
  mem_preorder_iff.2 ⟨[n], .child .root h⟩

theorem Lineage.mem_preorder_of_mem_above {root n a : Node} {above : List Node}
    (h : Lineage root n above) (ha : a ∈ above) : a ∈ root.preorder := by
  obtain ⟨nearer, farther, rfl⟩ := List.append_of_mem ha
  exact mem_preorder_iff.2 ⟨farther, h.ancestor⟩

/-! ## Where statements stand -/

/-- The nodes that hold statements: statements themselves, `except` clauses and
`case`s. -/
def Node.isBlock : Node → Bool
  | .stmt _ | .handler _ | .case _ => true
  | _ => false

section Blocks

variable (s : Stmt) (h : Handler) (c : MatchCase) (e : Expr) (ps : Params) (p : Param)
  (k : Keyword) (f : Clause) (i : WithItem) (q : Pattern) (a : Alias)

@[simp] theorem Node.isBlock_stmt : (Node.stmt s).isBlock = true := rfl
@[simp] theorem Node.isBlock_handler : (Node.handler h).isBlock = true := rfl
@[simp] theorem Node.isBlock_case : (Node.case c).isBlock = true := rfl
@[simp] theorem Node.isBlock_expr : (Node.expr e).isBlock = false := rfl
@[simp] theorem Node.isBlock_params : (Node.params ps).isBlock = false := rfl
@[simp] theorem Node.isBlock_param : (Node.param p).isBlock = false := rfl
@[simp] theorem Node.isBlock_keyword : (Node.keyword k).isBlock = false := rfl
@[simp] theorem Node.isBlock_clause : (Node.clause f).isBlock = false := rfl
@[simp] theorem Node.isBlock_withItem : (Node.withItem i).isBlock = false := rfl
@[simp] theorem Node.isBlock_pattern : (Node.pattern q).isBlock = false := rfl
@[simp] theorem Node.isBlock_imported : (Node.imported a).isBlock = false := rfl

end Blocks

/-- Only blocks and modules have blocks among their children. -/
theorem Node.filter_isBlock_children {n : Node} (h : n.isBlock = false) (hm : ∀ m, n ≠ .module m) :
    n.children.filter Node.isBlock = [] := by
  cases n with
  | module m => exact absurd rfl (hm m)
  | stmt _ | handler _ | case _ => simp at h
  | expr e => cases e <;> simp [Node.children, Expr.children, List.filter_map, Function.comp_def]
  | pattern p => cases p <;> simp [Node.children, Pattern.children]
  | params ps => simp [Node.children, Params.children]
  | _ => simp [Node.children]

/-- Below an expression, a pattern or a parameter there are no statements. -/
theorem Node.isBlock_eq_false_of_mem_children {n c : Node} (hn : n.isBlock = false)
    (hm : ∀ m, n ≠ .module m) (hc : c ∈ n.children) : c.isBlock = false := by
  have none_block := List.filter_eq_nil_iff.1 (Node.filter_isBlock_children hn hm) c hc
  simpa using none_block

end StateCoverage
