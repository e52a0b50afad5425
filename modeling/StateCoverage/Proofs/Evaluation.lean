import StateCoverage.Proofs.Tree
import StateCoverage.Scope

/-!
# Where the parts of a tree are evaluated

The header of a definition (decorators, defaults, annotations, bases and class
keywords) is evaluated in the scope around the definition, and a comprehension
has a scope of its own for all but its first iterable.

* `Node.Header`, `Node.Body` — the parts of a node with a scope that are
  evaluated around the scope and in it.
* `Evaluated` — the nodes in whose scopes an occurrence is evaluated.
* `exists_evaluated` — every expression of a tree is evaluated somewhere.
-/

namespace StateCoverage

/-! ## Headers and bodies -/

/-- An expression of a parameter list, with the nodes above it up to the list. -/
inductive Params.Part (ps : Params) : List Node → Expr → Prop
  | default {d : Expr} : d ∈ ps.defaults → Part ps [.params ps] d
  | kwDefault {d : Expr} : d ∈ ps.kwDefaults → Part ps [.params ps] d
  | declaredType {p : Param} {t : Expr} : p ∈ ps.all → p.declaredType? = some t →
      Part ps [.param p, .params ps] t

/-- A part of a node with a scope of its own that is evaluated in the scope
around the node, with the nodes between the two. -/
inductive Node.Header : Node → List Node → Expr → Prop
  | param {f : FunctionDef} {between : List Node} {e : Expr} : f.params.Part between e →
      Header (.stmt (.function f)) between e
  | decorator {f : FunctionDef} {e : Expr} : e ∈ f.decorators → Header (.stmt (.function f)) [] e
  | returns {f : FunctionDef} {e : Expr} : f.returns? = some e →
      Header (.stmt (.function f)) [] e
  | lambdaParam {f : Lambda} {between : List Node} {e : Expr} : f.params.Part between e →
      Header (.expr (.lambda f)) between e
  | base {c : ClassDef} {e : Expr} : e ∈ c.bases → Header (.stmt (.classDef c)) [] e
  | classKeyword {c : ClassDef} {k : Keyword} : k ∈ c.keywords →
      Header (.stmt (.classDef c)) [.keyword k] k.value
  | classDecorator {c : ClassDef} {e : Expr} : e ∈ c.decorators →
      Header (.stmt (.classDef c)) [] e
  | firstIterable {span : Span} {form : ComprehensionForm} {elements : List Expr} {c : Clause}
      {clauses : List Clause} :
      Header (.expr (.comprehension span form elements (c :: clauses))) [.clause c] c.iterable

/-- A part of a node that is evaluated in the scope of the node itself, with the
nodes between the two. -/
inductive Node.Body : Node → List Node → Node → Prop
  | moduleStmt {m : Module} {s : Stmt} : s ∈ m.body → Body (.module m) [] (.stmt s)
  | functionStmt {f : FunctionDef} {s : Stmt} : s ∈ f.body →
      Body (.stmt (.function f)) [] (.stmt s)
  | classStmt {c : ClassDef} {s : Stmt} : s ∈ c.body → Body (.stmt (.classDef c)) [] (.stmt s)
  | lambdaBody {f : Lambda} : Body (.expr (.lambda f)) [] (.expr f.body)
  | element {span : Span} {form : ComprehensionForm} {elements : List Expr}
      {clauses : List Clause} {e : Expr} : e ∈ elements →
      Body (.expr (.comprehension span form elements clauses)) [] (.expr e)
  | target {span : Span} {form : ComprehensionForm} {elements : List Expr}
      {clauses : List Clause} {c : Clause} : c ∈ clauses →
      Body (.expr (.comprehension span form elements clauses)) [.clause c] (.expr c.target)
  | condition {span : Span} {form : ComprehensionForm} {elements : List Expr}
      {clauses : List Clause} {c : Clause} {e : Expr} : c ∈ clauses → e ∈ c.conditions →
      Body (.expr (.comprehension span form elements clauses)) [.clause c] (.expr e)
  | laterIterable {span : Span} {form : ComprehensionForm} {elements : List Expr} {first c : Clause}
      {clauses : List Clause} : c ∈ clauses →
      Body (.expr (.comprehension span form elements (first :: clauses))) [.clause c]
        (.expr c.iterable)

/-- Whether a node is a comprehension. -/
def Node.isComprehension : Node → Bool
  | .expr (.comprehension ..) => true
  | _ => false

/-- Whether a node has a scope of its own: those that open one for the walk, and
comprehensions. -/
def Node.hasScope (n : Node) : Bool :=
  n.opens?.isSome || n.isComprehension

/-- The node occurs in the tree `root` below the nodes `above`, and is evaluated
in the scopes of the nodes `openers`, the nearest of them first. -/
inductive Evaluated (root : Node) : Node → List Node → List Node → Prop
  | root : Evaluated root root [] []
  | plain {q c : Node} {above openers : List Node} : Evaluated root q above openers →
      q.hasScope = false → c ∈ q.children → Evaluated root c (q :: above) openers
  | header {q : Node} {e : Expr} {between above openers : List Node} :
      Evaluated root q above openers → q.Header between e →
      Evaluated root (.expr e) (between ++ q :: above) openers
  | body {q c : Node} {between above openers : List Node} : Evaluated root q above openers →
      q.Body between c → Evaluated root c (between ++ q :: above) (q :: openers)

/-- An expression in a parameter list stands below it. -/
theorem Params.Part.lineage {ps : Params} {between : List Node} {e : Expr}
    (h : ps.Part between e) : Lineage (.params ps) (.expr e) between := by
  cases h with
  | default hd => exact .child .root (by simp [Node.children, Params.children, hd])
  | kwDefault hd => exact .child .root (by simp [Node.children, Params.children, hd])
  | declaredType hp ht =>
    refine .child (.child .root ?_) (by simp [Node.children, ht])
    simp only [Params.all, List.mem_append, Option.mem_toList] at hp
    simp only [Node.children, Params.children, List.mem_append, List.mem_map, Option.mem_toList,
      Node.param.injEq, exists_eq_right]
    tauto

/-- An expression in the header of a node stands below it. -/
theorem Node.Header.lineage {q : Node} {between : List Node} {e : Expr}
    (h : q.Header between e) : Lineage q (.expr e) (between ++ [q]) := by
  cases h with
  | param hpart =>
    exact hpart.lineage.trans (.child .root (by simp [Node.children, Stmt.children]))
  | lambdaParam hpart =>
    exact hpart.lineage.trans (.child .root (by simp [Node.children, Expr.children]))
  | decorator he => exact .child .root (by simp [Node.children, Stmt.children, he])
  | returns he => exact .child .root (by simp [Node.children, Stmt.children, he])
  | base he => exact .child .root (by simp [Node.children, Stmt.children, he])
  | classDecorator he => exact .child .root (by simp [Node.children, Stmt.children, he])
  | classKeyword hk =>
    exact .child (.child .root (by simp [Node.children, Stmt.children, hk]))
      (by simp [Node.children])
  | firstIterable =>
    exact .child (.child .root (by simp [Node.children, Expr.children])) (by simp [Node.children])

/-- What stands in the body of a node stands below it. -/
theorem Node.Body.lineage {q c : Node} {between : List Node} (h : q.Body between c) :
    Lineage q c (between ++ [q]) := by
  cases h with
  | moduleStmt hs => exact .child .root (by simp [Node.children, hs])
  | functionStmt hs => exact .child .root (by simp [Node.children, Stmt.children, hs])
  | classStmt hs => exact .child .root (by simp [Node.children, Stmt.children, hs])
  | lambdaBody => exact .child .root (by simp [Node.children, Expr.children])
  | element he => exact .child .root (by simp [Node.children, Expr.children, he])
  | target hc =>
    exact .child (.child .root (by simp [Node.children, Expr.children, hc])) (by simp [Node.children])
  | condition hc he =>
    exact .child (.child .root (by simp [Node.children, Expr.children, hc]))
      (by simp [Node.children, he])
  | laterIterable hc =>
    exact .child (.child .root (by simp [Node.children, Expr.children, hc])) (by simp [Node.children])

/-- What is evaluated below some nodes occurs below them. -/
theorem Evaluated.lineage {root n : Node} {above openers : List Node}
    (h : Evaluated root n above openers) : Lineage root n above := by
  induction h with
  | root => exact .root
  | plain _ _ hc ih => exact .child ih hc
  | header _ hpart ih =>
    rw [List.append_cons]
    exact hpart.lineage.trans ih
  | body _ hpart ih =>
    rw [List.append_cons]
    exact hpart.lineage.trans ih

theorem Node.Body.hasScope {q c : Node} {between : List Node} (h : q.Body between c) :
    q.hasScope = true := by
  cases h <;> rfl

/-- The nodes in whose scopes something is evaluated are some of those above it. -/
theorem Evaluated.sublist {root n : Node} {above openers : List Node}
    (h : Evaluated root n above openers) : openers.Sublist above := by
  induction h with
  | root => exact .slnil
  | plain _ _ _ ih => exact ih.cons _
  | @header q e between _ _ _ _ ih => exact (ih.cons q).trans (List.sublist_append_right between _)
  | @body q c between _ _ _ _ ih => exact (ih.cons_cons q).trans (List.sublist_append_right between _)

theorem Evaluated.hasScope_of_mem {root n a : Node} {above openers : List Node}
    (h : Evaluated root n above openers) (ha : a ∈ openers) : a.hasScope = true := by
  induction h with
  | root => simp at ha
  | plain _ _ _ ih => exact ih ha
  | header _ _ ih => exact ih ha
  | body _ hpart ih =>
    rcases List.mem_cons.1 ha with rfl | ha
    · exact hpart.hasScope
    · exact ih ha

/-! ## Every expression is evaluated somewhere -/

/-- The children of a parameter list are its parameters and their defaults. -/
theorem Params.mem_children {ps : Params} {c : Node} (h : c ∈ ps.children) :
    (∃ p ∈ ps.all, c = .param p) ∨ ∃ d, (d ∈ ps.defaults ∨ d ∈ ps.kwDefaults) ∧ c = .expr d := by
  simp only [Params.children, List.mem_append, List.mem_map, Option.mem_toList] at h
  simp only [Params.all, List.mem_append, Option.mem_toList]
  rcases h with (((((⟨p, hp, rfl⟩ | ⟨p, hp, rfl⟩) | ⟨p, hp, rfl⟩) | ⟨p, hp, rfl⟩) | ⟨d, hd, rfl⟩)
    | ⟨p, hp, rfl⟩) | ⟨d, hd, rfl⟩
  · exact .inl ⟨p, by tauto, rfl⟩
  · exact .inl ⟨p, by tauto, rfl⟩
  · exact .inl ⟨p, by tauto, rfl⟩
  · exact .inl ⟨p, by tauto, rfl⟩
  · exact .inr ⟨d, .inr hd, rfl⟩
  · exact .inl ⟨p, by tauto, rfl⟩
  · exact .inr ⟨d, .inl hd, rfl⟩

/-- Every expression below a parameter list is in one of its parts. -/
theorem Params.exists_part {ps : Params} {e : Expr} {xs : List Node}
    (h : Lineage (.params ps) (.expr e) xs) : ∃ between part below,
      ps.Part between part ∧ xs = below ++ between ∧ Lineage (.expr part) (.expr e) below := by
  rcases h.eq_or_exists_child with ⟨heq, -⟩ | ⟨c, hc, below, rfl, hbelow⟩
  · simp at heq
  · rcases Params.mem_children hc with ⟨p, hp, rfl⟩ | ⟨d, hd, rfl⟩
    · rcases hbelow.eq_or_exists_child with ⟨heq, -⟩ | ⟨c, hc, below, rfl, hbelow⟩
      · simp at heq
      · obtain ⟨t, ht, rfl⟩ := List.mem_map.1 hc
        exact ⟨_, t, below, .declaredType hp (Option.mem_toList.1 ht), by simp, hbelow⟩
    · rcases hd with hd | hd
      · exact ⟨_, d, below, .default hd, rfl, hbelow⟩
      · exact ⟨_, d, below, .kwDefault hd, rfl, hbelow⟩

/-- An expression inside a node with a scope of its own stands inside a part of
the header or of the body. -/
theorem Node.exists_part {n : Node} (hn : n.hasScope = true) {e : Expr} {xs : List Node}
    (h : Lineage n (.expr e) xs) (hne : xs ≠ []) :
    (∃ between part below, n.Header between part ∧ xs = below ++ between ++ [n] ∧
        Lineage (.expr part) (.expr e) below) ∨
      ∃ between c below, n.Body between c ∧ xs = below ++ between ++ [n] ∧
        Lineage c (.expr e) below := by
  rcases h.eq_or_exists_child with ⟨-, rfl⟩ | ⟨c, hc, below, rfl, hbelow⟩
  · exact absurd rfl hne
  · cases n with
    | module m =>
      obtain ⟨s, hs, rfl⟩ := List.mem_map.1 hc
      exact .inr ⟨[], _, below, .moduleStmt hs, by simp, hbelow⟩
    | stmt s =>
      cases s with
      | function f =>
        simp only [Node.children, Stmt.children, List.mem_append, List.mem_cons, List.mem_map,
          Option.mem_toList] at hc
        rcases hc with ((rfl | ⟨s, hs, rfl⟩) | ⟨d, hd, rfl⟩) | ⟨r, hr, rfl⟩
        · obtain ⟨between, part, below, hpart, rfl, hinner⟩ := Params.exists_part hbelow
          exact .inl ⟨between, part, below, .param hpart, rfl, hinner⟩
        · exact .inr ⟨[], _, below, .functionStmt hs, by simp, hbelow⟩
        · exact .inl ⟨[], d, below, .decorator hd, by simp, hbelow⟩
        · exact .inl ⟨[], r, below, .returns hr, by simp, hbelow⟩
      | classDef k =>
        simp only [Node.children, Stmt.children, List.mem_append, List.mem_map] at hc
        rcases hc with ((⟨b, hb, rfl⟩ | ⟨w, hw, rfl⟩) | ⟨s, hs, rfl⟩) | ⟨d, hd, rfl⟩
        · exact .inl ⟨[], b, below, .base hb, by simp, hbelow⟩
        · rcases hbelow.eq_or_exists_child with ⟨heq, -⟩ | ⟨c, hc, below, rfl, hbelow⟩
          · simp at heq
          · obtain rfl := List.mem_singleton.1 hc
            exact .inl ⟨[.keyword w], w.value, below, .classKeyword hw, rfl, hbelow⟩
        · exact .inr ⟨[], _, below, .classStmt hs, by simp, hbelow⟩
        · exact .inl ⟨[], d, below, .classDecorator hd, by simp, hbelow⟩
      | _ => simp [Node.hasScope, Node.opens?, Node.isComprehension] at hn
    | expr x =>
      cases x with
      | lambda f =>
        simp only [Node.children, Expr.children, List.mem_cons, List.not_mem_nil, or_false] at hc
        rcases hc with rfl | rfl
        · obtain ⟨between, part, below, hpart, rfl, hinner⟩ := Params.exists_part hbelow
          exact .inl ⟨between, part, below, .lambdaParam hpart, rfl, hinner⟩
        · exact .inr ⟨[], _, below, .lambdaBody, by simp, hbelow⟩
      | comprehension span form elements clauses =>
        simp only [Node.children, Expr.children, List.mem_append, List.mem_map] at hc
        rcases hc with ⟨x, hx, rfl⟩ | ⟨k, hk, rfl⟩
        · exact .inr ⟨[], _, below, .element hx, by simp, hbelow⟩
        · rcases hbelow.eq_or_exists_child with ⟨heq, -⟩ | ⟨c, hc, below, rfl, hbelow⟩
          · simp at heq
          · simp only [Node.children, List.mem_cons, List.mem_map] at hc
            rcases hc with rfl | rfl | ⟨x, hx, rfl⟩
            · exact .inr ⟨[.clause k], _, below, .target hk, rfl, hbelow⟩
            · -- the first iterable belongs to the header, the others to the body
              cases hk with
              | head => exact .inl ⟨[.clause k], _, below, .firstIterable, rfl, hbelow⟩
              | tail _ hk => exact .inr ⟨[.clause k], _, below, .laterIterable hk, rfl, hbelow⟩
            · exact .inr ⟨[.clause k], _, below, .condition hk hx, rfl, hbelow⟩
      | _ => simp [Node.hasScope, Node.opens?, Node.isComprehension] at hn
    | _ => simp [Node.hasScope, Node.opens?, Node.isComprehension] at hn

/-- Where a node is evaluated, so is every expression below it, in some scopes. -/
theorem Evaluated.exists_of_lineage {root n : Node} {above openers : List Node}
    (hn : Evaluated root n above openers) {e : Expr} {xs : List Node}
    (h : Lineage n (.expr e) xs) : ∃ openers', Evaluated root (.expr e) (xs ++ above) openers' := by
  by_cases hne : xs = []
  · subst hne
    cases h with
    | root => exact ⟨openers, hn⟩
  · cases hscope : n.hasScope with
    | false =>
      rcases h.eq_or_exists_child with ⟨-, hxs⟩ | ⟨c, hc, below, hxs, hbelow⟩
      · exact absurd hxs hne
      · rw [hxs, List.append_assoc]
        exact (hn.plain hscope hc).exists_of_lineage hbelow
    | true =>
      rcases Node.exists_part hscope h hne with
        ⟨between, part, below, hpart, hxs, hbelow⟩ | ⟨between, c, below, hpart, hxs, hbelow⟩
      · rw [hxs, List.append_assoc, List.append_assoc]
        exact (hn.header hpart).exists_of_lineage hbelow
      · rw [hxs, List.append_assoc, List.append_assoc]
        exact (hn.body hpart).exists_of_lineage hbelow
termination_by xs.length
decreasing_by all_goals
  simp only [hxs, List.length_append, List.length_singleton]
  omega

/-- Every expression that occurs in a tree is evaluated in some scopes. -/
theorem exists_evaluated {root : Node} {e : Expr} {above : List Node}
    (h : Lineage root (.expr e) above) : ∃ openers, Evaluated root (.expr e) above openers := by
  obtain ⟨openers, h⟩ := Evaluated.root.exists_of_lineage h
  exact ⟨openers, by rwa [List.append_nil] at h⟩

end StateCoverage
