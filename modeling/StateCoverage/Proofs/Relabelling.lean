import Mathlib.Data.List.Basic
import Mathlib.Data.Nat.Pairing
import StateCoverage.Source.Node

/-!
# Trees with other spans

Reformatting a file moves its nodes and changes nothing else.  Trees that
differ in this way have one image when every span is blanked out, and both are
images of one tree whose spans hold a pair.

* `Node.mapSpan` — a tree with every span replaced.
* `Node.children_mapSpan`, `Node.preorder_mapSpan` — its nodes are those of the
  tree, one by one.
* `Node.bare` — a tree without spans.
* `Node.exists_common` — two trees that are the same without spans are
  relabellings of one tree.
-/

namespace StateCoverage

/-! ## Replacing spans -/

section MapSpan

variable (f : Span → Span)

mutual

/-- An expression with every span replaced. -/
def Expr.mapSpan : Expr → Expr
  | .name s id use => .name (f s) id use
  | .member s v attr => .member (f s) v.mapSpan attr
  | .dict s es => .dict (f s) (es.map Entry.mapSpan)
  | .sequence s form es => .sequence (f s) form (es.map Expr.mapSpan)
  | .text s v => .text (f s) v
  | .constant s => .constant (f s)
  | .lambda g => .lambda g.mapSpan
  | .conditional s t b o => .conditional (f s) t.mapSpan b.mapSpan o.mapSpan
  | .call c => .call c.mapSpan
  | .comprehension s form es cs =>
      .comprehension (f s) form (es.map Expr.mapSpan) (cs.map Clause.mapSpan)
  | .compound s form ps => .compound (f s) form (ps.map Expr.mapSpan)
termination_by x => sizeOf x

/-- An entry with every span replaced. -/
def Entry.mapSpan : Entry → Entry
  | .pair k v => .pair k.mapSpan v.mapSpan
  | .spread v => .spread v.mapSpan
termination_by x => sizeOf x

/-- A keyword argument with every span replaced. -/
def Keyword.mapSpan : Keyword → Keyword
  | ⟨s, name?, v⟩ => ⟨f s, name?, v.mapSpan⟩
termination_by x => sizeOf x

/-- A call with every span replaced. -/
def Call.mapSpan : Call → Call
  | ⟨s, callee, args, keywords⟩ =>
      ⟨f s, callee.mapSpan, args.map Expr.mapSpan, keywords.map Keyword.mapSpan⟩
termination_by x => sizeOf x

/-- A clause of a comprehension with every span replaced. -/
def Clause.mapSpan : Clause → Clause
  | ⟨target, iterable, conditions⟩ =>
      ⟨target.mapSpan, iterable.mapSpan, conditions.map Expr.mapSpan⟩
termination_by x => sizeOf x

/-- A parameter with every span replaced. -/
def Param.mapSpan : Param → Param
  | ⟨s, name, type?, default?⟩ =>
      ⟨f s, name, type?.attach.map fun ⟨t, _⟩ => t.mapSpan,
        default?.attach.map fun ⟨d, _⟩ => d.mapSpan⟩
termination_by x => sizeOf x

/-- A parameter list with every span replaced. -/
def Params.mapSpan : Params → Params
  | ⟨posOnly, plain, vararg?, kwOnly, kwarg?⟩ =>
      ⟨posOnly.map Param.mapSpan, plain.map Param.mapSpan,
        vararg?.attach.map fun ⟨p, _⟩ => p.mapSpan, kwOnly.map Param.mapSpan,
        kwarg?.attach.map fun ⟨p, _⟩ => p.mapSpan⟩
termination_by x => sizeOf x

/-- A lambda with every span replaced. -/
def Lambda.mapSpan : Lambda → Lambda
  | ⟨s, params, body⟩ => ⟨f s, params.mapSpan, body.mapSpan⟩
termination_by x => sizeOf x

end

/-- A pattern with every span replaced. -/
def Pattern.mapSpan : Pattern → Pattern
  | .value s v => .value (f s) (v.mapSpan f)
  | .singleton s => .singleton (f s)
  | .sequence s ps => .sequence (f s) (ps.map Pattern.mapSpan)
  | .mapping s ks ps rest? =>
      .mapping (f s) (ks.map (Expr.mapSpan f)) (ps.map Pattern.mapSpan) rest?
  | .classOf s cls ps ks =>
      .classOf (f s) (cls.mapSpan f) (ps.map Pattern.mapSpan) (ks.map Pattern.mapSpan)
  | .star s name? => .star (f s) name?
  | .capture s pattern? name? => .capture (f s) (pattern?.attach.map fun ⟨p, _⟩ => p.mapSpan) name?
  | .alternatives s ps => .alternatives (f s) (ps.map Pattern.mapSpan)

/-- An imported name with its span replaced. -/
def Alias.mapSpan : Alias → Alias
  | ⟨s, name, asName?⟩ => ⟨f s, name, asName?⟩

/-- An item of a `with` with every span replaced. -/
def WithItem.mapSpan : WithItem → WithItem
  | ⟨context, target?⟩ => ⟨context.mapSpan f, target?.map (Expr.mapSpan f)⟩

mutual

/-- A statement with every span replaced. -/
def Stmt.mapSpan : Stmt → Stmt
  | .function g => .function g.mapSpan
  | .classDef c => .classDef c.mapSpan
  | .ret s v? => .ret (f s) (v?.map (Expr.mapSpan f))
  | .conditional s t b o =>
      .conditional (f s) (t.mapSpan f) (b.map Stmt.mapSpan) (o.map Stmt.mapSpan)
  | .branch s subject cs => .branch (f s) (subject.mapSpan f) (cs.map MatchCase.mapSpan)
  | .loop s form heads b o =>
      .loop (f s) form (heads.map (Expr.mapSpan f)) (b.map Stmt.mapSpan) (o.map Stmt.mapSpan)
  | .within s isAsync items b =>
      .within (f s) isAsync (items.map (WithItem.mapSpan f)) (b.map Stmt.mapSpan)
  | .attempt s isStar b hs o e =>
      .attempt (f s) isStar (b.map Stmt.mapSpan) (hs.map Handler.mapSpan) (o.map Stmt.mapSpan)
        (e.map Stmt.mapSpan)
  | .importing s isFrom as => .importing (f s) isFrom (as.map (Alias.mapSpan f))
  | .declaration s form names => .declaration (f s) form names
  | .simple s form ps => .simple (f s) form (ps.map (Expr.mapSpan f))
termination_by x => sizeOf x

/-- A function with every span replaced. -/
def FunctionDef.mapSpan : FunctionDef → FunctionDef
  | ⟨s, isAsync, name, params, body, decorators, returns?⟩ =>
      ⟨f s, isAsync, name, params.mapSpan f, body.map Stmt.mapSpan,
        decorators.map (Expr.mapSpan f), returns?.map (Expr.mapSpan f)⟩
termination_by x => sizeOf x

/-- A class with every span replaced. -/
def ClassDef.mapSpan : ClassDef → ClassDef
  | ⟨s, name, bases, keywords, body, decorators⟩ =>
      ⟨f s, name, bases.map (Expr.mapSpan f), keywords.map (Keyword.mapSpan f),
        body.map Stmt.mapSpan, decorators.map (Expr.mapSpan f)⟩
termination_by x => sizeOf x

/-- A handler with every span replaced. -/
def Handler.mapSpan : Handler → Handler
  | ⟨s, type?, name?, body⟩ => ⟨f s, type?.map (Expr.mapSpan f), name?, body.map Stmt.mapSpan⟩
termination_by x => sizeOf x

/-- A case with every span replaced. -/
def MatchCase.mapSpan : MatchCase → MatchCase
  | ⟨pattern, guard?, body⟩ =>
      ⟨pattern.mapSpan f, guard?.map (Expr.mapSpan f), body.map Stmt.mapSpan⟩
termination_by x => sizeOf x

end

/-- A tree with every span replaced. -/
def Node.mapSpan : Node → Node
  | .module m => .module ⟨m.body.map (Stmt.mapSpan f)⟩
  | .expression e => .expression ⟨e.body.mapSpan f⟩
  | .stmt s => .stmt (s.mapSpan f)
  | .expr e => .expr (e.mapSpan f)
  | .params ps => .params (ps.mapSpan f)
  | .param p => .param (p.mapSpan f)
  | .keyword k => .keyword (k.mapSpan f)
  | .clause c => .clause (c.mapSpan f)
  | .withItem i => .withItem (i.mapSpan f)
  | .handler h => .handler (h.mapSpan f)
  | .case c => .case (c.mapSpan f)
  | .pattern p => .pattern (p.mapSpan f)
  | .imported a => .imported (a.mapSpan f)


/-! ## Structures, field by field -/

/-- The relabelled keyword, field by field.  The recursion goes through each record by
its constructor; this and the next equations give it in the form that the projections
see. -/
theorem Keyword.mapSpan_eq (k : Keyword) :
    k.mapSpan f = ⟨f k.span, k.name?, k.value.mapSpan f⟩ := by
  cases k; rw [Keyword.mapSpan]

theorem Call.mapSpan_eq (c : Call) :
    c.mapSpan f = ⟨f c.span, c.callee.mapSpan f, c.args.map (Expr.mapSpan f),
      c.keywords.map (Keyword.mapSpan f)⟩ := by
  cases c; rw [Call.mapSpan]

theorem Clause.mapSpan_eq (c : Clause) :
    c.mapSpan f = ⟨c.target.mapSpan f, c.iterable.mapSpan f,
      c.conditions.map (Expr.mapSpan f)⟩ := by
  cases c; rw [Clause.mapSpan]

theorem Param.mapSpan_eq (p : Param) :
    p.mapSpan f = ⟨f p.span, p.name, p.declaredType?.map (Expr.mapSpan f),
      p.default?.map (Expr.mapSpan f)⟩ := by
  cases p with
  | mk s name type? default? =>
    rw [Param.mapSpan]
    cases type? <;> cases default? <;> rfl

theorem Params.mapSpan_eq (ps : Params) :
    ps.mapSpan f = ⟨ps.posOnly.map (Param.mapSpan f), ps.plain.map (Param.mapSpan f),
      ps.vararg?.map (Param.mapSpan f), ps.kwOnly.map (Param.mapSpan f),
      ps.kwarg?.map (Param.mapSpan f)⟩ := by
  cases ps with
  | mk posOnly plain vararg? kwOnly kwarg? =>
    rw [Params.mapSpan]
    cases vararg? <;> cases kwarg? <;> rfl

theorem Lambda.mapSpan_eq (g : Lambda) :
    g.mapSpan f = ⟨f g.span, g.params.mapSpan f, g.body.mapSpan f⟩ := by
  cases g; rw [Lambda.mapSpan]

/-- Whether or not a capture has a pattern inside, only spans change. -/
theorem Pattern.mapSpan_capture (s : Span) (p? : Option Pattern) (name? : Option String) :
    (Pattern.capture s p? name?).mapSpan f = .capture (f s) (p?.map (Pattern.mapSpan f)) name? := by
  rw [Pattern.mapSpan]
  cases p? <;> rfl

theorem FunctionDef.mapSpan_eq (g : FunctionDef) :
    g.mapSpan f = ⟨f g.span, g.isAsync, g.name, g.params.mapSpan f, g.body.map (Stmt.mapSpan f),
      g.decorators.map (Expr.mapSpan f), g.returns?.map (Expr.mapSpan f)⟩ := by
  cases g; rw [FunctionDef.mapSpan]

theorem ClassDef.mapSpan_eq (c : ClassDef) :
    c.mapSpan f = ⟨f c.span, c.name, c.bases.map (Expr.mapSpan f),
      c.keywords.map (Keyword.mapSpan f), c.body.map (Stmt.mapSpan f),
      c.decorators.map (Expr.mapSpan f)⟩ := by
  cases c; rw [ClassDef.mapSpan]

theorem Handler.mapSpan_eq (h : Handler) :
    h.mapSpan f = ⟨f h.span, h.type?.map (Expr.mapSpan f), h.name?,
      h.body.map (Stmt.mapSpan f)⟩ := by
  cases h; rw [Handler.mapSpan]

theorem MatchCase.mapSpan_eq (c : MatchCase) :
    c.mapSpan f = ⟨c.pattern.mapSpan f, c.guard?.map (Expr.mapSpan f),
      c.body.map (Stmt.mapSpan f)⟩ := by
  cases c; rw [MatchCase.mapSpan]

/-! ## Children -/

/-- The key of a relabelled entry is its key, relabelled. -/
theorem Entry.key?_mapSpan (e : Entry) : (e.mapSpan f).key? = e.key?.map (Expr.mapSpan f) := by
  cases e <;> simp [Entry.mapSpan, Entry.key?]

/-- The value of a relabelled entry is its value, relabelled. -/
theorem Entry.value_mapSpan (e : Entry) : (e.mapSpan f).value = e.value.mapSpan f := by
  cases e <;> simp [Entry.mapSpan, Entry.value]

/-- A partial function that commutes with relabelling does so along a list. -/
theorem filterMap_map_of_comm {α β : Type _} {g : α → Option β} {m : α → α} {m' : β → β}
    (h : ∀ a, g (m a) = (g a).map m') (as : List α) :
    (as.map m).filterMap g = (as.filterMap g).map m' := by
  rw [List.filterMap_map, List.map_filterMap]
  exact List.filterMap_congr fun a _ => h a

/-- The children of an expression are relabelled one by one. -/
theorem Expr.children_mapSpan (e : Expr) :
    (e.mapSpan f).children = e.children.map (Node.mapSpan f) := by
  cases e with
  | dict s es =>
    simp only [Expr.mapSpan, Expr.children, filterMap_map_of_comm (Entry.key?_mapSpan f)]
    simp [Function.comp_def, Entry.value_mapSpan, Node.mapSpan]
  | lambda g => simp [Expr.mapSpan, Expr.children, Node.mapSpan, Lambda.mapSpan_eq]
  | call c => simp [Expr.mapSpan, Expr.children, Node.mapSpan, Call.mapSpan_eq, Function.comp_def]
  | _ => simp [Expr.mapSpan, Expr.children, Node.mapSpan, Function.comp_def]

/-- The children of a pattern are relabelled one by one. -/
theorem Pattern.children_mapSpan (p : Pattern) :
    (p.mapSpan f).children = p.children.map (Node.mapSpan f) := by
  cases p with
  | capture s p? name? =>
    rw [Pattern.mapSpan_capture]
    cases p? <;> simp [Pattern.children, Node.mapSpan]
  | _ => simp [Pattern.mapSpan, Pattern.children, Node.mapSpan, Function.comp_def]

theorem Param.default?_mapSpan (p : Param) :
    (p.mapSpan f).default? = p.default?.map (Expr.mapSpan f) := by
  rw [Param.mapSpan_eq]

/-- The defaults of parameters that can be passed by position. -/
theorem Params.defaults_mapSpan (ps : Params) :
    (ps.mapSpan f).defaults = ps.defaults.map (Expr.mapSpan f) := by
  rw [Params.mapSpan_eq, Params.defaults, ← List.map_append,
    filterMap_map_of_comm (Param.default?_mapSpan f)]
  rfl

/-- The defaults of parameters that can be passed by name only. -/
theorem Params.kwDefaults_mapSpan (ps : Params) :
    (ps.mapSpan f).kwDefaults = ps.kwDefaults.map (Expr.mapSpan f) := by
  rw [Params.mapSpan_eq, Params.kwDefaults, filterMap_map_of_comm (Param.default?_mapSpan f)]
  rfl

/-- The children of a parameter list are relabelled one by one. -/
theorem Params.children_mapSpan (ps : Params) :
    (ps.mapSpan f).children = ps.children.map (Node.mapSpan f) := by
  rw [Params.children, Params.defaults_mapSpan, Params.kwDefaults_mapSpan, Params.mapSpan_eq,
    Params.children]
  simp [Function.comp_def, Node.mapSpan, Option.toList_map]

/-- The children of a statement are relabelled one by one. -/
theorem Stmt.children_mapSpan (s : Stmt) :
    (s.mapSpan f).children = s.children.map (Node.mapSpan f) := by
  cases s <;> simp [Stmt.mapSpan, Stmt.children, Node.mapSpan, FunctionDef.mapSpan_eq,
    ClassDef.mapSpan_eq, Function.comp_def, Option.toList_map]

/-- The children of a relabelled node are its children, relabelled. -/
theorem Node.children_mapSpan (n : Node) :
    (n.mapSpan f).children = n.children.map (Node.mapSpan f) := by
  cases n with
  | stmt s => exact s.children_mapSpan f
  | expr e => exact e.children_mapSpan f
  | params ps => exact ps.children_mapSpan f
  | pattern p => exact p.children_mapSpan f
  | _ => simp [Node.mapSpan, Node.children, Function.comp_def, Param.mapSpan_eq, Keyword.mapSpan_eq,
      Clause.mapSpan_eq, WithItem.mapSpan, Handler.mapSpan_eq, MatchCase.mapSpan_eq,
      Option.toList_map]

/-- Relabelling keeps every node at its place in the order of the tree. -/
theorem Node.preorder_mapSpan (n : Node) :
    (n.mapSpan f).preorder = n.preorder.map (Node.mapSpan f) := by
  induction n using Node.induction with
  | step n ih =>
    rw [Node.preorder_eq, Node.preorder_eq, Node.children_mapSpan, List.map_cons, List.flatMap_map,
      List.map_flatMap]
    congr 1
    exact List.flatMap_congr ih

end MapSpan

/-! ## Spans that hold two -/

/-- A position that holds two. -/
def Pos.pair (p q : Pos) : Pos := ⟨Nat.pair p.line q.line, Nat.pair p.column q.column⟩

/-- The first position that a position holds. -/
def Pos.left (p : Pos) : Pos := ⟨p.line.unpair.1, p.column.unpair.1⟩

/-- The second position that a position holds. -/
def Pos.right (p : Pos) : Pos := ⟨p.line.unpair.2, p.column.unpair.2⟩

namespace Span

/-- A span that holds two. -/
def pair (s t : Span) : Span := ⟨s.start.pair t.start, s.stop.pair t.stop⟩

/-- The first span that a span holds. -/
def left (s : Span) : Span := ⟨s.start.left, s.stop.left⟩

/-- The second span that a span holds. -/
def right (s : Span) : Span := ⟨s.start.right, s.stop.right⟩

/-- The span of every node in a tree without spans. -/
def blank (_ : Span) : Span := default

/-- The first span comes back out of a pair. -/
@[simp] theorem left_pair (s t : Span) : (s.pair t).left = s := by
  simp [left, pair, Pos.left, Pos.pair]

/-- The second span comes back out of a pair. -/
@[simp] theorem right_pair (s t : Span) : (s.pair t).right = t := by
  simp [right, pair, Pos.right, Pos.pair]

end Span

/-! ## Trees that differ in spans only -/

section Joined

variable {α : Type} {map : (Span → Span) → α → α}

/-- Two trees are relabellings of one, whose spans hold those of both. -/
def Joined (map : (Span → Span) → α → α) (a b : α) : Prop :=
  ∃ c, map .left c = a ∧ map .right c = b

/-- The tree is joined with every tree that is the same without spans. -/
def Joins (map : (Span → Span) → α → α) (a : α) : Prop :=
  ∀ b, map .blank a = map .blank b → Joined map a b

/-- Lists are joined item by item. -/
theorem joins_list [SizeOf α] {as : List α} (h : ∀ a, sizeOf a < sizeOf as → Joins map a) :
    Joins (fun f => List.map (map f)) as := by
  induction as with
  | nil =>
    intro bs hbs
    exact ⟨[], rfl, (List.map_eq_nil_iff.1 hbs.symm).symm⟩
  | cons a as ih =>
    intro bs hbs
    obtain ⟨b, bs, rfl, hb, hrest⟩ := List.map_eq_cons_iff.1 hbs.symm
    obtain ⟨c, rfl, rfl⟩ := h a (List.sizeOf_lt_of_mem (List.mem_cons_self ..)) b hb.symm
    have below : ∀ a, sizeOf a < sizeOf as → Joins map a := by
      intro a ha
      refine h a ?_
      rw [List.cons.sizeOf_spec]
      omega
    obtain ⟨cs, rfl, rfl⟩ := ih below bs hrest.symm
    exact ⟨c :: cs, rfl, rfl⟩

/-- What may be absent is absent in both trees or joined. -/
theorem joins_option [SizeOf α] {a? : Option α} (h : ∀ a, sizeOf a < sizeOf a? → Joins map a) :
    Joins (fun f => Option.map (map f)) a? := by
  cases a? with
  | none =>
    intro b? hb?
    exact ⟨none, rfl, (Option.map_eq_none_iff.1 hb?.symm).symm⟩
  | some a =>
    intro b? hb?
    obtain ⟨b, rfl, hb⟩ := Option.map_eq_some_iff.1 hb?.symm
    obtain ⟨c, rfl, rfl⟩ := h a (sizeOf_lt_of_mem_toList (List.mem_singleton_self a)) b hb.symm
    exact ⟨some c, rfl, rfl⟩

/-- Trees that are joined can be set into the same place. -/
theorem Joined.wrap {a b : α} (h : Joined map a b) (mk : α → Node)
    (comm : ∀ f a, (mk a).mapSpan f = mk (map f a)) : Joined Node.mapSpan (mk a) (mk b) := by
  obtain ⟨c, rfl, rfl⟩ := h
  exact ⟨mk c, comm .left c, comm .right c⟩

end Joined

-- In each of these, two trees that are the same without spans have the same
-- constructor; the common tree has it too, over the common trees of the parts.

mutual

/-- Two expressions with one image are relabellings of one expression.  This and the
statements for the other kinds of parts are one recursion: each goes to the parts
inside it. -/
theorem Expr.joins (e : Expr) : Joins Expr.mapSpan e := by
  intro e' h
  cases e <;> cases e' <;> simp only [Expr.mapSpan, reduceCtorEq, Expr.name.injEq,
    Expr.member.injEq, Expr.dict.injEq, Expr.sequence.injEq, Expr.text.injEq, Expr.constant.injEq,
    Expr.lambda.injEq, Expr.conditional.injEq, Expr.call.injEq, Expr.comprehension.injEq,
    Expr.compound.injEq] at h
  case name.name s id use s' id' use' =>
    obtain ⟨-, rfl, rfl⟩ := h
    exact ⟨.name (s.pair s') id use, by simp [Expr.mapSpan]⟩
  case member.member s v attr s' v' attr' =>
    obtain ⟨-, hv, rfl⟩ := h
    obtain ⟨v, rfl, rfl⟩ := v.joins v' hv
    exact ⟨.member (s.pair s') v attr, by simp [Expr.mapSpan]⟩
  case dict.dict s es s' es' =>
    obtain ⟨-, hes⟩ := h
    obtain ⟨es, rfl, rfl⟩ := joins_list (fun e _ => e.joins) es' hes
    exact ⟨.dict (s.pair s') es, by simp [Expr.mapSpan]⟩
  case sequence.sequence s form es s' form' es' =>
    obtain ⟨-, rfl, hes⟩ := h
    obtain ⟨es, rfl, rfl⟩ := joins_list (fun e _ => e.joins) es' hes
    exact ⟨.sequence (s.pair s') form es, by simp [Expr.mapSpan]⟩
  case text.text s v s' v' =>
    obtain ⟨-, rfl⟩ := h
    exact ⟨.text (s.pair s') v, by simp [Expr.mapSpan]⟩
  case constant.constant s s' =>
    exact ⟨.constant (s.pair s'), by simp [Expr.mapSpan]⟩
  case lambda.lambda g g' =>
    obtain ⟨g, rfl, rfl⟩ := g.joins g' h
    exact ⟨.lambda g, by simp [Expr.mapSpan]⟩
  case conditional.conditional s t b o s' t' b' o' =>
    obtain ⟨-, ht, hb, ho⟩ := h
    obtain ⟨t, rfl, rfl⟩ := t.joins t' ht
    obtain ⟨b, rfl, rfl⟩ := b.joins b' hb
    obtain ⟨o, rfl, rfl⟩ := o.joins o' ho
    exact ⟨.conditional (s.pair s') t b o, by simp [Expr.mapSpan]⟩
  case call.call c c' =>
    obtain ⟨c, rfl, rfl⟩ := c.joins c' h
    exact ⟨.call c, by simp [Expr.mapSpan]⟩
  case comprehension.comprehension s form es cs s' form' es' cs' =>
    obtain ⟨-, rfl, hes, hcs⟩ := h
    obtain ⟨es, rfl, rfl⟩ := joins_list (fun e _ => e.joins) es' hes
    obtain ⟨cs, rfl, rfl⟩ := joins_list (fun c _ => c.joins) cs' hcs
    exact ⟨.comprehension (s.pair s') form es cs, by simp [Expr.mapSpan]⟩
  case compound.compound s form ps s' form' ps' =>
    obtain ⟨-, rfl, hps⟩ := h
    obtain ⟨ps, rfl, rfl⟩ := joins_list (fun e _ => e.joins) ps' hps
    exact ⟨.compound (s.pair s') form ps, by simp [Expr.mapSpan]⟩
termination_by sizeOf e
decreasing_by
  all_goals subst_vars
  all_goals simp only [Expr.member.sizeOf_spec, Expr.dict.sizeOf_spec, Expr.sequence.sizeOf_spec,
    Expr.lambda.sizeOf_spec, Expr.conditional.sizeOf_spec, Expr.call.sizeOf_spec,
    Expr.comprehension.sizeOf_spec, Expr.compound.sizeOf_spec]
  all_goals omega

theorem Entry.joins (e : Entry) : Joins Entry.mapSpan e := by
  intro e' h
  cases e <;> cases e' <;> simp only [Entry.mapSpan, reduceCtorEq, Entry.pair.injEq,
    Entry.spread.injEq] at h
  case pair.pair k v k' v' =>
    obtain ⟨hk, hv⟩ := h
    obtain ⟨k, rfl, rfl⟩ := k.joins k' hk
    obtain ⟨v, rfl, rfl⟩ := v.joins v' hv
    exact ⟨.pair k v, by simp [Entry.mapSpan]⟩
  case spread.spread v v' =>
    obtain ⟨v, rfl, rfl⟩ := v.joins v' h
    exact ⟨.spread v, by simp [Entry.mapSpan]⟩
termination_by sizeOf e
decreasing_by
  all_goals subst_vars
  all_goals simp only [Entry.pair.sizeOf_spec, Entry.spread.sizeOf_spec]
  all_goals omega

theorem Keyword.joins : ∀ k, Joins Keyword.mapSpan k
  | ⟨s, name?, v⟩ => by
    rintro ⟨s', name?', v'⟩ h
    simp only [Keyword.mapSpan_eq, Keyword.mk.injEq] at h
    obtain ⟨-, rfl, hv⟩ := h
    obtain ⟨v, rfl, rfl⟩ := v.joins v' hv
    exact ⟨⟨s.pair s', name?, v⟩, by simp [Keyword.mapSpan_eq]⟩
termination_by k => sizeOf k
decreasing_by all_goals (simp only [Keyword.mk.sizeOf_spec]; omega)

/-- A call is joined by its callee, its arguments and its keywords. -/
theorem Call.joins : ∀ c, Joins Call.mapSpan c
  | ⟨s, callee, args, keywords⟩ => by
    rintro ⟨s', callee', args', keywords'⟩ h
    simp only [Call.mapSpan_eq, Call.mk.injEq] at h
    obtain ⟨-, hcallee, hargs, hkeywords⟩ := h
    obtain ⟨callee, rfl, rfl⟩ := callee.joins callee' hcallee
    obtain ⟨args, rfl, rfl⟩ := joins_list (fun e _ => e.joins) args' hargs
    obtain ⟨keywords, rfl, rfl⟩ := joins_list (fun k _ => k.joins) keywords' hkeywords
    exact ⟨⟨s.pair s', callee, args, keywords⟩, by simp [Call.mapSpan_eq]⟩
termination_by c => sizeOf c
decreasing_by all_goals (simp only [Call.mk.sizeOf_spec]; omega)

theorem Clause.joins : ∀ c, Joins Clause.mapSpan c
  | ⟨target, iterable, conditions⟩ => by
    rintro ⟨target', iterable', conditions'⟩ h
    simp only [Clause.mapSpan_eq, Clause.mk.injEq] at h
    obtain ⟨htarget, hiterable, hconditions⟩ := h
    obtain ⟨target, rfl, rfl⟩ := target.joins target' htarget
    obtain ⟨iterable, rfl, rfl⟩ := iterable.joins iterable' hiterable
    obtain ⟨conditions, rfl, rfl⟩ := joins_list (fun e _ => e.joins) conditions' hconditions
    exact ⟨⟨target, iterable, conditions⟩, by simp [Clause.mapSpan_eq]⟩
termination_by c => sizeOf c
decreasing_by all_goals (simp only [Clause.mk.sizeOf_spec]; omega)

theorem Param.joins : ∀ p, Joins Param.mapSpan p
  | ⟨s, name, type?, default?⟩ => by
    rintro ⟨s', name', type?', default?'⟩ h
    simp only [Param.mapSpan_eq, Param.mk.injEq] at h
    obtain ⟨-, rfl, htype, hdefault⟩ := h
    obtain ⟨type?, rfl, rfl⟩ := joins_option (fun e _ => e.joins) type?' htype
    obtain ⟨default?, rfl, rfl⟩ := joins_option (fun e _ => e.joins) default?' hdefault
    exact ⟨⟨s.pair s', name, type?, default?⟩, by simp [Param.mapSpan_eq]⟩
termination_by p => sizeOf p
decreasing_by all_goals (simp only [Param.mk.sizeOf_spec]; omega)

/-- A parameter list is joined in each of its five parts. -/
theorem Params.joins : ∀ ps, Joins Params.mapSpan ps
  | ⟨posOnly, plain, vararg?, kwOnly, kwarg?⟩ => by
    rintro ⟨posOnly', plain', vararg?', kwOnly', kwarg?'⟩ h
    simp only [Params.mapSpan_eq, Params.mk.injEq] at h
    obtain ⟨hposOnly, hplain, hvararg, hkwOnly, hkwarg⟩ := h
    obtain ⟨posOnly, rfl, rfl⟩ := joins_list (fun p _ => p.joins) posOnly' hposOnly
    obtain ⟨plain, rfl, rfl⟩ := joins_list (fun p _ => p.joins) plain' hplain
    obtain ⟨vararg?, rfl, rfl⟩ := joins_option (fun p _ => p.joins) vararg?' hvararg
    obtain ⟨kwOnly, rfl, rfl⟩ := joins_list (fun p _ => p.joins) kwOnly' hkwOnly
    obtain ⟨kwarg?, rfl, rfl⟩ := joins_option (fun p _ => p.joins) kwarg?' hkwarg
    exact ⟨⟨posOnly, plain, vararg?, kwOnly, kwarg?⟩, by simp [Params.mapSpan_eq]⟩
termination_by ps => sizeOf ps
decreasing_by all_goals (simp only [Params.mk.sizeOf_spec]; omega)

theorem Lambda.joins : ∀ g, Joins Lambda.mapSpan g
  | ⟨s, params, body⟩ => by
    rintro ⟨s', params', body'⟩ h
    simp only [Lambda.mapSpan_eq, Lambda.mk.injEq] at h
    obtain ⟨-, hparams, hbody⟩ := h
    obtain ⟨params, rfl, rfl⟩ := params.joins params' hparams
    obtain ⟨body, rfl, rfl⟩ := body.joins body' hbody
    exact ⟨⟨s.pair s', params, body⟩, by simp [Lambda.mapSpan_eq]⟩
termination_by g => sizeOf g
decreasing_by all_goals (simp only [Lambda.mk.sizeOf_spec]; omega)

end

/-- The same for patterns. -/
theorem Pattern.joins (p : Pattern) : Joins Pattern.mapSpan p := by
  intro p' h
  cases p <;> cases p' <;> simp only [Pattern.mapSpan, Pattern.mapSpan_capture, reduceCtorEq,
    Pattern.value.injEq, Pattern.singleton.injEq, Pattern.sequence.injEq, Pattern.mapping.injEq,
    Pattern.classOf.injEq, Pattern.star.injEq, Pattern.capture.injEq, Pattern.alternatives.injEq]
    at h
  case value.value s v s' v' =>
    obtain ⟨-, hv⟩ := h
    obtain ⟨v, rfl, rfl⟩ := v.joins v' hv
    exact ⟨.value (s.pair s') v, by simp [Pattern.mapSpan]⟩
  case singleton.singleton s s' =>
    exact ⟨.singleton (s.pair s'), by simp [Pattern.mapSpan]⟩
  case sequence.sequence s ps s' ps' =>
    obtain ⟨-, hps⟩ := h
    obtain ⟨ps, rfl, rfl⟩ := joins_list (fun p _ => p.joins) ps' hps
    exact ⟨.sequence (s.pair s') ps, by simp [Pattern.mapSpan]⟩
  case mapping.mapping s ks ps rest? s' ks' ps' rest?' =>
    obtain ⟨-, hks, hps, rfl⟩ := h
    obtain ⟨ks, rfl, rfl⟩ := joins_list (fun e _ => e.joins) ks' hks
    obtain ⟨ps, rfl, rfl⟩ := joins_list (fun p _ => p.joins) ps' hps
    exact ⟨.mapping (s.pair s') ks ps rest?, by simp [Pattern.mapSpan]⟩
  case classOf.classOf s cls ps ks s' cls' ps' ks' =>
    obtain ⟨-, hcls, hps, hks⟩ := h
    obtain ⟨cls, rfl, rfl⟩ := cls.joins cls' hcls
    obtain ⟨ps, rfl, rfl⟩ := joins_list (fun p _ => p.joins) ps' hps
    obtain ⟨ks, rfl, rfl⟩ := joins_list (fun p _ => p.joins) ks' hks
    exact ⟨.classOf (s.pair s') cls ps ks, by simp [Pattern.mapSpan]⟩
  case star.star s name? s' name?' =>
    obtain ⟨-, rfl⟩ := h
    exact ⟨.star (s.pair s') name?, by simp [Pattern.mapSpan]⟩
  case capture.capture s p? name? s' p?' name?' =>
    obtain ⟨-, hp, rfl⟩ := h
    obtain ⟨p?, rfl, rfl⟩ := joins_option (fun p _ => p.joins) p?' hp
    exact ⟨.capture (s.pair s') p? name?, by simp [Pattern.mapSpan_capture]⟩
  case alternatives.alternatives s ps s' ps' =>
    obtain ⟨-, hps⟩ := h
    obtain ⟨ps, rfl, rfl⟩ := joins_list (fun p _ => p.joins) ps' hps
    exact ⟨.alternatives (s.pair s') ps, by simp [Pattern.mapSpan]⟩
termination_by sizeOf p
decreasing_by
  all_goals subst_vars
  all_goals simp only [Pattern.sequence.sizeOf_spec, Pattern.mapping.sizeOf_spec,
    Pattern.classOf.sizeOf_spec, Pattern.capture.sizeOf_spec, Pattern.alternatives.sizeOf_spec]
  all_goals omega

theorem Alias.joins : ∀ a, Joins Alias.mapSpan a
  | ⟨s, name, asName?⟩ => by
    rintro ⟨s', name', asName?'⟩ h
    simp only [Alias.mapSpan, Alias.mk.injEq] at h
    obtain ⟨-, rfl, rfl⟩ := h
    exact ⟨⟨s.pair s', name, asName?⟩, by simp [Alias.mapSpan]⟩

theorem WithItem.joins : ∀ i, Joins WithItem.mapSpan i
  | ⟨context, target?⟩ => by
    rintro ⟨context', target?'⟩ h
    simp only [WithItem.mapSpan, WithItem.mk.injEq] at h
    obtain ⟨hcontext, htarget⟩ := h
    obtain ⟨context, rfl, rfl⟩ := context.joins context' hcontext
    obtain ⟨target?, rfl, rfl⟩ := joins_option (fun e _ => e.joins) target?' htarget
    exact ⟨⟨context, target?⟩, by simp [WithItem.mapSpan]⟩

mutual

/-- The same for statements, with the definitions, handlers and cases inside them.
-/
theorem Stmt.joins (s : Stmt) : Joins Stmt.mapSpan s := by
  intro s' h
  cases s <;> cases s' <;> simp only [Stmt.mapSpan, reduceCtorEq, Stmt.function.injEq,
    Stmt.classDef.injEq, Stmt.ret.injEq, Stmt.conditional.injEq, Stmt.branch.injEq,
    Stmt.loop.injEq, Stmt.within.injEq, Stmt.attempt.injEq, Stmt.importing.injEq,
    Stmt.declaration.injEq, Stmt.simple.injEq] at h
  case function.function g g' =>
    obtain ⟨g, rfl, rfl⟩ := g.joins g' h
    exact ⟨.function g, by simp [Stmt.mapSpan]⟩
  case classDef.classDef c c' =>
    obtain ⟨c, rfl, rfl⟩ := c.joins c' h
    exact ⟨.classDef c, by simp [Stmt.mapSpan]⟩
  case ret.ret s v? s' v?' =>
    obtain ⟨-, hv⟩ := h
    obtain ⟨v?, rfl, rfl⟩ := joins_option (fun e _ => e.joins) v?' hv
    exact ⟨.ret (s.pair s') v?, by simp [Stmt.mapSpan]⟩
  case conditional.conditional s t b o s' t' b' o' =>
    obtain ⟨-, ht, hb, ho⟩ := h
    obtain ⟨t, rfl, rfl⟩ := t.joins t' ht
    obtain ⟨b, rfl, rfl⟩ := joins_list (fun s _ => s.joins) b' hb
    obtain ⟨o, rfl, rfl⟩ := joins_list (fun s _ => s.joins) o' ho
    exact ⟨.conditional (s.pair s') t b o, by simp [Stmt.mapSpan]⟩
  case branch.branch s subject cs s' subject' cs' =>
    obtain ⟨-, hsubject, hcs⟩ := h
    obtain ⟨subject, rfl, rfl⟩ := subject.joins subject' hsubject
    obtain ⟨cs, rfl, rfl⟩ := joins_list (fun c _ => c.joins) cs' hcs
    exact ⟨.branch (s.pair s') subject cs, by simp [Stmt.mapSpan]⟩
  case loop.loop s form heads b o s' form' heads' b' o' =>
    obtain ⟨-, rfl, hheads, hb, ho⟩ := h
    obtain ⟨heads, rfl, rfl⟩ := joins_list (fun e _ => e.joins) heads' hheads
    obtain ⟨b, rfl, rfl⟩ := joins_list (fun s _ => s.joins) b' hb
    obtain ⟨o, rfl, rfl⟩ := joins_list (fun s _ => s.joins) o' ho
    exact ⟨.loop (s.pair s') form heads b o, by simp [Stmt.mapSpan]⟩
  case within.within s isAsync items b s' isAsync' items' b' =>
    obtain ⟨-, rfl, hitems, hb⟩ := h
    obtain ⟨items, rfl, rfl⟩ := joins_list (fun i _ => i.joins) items' hitems
    obtain ⟨b, rfl, rfl⟩ := joins_list (fun s _ => s.joins) b' hb
    exact ⟨.within (s.pair s') isAsync items b, by simp [Stmt.mapSpan]⟩
  case attempt.attempt s isStar b hs o e s' isStar' b' hs' o' e' =>
    obtain ⟨-, rfl, hb, hhs, ho, he⟩ := h
    obtain ⟨b, rfl, rfl⟩ := joins_list (fun s _ => s.joins) b' hb
    obtain ⟨hs, rfl, rfl⟩ := joins_list (fun h _ => h.joins) hs' hhs
    obtain ⟨o, rfl, rfl⟩ := joins_list (fun s _ => s.joins) o' ho
    obtain ⟨e, rfl, rfl⟩ := joins_list (fun s _ => s.joins) e' he
    exact ⟨.attempt (s.pair s') isStar b hs o e, by simp [Stmt.mapSpan]⟩
  case importing.importing s isFrom as s' isFrom' as' =>
    obtain ⟨-, rfl, has⟩ := h
    obtain ⟨as, rfl, rfl⟩ := joins_list (fun a _ => a.joins) as' has
    exact ⟨.importing (s.pair s') isFrom as, by simp [Stmt.mapSpan]⟩
  case declaration.declaration s form names s' form' names' =>
    obtain ⟨-, rfl, rfl⟩ := h
    exact ⟨.declaration (s.pair s') form names, by simp [Stmt.mapSpan]⟩
  case simple.simple s form ps s' form' ps' =>
    obtain ⟨-, rfl, hps⟩ := h
    obtain ⟨ps, rfl, rfl⟩ := joins_list (fun e _ => e.joins) ps' hps
    exact ⟨.simple (s.pair s') form ps, by simp [Stmt.mapSpan]⟩
termination_by sizeOf s
decreasing_by
  all_goals subst_vars
  all_goals simp only [Stmt.function.sizeOf_spec, Stmt.classDef.sizeOf_spec,
    Stmt.conditional.sizeOf_spec, Stmt.branch.sizeOf_spec, Stmt.loop.sizeOf_spec,
    Stmt.within.sizeOf_spec, Stmt.attempt.sizeOf_spec]
  all_goals omega

/-- A `def` is joined by its parameters, its body, its decorators and its return
annotation. -/
theorem FunctionDef.joins : ∀ g, Joins FunctionDef.mapSpan g
  | ⟨s, isAsync, name, params, body, decorators, returns?⟩ => by
    rintro ⟨s', isAsync', name', params', body', decorators', returns?'⟩ h
    simp only [FunctionDef.mapSpan_eq, FunctionDef.mk.injEq] at h
    obtain ⟨-, rfl, rfl, hparams, hbody, hdecorators, hreturns⟩ := h
    obtain ⟨params, rfl, rfl⟩ := params.joins params' hparams
    obtain ⟨body, rfl, rfl⟩ := joins_list (fun s _ => s.joins) body' hbody
    obtain ⟨decorators, rfl, rfl⟩ := joins_list (fun e _ => e.joins) decorators' hdecorators
    obtain ⟨returns?, rfl, rfl⟩ := joins_option (fun e _ => e.joins) returns?' hreturns
    exact ⟨⟨s.pair s', isAsync, name, params, body, decorators, returns?⟩,
      by simp [FunctionDef.mapSpan_eq]⟩
termination_by g => sizeOf g
decreasing_by all_goals (simp only [FunctionDef.mk.sizeOf_spec]; omega)

theorem ClassDef.joins : ∀ c, Joins ClassDef.mapSpan c
  | ⟨s, name, bases, keywords, body, decorators⟩ => by
    rintro ⟨s', name', bases', keywords', body', decorators'⟩ h
    simp only [ClassDef.mapSpan_eq, ClassDef.mk.injEq] at h
    obtain ⟨-, rfl, hbases, hkeywords, hbody, hdecorators⟩ := h
    obtain ⟨bases, rfl, rfl⟩ := joins_list (fun e _ => e.joins) bases' hbases
    obtain ⟨keywords, rfl, rfl⟩ := joins_list (fun k _ => k.joins) keywords' hkeywords
    obtain ⟨body, rfl, rfl⟩ := joins_list (fun s _ => s.joins) body' hbody
    obtain ⟨decorators, rfl, rfl⟩ := joins_list (fun e _ => e.joins) decorators' hdecorators
    exact ⟨⟨s.pair s', name, bases, keywords, body, decorators⟩, by simp [ClassDef.mapSpan_eq]⟩
termination_by c => sizeOf c
decreasing_by all_goals (simp only [ClassDef.mk.sizeOf_spec]; omega)

theorem Handler.joins : ∀ k, Joins Handler.mapSpan k
  | ⟨s, type?, name?, body⟩ => by
    rintro ⟨s', type?', name?', body'⟩ h
    simp only [Handler.mapSpan_eq, Handler.mk.injEq] at h
    obtain ⟨-, htype, rfl, hbody⟩ := h
    obtain ⟨type?, rfl, rfl⟩ := joins_option (fun e _ => e.joins) type?' htype
    obtain ⟨body, rfl, rfl⟩ := joins_list (fun s _ => s.joins) body' hbody
    exact ⟨⟨s.pair s', type?, name?, body⟩, by simp [Handler.mapSpan_eq]⟩
termination_by k => sizeOf k
decreasing_by all_goals (simp only [Handler.mk.sizeOf_spec]; omega)

theorem MatchCase.joins : ∀ c, Joins MatchCase.mapSpan c
  | ⟨pattern, guard?, body⟩ => by
    rintro ⟨pattern', guard?', body'⟩ h
    simp only [MatchCase.mapSpan_eq, MatchCase.mk.injEq] at h
    obtain ⟨hpattern, hguard, hbody⟩ := h
    obtain ⟨pattern, rfl, rfl⟩ := pattern.joins pattern' hpattern
    obtain ⟨guard?, rfl, rfl⟩ := joins_option (fun e _ => e.joins) guard?' hguard
    obtain ⟨body, rfl, rfl⟩ := joins_list (fun s _ => s.joins) body' hbody
    exact ⟨⟨pattern, guard?, body⟩, by simp [MatchCase.mapSpan_eq]⟩
termination_by c => sizeOf c
decreasing_by all_goals (simp only [MatchCase.mk.sizeOf_spec]; omega)

end

/-- A tree without spans. -/
def Node.bare (n : Node) : Node := n.mapSpan .blank

/-- **Two trees that are the same without spans are relabellings of one.** -/
theorem Node.exists_common {n n' : Node} (h : n.bare = n'.bare) : Joined Node.mapSpan n n' := by
  cases n <;> cases n' <;> simp only [Node.bare, Node.mapSpan, reduceCtorEq, Node.module.injEq,
    Node.expression.injEq, Node.stmt.injEq, Node.expr.injEq, Node.params.injEq, Node.param.injEq,
    Node.keyword.injEq, Node.clause.injEq, Node.withItem.injEq, Node.handler.injEq,
    Node.case.injEq, Node.pattern.injEq, Node.imported.injEq, Module.mk.injEq,
    LoneExpr.mk.injEq] at h
  case module.module m m' =>
    exact (joins_list (fun s _ => s.joins) m'.body h).wrap (.module ⟨·⟩) fun _ _ => rfl
  case expression.expression e e' =>
    exact (e.body.joins e'.body h).wrap (.expression ⟨·⟩) fun _ _ => rfl
  case stmt.stmt s s' => exact (s.joins s' h).wrap .stmt fun _ _ => rfl
  case expr.expr e e' => exact (e.joins e' h).wrap .expr fun _ _ => rfl
  case params.params ps ps' => exact (ps.joins ps' h).wrap .params fun _ _ => rfl
  case param.param p p' => exact (p.joins p' h).wrap .param fun _ _ => rfl
  case keyword.keyword k k' => exact (k.joins k' h).wrap .keyword fun _ _ => rfl
  case clause.clause c c' => exact (c.joins c' h).wrap .clause fun _ _ => rfl
  case withItem.withItem i i' => exact (i.joins i' h).wrap .withItem fun _ _ => rfl
  case handler.handler k k' => exact (k.joins k' h).wrap .handler fun _ _ => rfl
  case case.case c c' => exact (c.joins c' h).wrap .case fun _ _ => rfl
  case pattern.pattern p p' => exact (p.joins p' h).wrap .pattern fun _ _ => rfl
  case imported.imported a a' => exact (a.joins a' h).wrap .imported fun _ _ => rfl

end StateCoverage
