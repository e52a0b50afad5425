import StateCoverage.Proofs.Agreement

/-!
# Trees that differ in how calls pass named arguments

A call with keywords only can be written with one dict display instead, its
keys the names of the keywords.  `Node.Respelt` relates two trees that differ
in this way in any number of calls, at any depth.

* `Node.Respelt` — one rule that rewrites a call, and one for each syntactic
  form that passes on what holds of its parts.
* `OrderedMap.Rel` — maps with the same keys and related values.
* `TransitionTable.ofDisplay_eq_of_respelt` — respelt `config` displays declare
  the same transitions.
* `Node.Respelt.children_or` — the children of respelt nodes are respelt, but
  for a call that was rewritten.
-/

namespace StateCoverage

/-! ## Respelt trees -/

/-- A keyword argument and an entry of a dict display that says the same. -/
inductive Keyword.SpeltAs : Keyword → Entry → Prop
  | entry {span keySpan : Span} {name : String} {v : Expr} :
      Keyword.SpeltAs ⟨span, some name, v⟩ (.pair (.text keySpan name) v)

/-- The call with one dict display as its only argument. -/
def Call.withDisplay (c : Call) (span : Span) (es : List Entry) : Call :=
  { c with args := [.dict span es], keywords := [] }

mutual

/-- The second tree is the first with some calls that have keywords only written
with a dict display. -/
inductive Node.Respelt : Node → Node → Prop
  | same (n : Node) : Node.Respelt n n
  /-- The one rule that changes something. -/
  | display {c : Call} {span : Span} {es : List Entry} (hargs : c.args = [])
      (hkeywords : List.Forall₂ Keyword.SpeltAs c.keywords es) :
      Node.Respelt (.expr (.call c)) (.expr (.call (c.withDisplay span es)))
  -- expressions
  | member {s : Span} {v v' : Expr} {attr : String} (h : Node.Respelt (.expr v) (.expr v')) :
      Node.Respelt (.expr (.member s v attr)) (.expr (.member s v' attr))
  | dict {s : Span} {es es' : List Entry} (h : List.Forall₂ Entry.Respelt es es') :
      Node.Respelt (.expr (.dict s es)) (.expr (.dict s es'))
  | sequence {s : Span} {form : SequenceForm} {es es' : List Expr}
      (h : List.Forall₂ Node.Respelt (es.map .expr) (es'.map .expr)) :
      Node.Respelt (.expr (.sequence s form es)) (.expr (.sequence s form es'))
  | lambda {s : Span} {ps ps' : Params} {b b' : Expr}
      (hparams : Node.Respelt (.params ps) (.params ps'))
      (hbody : Node.Respelt (.expr b) (.expr b')) :
      Node.Respelt (.expr (.lambda ⟨s, ps, b⟩)) (.expr (.lambda ⟨s, ps', b'⟩))
  | choice {s : Span} {t t' b b' o o' : Expr} (htest : Node.Respelt (.expr t) (.expr t'))
      (hbody : Node.Respelt (.expr b) (.expr b')) (horelse : Node.Respelt (.expr o) (.expr o')) :
      Node.Respelt (.expr (.conditional s t b o)) (.expr (.conditional s t' b' o'))
  | call {s : Span} {f f' : Expr} {as as' : List Expr} {ks ks' : List Keyword}
      (hcallee : Node.Respelt (.expr f) (.expr f'))
      (hargs : List.Forall₂ Node.Respelt (as.map .expr) (as'.map .expr))
      (hkeywords : List.Forall₂ Node.Respelt (ks.map .keyword) (ks'.map .keyword)) :
      Node.Respelt (.expr (.call ⟨s, f, as, ks⟩)) (.expr (.call ⟨s, f', as', ks'⟩))
  | comprehension {s : Span} {form : ComprehensionForm} {es es' : List Expr}
      {cs cs' : List Clause} (helements : List.Forall₂ Node.Respelt (es.map .expr) (es'.map .expr))
      (hclauses : List.Forall₂ Node.Respelt (cs.map .clause) (cs'.map .clause)) :
      Node.Respelt (.expr (.comprehension s form es cs)) (.expr (.comprehension s form es' cs'))
  | compound {s : Span} {form : CompoundForm} {es es' : List Expr}
      (h : List.Forall₂ Node.Respelt (es.map .expr) (es'.map .expr)) :
      Node.Respelt (.expr (.compound s form es)) (.expr (.compound s form es'))
  -- parts of expressions
  | keyword {s : Span} {name? : Option String} {v v' : Expr}
      (h : Node.Respelt (.expr v) (.expr v')) :
      Node.Respelt (.keyword ⟨s, name?, v⟩) (.keyword ⟨s, name?, v'⟩)
  | clause {t t' i i' : Expr} {cs cs' : List Expr} (htarget : Node.Respelt (.expr t) (.expr t'))
      (hiterable : Node.Respelt (.expr i) (.expr i'))
      (hconditions : List.Forall₂ Node.Respelt (cs.map .expr) (cs'.map .expr)) :
      Node.Respelt (.clause ⟨t, i, cs⟩) (.clause ⟨t', i', cs'⟩)
  | param {s : Span} {name : String} {t? t?' d? d?' : Option Expr}
      (htype : List.Forall₂ Node.Respelt (t?.toList.map .expr) (t?'.toList.map .expr))
      (hdefault : List.Forall₂ Node.Respelt (d?.toList.map .expr) (d?'.toList.map .expr)) :
      Node.Respelt (.param ⟨s, name, t?, d?⟩) (.param ⟨s, name, t?', d?'⟩)
  | params {po po' pl pl' kw kw' : List Param} {va va' ka ka' : Option Param}
      (hposOnly : List.Forall₂ Node.Respelt (po.map .param) (po'.map .param))
      (hplain : List.Forall₂ Node.Respelt (pl.map .param) (pl'.map .param))
      (hvararg : List.Forall₂ Node.Respelt (va.toList.map .param) (va'.toList.map .param))
      (hkwOnly : List.Forall₂ Node.Respelt (kw.map .param) (kw'.map .param))
      (hkwarg : List.Forall₂ Node.Respelt (ka.toList.map .param) (ka'.toList.map .param)) :
      Node.Respelt (.params ⟨po, pl, va, kw, ka⟩) (.params ⟨po', pl', va', kw', ka'⟩)
  -- patterns
  | value {s : Span} {v v' : Expr} (h : Node.Respelt (.expr v) (.expr v')) :
      Node.Respelt (.pattern (.value s v)) (.pattern (.value s v'))
  | elements {s : Span} {ps ps' : List Pattern}
      (h : List.Forall₂ Node.Respelt (ps.map .pattern) (ps'.map .pattern)) :
      Node.Respelt (.pattern (.sequence s ps)) (.pattern (.sequence s ps'))
  | mapping {s : Span} {ks ks' : List Expr} {ps ps' : List Pattern} {rest? : Option String}
      (hkeys : List.Forall₂ Node.Respelt (ks.map .expr) (ks'.map .expr))
      (hpatterns : List.Forall₂ Node.Respelt (ps.map .pattern) (ps'.map .pattern)) :
      Node.Respelt (.pattern (.mapping s ks ps rest?)) (.pattern (.mapping s ks' ps' rest?))
  | classOf {s : Span} {c c' : Expr} {ps ps' ks ks' : List Pattern}
      (hclass : Node.Respelt (.expr c) (.expr c'))
      (hpatterns : List.Forall₂ Node.Respelt (ps.map .pattern) (ps'.map .pattern))
      (hkeywords : List.Forall₂ Node.Respelt (ks.map .pattern) (ks'.map .pattern)) :
      Node.Respelt (.pattern (.classOf s c ps ks)) (.pattern (.classOf s c' ps' ks'))
  | capture {s : Span} {p? p?' : Option Pattern} {name? : Option String}
      (h : List.Forall₂ Node.Respelt (p?.toList.map .pattern) (p?'.toList.map .pattern)) :
      Node.Respelt (.pattern (.capture s p? name?)) (.pattern (.capture s p?' name?))
  | alternatives {s : Span} {ps ps' : List Pattern}
      (h : List.Forall₂ Node.Respelt (ps.map .pattern) (ps'.map .pattern)) :
      Node.Respelt (.pattern (.alternatives s ps)) (.pattern (.alternatives s ps'))
  -- statements
  | function {s : Span} {isAsync : Bool} {name : String} {ps ps' : Params}
      {body body' : List Stmt} {ds ds' : List Expr} {r? r?' : Option Expr}
      (hparams : Node.Respelt (.params ps) (.params ps'))
      (hbody : List.Forall₂ Node.Respelt (body.map .stmt) (body'.map .stmt))
      (hdecorators : List.Forall₂ Node.Respelt (ds.map .expr) (ds'.map .expr))
      (hreturns : List.Forall₂ Node.Respelt (r?.toList.map .expr) (r?'.toList.map .expr)) :
      Node.Respelt (.stmt (.function ⟨s, isAsync, name, ps, body, ds, r?⟩))
        (.stmt (.function ⟨s, isAsync, name, ps', body', ds', r?'⟩))
  | classDef {s : Span} {name : String} {bs bs' ds ds' : List Expr} {ks ks' : List Keyword}
      {body body' : List Stmt}
      (hbases : List.Forall₂ Node.Respelt (bs.map .expr) (bs'.map .expr))
      (hkeywords : List.Forall₂ Node.Respelt (ks.map .keyword) (ks'.map .keyword))
      (hbody : List.Forall₂ Node.Respelt (body.map .stmt) (body'.map .stmt))
      (hdecorators : List.Forall₂ Node.Respelt (ds.map .expr) (ds'.map .expr)) :
      Node.Respelt (.stmt (.classDef ⟨s, name, bs, ks, body, ds⟩))
        (.stmt (.classDef ⟨s, name, bs', ks', body', ds'⟩))
  | ret {s : Span} {v? v?' : Option Expr}
      (h : List.Forall₂ Node.Respelt (v?.toList.map .expr) (v?'.toList.map .expr)) :
      Node.Respelt (.stmt (.ret s v?)) (.stmt (.ret s v?'))
  | conditional {s : Span} {t t' : Expr} {b b' o o' : List Stmt}
      (htest : Node.Respelt (.expr t) (.expr t'))
      (hbody : List.Forall₂ Node.Respelt (b.map .stmt) (b'.map .stmt))
      (horelse : List.Forall₂ Node.Respelt (o.map .stmt) (o'.map .stmt)) :
      Node.Respelt (.stmt (.conditional s t b o)) (.stmt (.conditional s t' b' o'))
  | branch {s : Span} {e e' : Expr} {cs cs' : List MatchCase}
      (hsubject : Node.Respelt (.expr e) (.expr e'))
      (hcases : List.Forall₂ Node.Respelt (cs.map .case) (cs'.map .case)) :
      Node.Respelt (.stmt (.branch s e cs)) (.stmt (.branch s e' cs'))
  | loop {s : Span} {form : LoopForm} {hs hs' : List Expr} {b b' o o' : List Stmt}
      (hheads : List.Forall₂ Node.Respelt (hs.map .expr) (hs'.map .expr))
      (hbody : List.Forall₂ Node.Respelt (b.map .stmt) (b'.map .stmt))
      (horelse : List.Forall₂ Node.Respelt (o.map .stmt) (o'.map .stmt)) :
      Node.Respelt (.stmt (.loop s form hs b o)) (.stmt (.loop s form hs' b' o'))
  | within {s : Span} {isAsync : Bool} {is is' : List WithItem} {b b' : List Stmt}
      (hitems : List.Forall₂ Node.Respelt (is.map .withItem) (is'.map .withItem))
      (hbody : List.Forall₂ Node.Respelt (b.map .stmt) (b'.map .stmt)) :
      Node.Respelt (.stmt (.within s isAsync is b)) (.stmt (.within s isAsync is' b'))
  | attempt {s : Span} {isStar : Bool} {b b' o o' f f' : List Stmt} {hs hs' : List Handler}
      (hbody : List.Forall₂ Node.Respelt (b.map .stmt) (b'.map .stmt))
      (hhandlers : List.Forall₂ Node.Respelt (hs.map .handler) (hs'.map .handler))
      (horelse : List.Forall₂ Node.Respelt (o.map .stmt) (o'.map .stmt))
      (hfinal : List.Forall₂ Node.Respelt (f.map .stmt) (f'.map .stmt)) :
      Node.Respelt (.stmt (.attempt s isStar b hs o f)) (.stmt (.attempt s isStar b' hs' o' f'))
  | simple {s : Span} {form : SimpleForm} {es es' : List Expr}
      (h : List.Forall₂ Node.Respelt (es.map .expr) (es'.map .expr)) :
      Node.Respelt (.stmt (.simple s form es)) (.stmt (.simple s form es'))
  -- parts of statements, and whole programs
  | withItem {e e' : Expr} {t? t?' : Option Expr} (hcontext : Node.Respelt (.expr e) (.expr e'))
      (htarget : List.Forall₂ Node.Respelt (t?.toList.map .expr) (t?'.toList.map .expr)) :
      Node.Respelt (.withItem ⟨e, t?⟩) (.withItem ⟨e', t?'⟩)
  | handler {s : Span} {t? t?' : Option Expr} {name? : Option String} {body body' : List Stmt}
      (htype : List.Forall₂ Node.Respelt (t?.toList.map .expr) (t?'.toList.map .expr))
      (hbody : List.Forall₂ Node.Respelt (body.map .stmt) (body'.map .stmt)) :
      Node.Respelt (.handler ⟨s, t?, name?, body⟩) (.handler ⟨s, t?', name?, body'⟩)
  | case {p p' : Pattern} {g? g?' : Option Expr} {body body' : List Stmt}
      (hpattern : Node.Respelt (.pattern p) (.pattern p'))
      (hguard : List.Forall₂ Node.Respelt (g?.toList.map .expr) (g?'.toList.map .expr))
      (hbody : List.Forall₂ Node.Respelt (body.map .stmt) (body'.map .stmt)) :
      Node.Respelt (.case ⟨p, g?, body⟩) (.case ⟨p', g?', body'⟩)
  | module {body body' : List Stmt}
      (h : List.Forall₂ Node.Respelt (body.map .stmt) (body'.map .stmt)) :
      Node.Respelt (.module ⟨body⟩) (.module ⟨body'⟩)
  | expression {e e' : Expr} (h : Node.Respelt (.expr e) (.expr e')) :
      Node.Respelt (.expression ⟨e⟩) (.expression ⟨e'⟩)

/-- The second entry is the first with some calls respelt. -/
inductive Entry.Respelt : Entry → Entry → Prop
  | pair {k k' v v' : Expr} (hkey : Node.Respelt (.expr k) (.expr k'))
      (hvalue : Node.Respelt (.expr v) (.expr v')) : Entry.Respelt (.pair k v) (.pair k' v')
  | spread {v v' : Expr} (h : Node.Respelt (.expr v) (.expr v')) :
      Entry.Respelt (.spread v) (.spread v')

end

theorem forall₂_respelt_refl (ns : List Node) : List.Forall₂ Node.Respelt ns ns :=
  List.forall₂_same.2 fun n _ => .same n

theorem Entry.Respelt.refl (e : Entry) : e.Respelt e := by
  cases e with
  | pair k v => exact .pair (.same _) (.same _)
  | spread v => exact .spread (.same _)

theorem forall₂_entry_refl (es : List Entry) : List.Forall₂ Entry.Respelt es es :=
  List.forall₂_same.2 fun e _ => .refl e

/-- The values of respelt entries are respelt. -/
theorem Entry.Respelt.value {e e' : Entry} (h : e.Respelt e') :
    Node.Respelt (.expr e.value) (.expr e'.value) := by
  cases h with
  | pair _ hvalue => exact hvalue
  | spread h => exact h

/-- Respelt entries both have a key or both are spread, and their keys are respelt.
-/
theorem Entry.Respelt.key? {e e' : Entry} (h : e.Respelt e') :
    Option.Rel (fun k k' => Node.Respelt (.expr k) (.expr k')) e.key? e'.key? := by
  cases h with
  | pair hkey _ => exact .some hkey
  | spread _ => exact .none

/-! ## Related options and maps -/

section Options

variable {α β γ δ : Type} {r : α → β → Prop} {o : Option α} {o' : Option β}

theorem optionRel_refl {s : α → α → Prop} (h : ∀ a, s a a) (o : Option α) :
    Option.Rel s o o := by
  cases o with
  | none => exact .none
  | some a => exact .some (h a)

/-- Two steps that keep values related can be taken one after the other. -/
theorem optionRel_bind {s : γ → δ → Prop} {f : α → Option γ} {g : β → Option δ}
    (h : Option.Rel r o o') (hfg : ∀ a b, r a b → Option.Rel s (f a) (g b)) :
    Option.Rel s (o.bind f) (o'.bind g) := by
  cases h with
  | none => exact .none
  | some hab => exact hfg _ _ hab

theorem optionRel_map {s : γ → δ → Prop} {f : α → γ} {g : β → δ} (h : Option.Rel r o o')
    (hfg : ∀ a b, r a b → s (f a) (g b)) : Option.Rel s (o.map f) (o'.map g) := by
  cases h with
  | none => exact .none
  | some hab => exact .some (hfg _ _ hab)

/-- A step that does not tell related values apart gives the same from both. -/
theorem bind_eq_of_rel {f : α → Option γ} {g : β → Option γ} (h : Option.Rel r o o')
    (hfg : ∀ a b, r a b → f a = g b) : o.bind f = o'.bind g := by
  cases h with
  | none => rfl
  | some hab => exact hfg _ _ hab

theorem forall₂_toList (h : Option.Rel r o o') : List.Forall₂ r o.toList o'.toList := by
  cases h with
  | none => exact .nil
  | some hab => exact .cons hab .nil

/-- A reader that does not tell related items apart reads the same from related
lists. -/
theorem filterMap_eq_of_forall₂ {f : α → Option γ} {g : β → Option γ} {xs : List α} {ys : List β}
    (h : List.Forall₂ r xs ys) (hfg : ∀ a b, r a b → f a = g b) :
    xs.filterMap f = ys.filterMap g := by
  induction h with
  | nil => rfl
  | cons hab _ ih => rw [List.filterMap_cons, List.filterMap_cons, ih, hfg _ _ hab]

/-- If related items are both read or both refused, so are related lists. -/
theorem optionRel_mapM {s : γ → δ → Prop} {f : α → Option γ} {g : β → Option δ}
    {xs : List α} {ys : List β} (h : List.Forall₂ r xs ys)
    (hfg : ∀ a b, r a b → Option.Rel s (f a) (g b)) :
    Option.Rel (List.Forall₂ s) (xs.mapM f) (ys.mapM g) := by
  induction h with
  | nil => exact .some .nil
  | cons hab _ ih =>
    rw [List.mapM_cons, List.mapM_cons]
    refine optionRel_bind (hfg _ _ hab) ?_
    intro c d hcd
    exact optionRel_bind ih fun _ _ hrest => .some (.cons hcd hrest)

/-- The first items that are read from related lists are read as related values. -/
theorem optionRel_findSome? {s : γ → δ → Prop} {f : α → Option γ} {g : β → Option δ}
    {xs : List α} {ys : List β} (h : List.Forall₂ r xs ys)
    (hfg : ∀ a b, r a b → Option.Rel s (f a) (g b)) :
    Option.Rel s (xs.findSome? f) (ys.findSome? g) := by
  induction h with
  | nil => exact .none
  | @cons x y xs ys hxy _ ih =>
    have hfirst := hfg x y hxy
    rw [List.findSome?_cons, List.findSome?_cons]
    generalize f x = a? at hfirst ⊢
    generalize g y = b? at hfirst ⊢
    cases hfirst with
    | none => exact ih
    | some hab => exact .some hab

end Options

/-- Two maps with the same keys in the same order and related values. -/
def OrderedMap.Rel {β γ : Type} (r : β → γ → Prop) (m : OrderedMap β) (m' : OrderedMap γ) : Prop :=
  List.Forall₂ (fun p q => p.1 = q.1 ∧ r p.2 q.2) m.entries m'.entries

namespace OrderedMap

variable {β γ δ : Type} {r : β → γ → Prop}

/-- One step of building a map: related values put under one key leave the maps
related. -/
theorem rel_put {k : String} {v : β} {v' : γ} (hv : r v v') {ps : List (String × β)}
    {qs : List (String × γ)} (h : List.Forall₂ (fun p q => p.1 = q.1 ∧ r p.2 q.2) ps qs) :
    List.Forall₂ (fun p q => p.1 = q.1 ∧ r p.2 q.2) (put k v ps) (put k v' qs) := by
  induction h with
  | nil => exact .cons ⟨rfl, hv⟩ .nil
  | @cons p q ps qs hpq hrest ih =>
    rw [put, put, ← hpq.1]
    by_cases hk : p.1 = k
    · rw [if_pos hk, if_pos hk]
      exact .cons ⟨rfl, hv⟩ hrest
    · rw [if_neg hk, if_neg hk]
      exact .cons hpq ih

/-- Maps that are built from related pairs are related. -/
theorem rel_ofList {ps : List (String × β)} {qs : List (String × γ)}
    (h : List.Forall₂ (fun p q => p.1 = q.1 ∧ r p.2 q.2) ps qs) :
    (ofList ps).Rel r (ofList qs) := by
  refine List.rel_foldl (P := OrderedMap.Rel r) ?_ ?_ h
  · intro m m' hm p q hpq
    show List.Forall₂ _ (put p.1 p.2 m.entries) (put q.1 q.2 m'.entries)
    rw [← hpq.1]
    exact rel_put hpq.2 hm
  · exact .nil

/-- Related maps have related values under each key. -/
theorem Rel.find? {m : OrderedMap β} {m' : OrderedMap γ} (h : m.Rel r m') (k : String) :
    Option.Rel r (m.find? k) (m'.find? k) := by
  obtain ⟨entries, distinct⟩ := m
  obtain ⟨entries', distinct'⟩ := m'
  show Option.Rel r (entries.lookup k) (entries'.lookup k)
  replace h : List.Forall₂ _ entries entries' := h
  clear distinct distinct'
  induction h with
  | nil => exact .none
  | @cons p q ps qs hpq _ ih =>
    obtain ⟨key, v⟩ := p
    obtain ⟨key', v'⟩ := q
    obtain ⟨rfl, hv⟩ := hpq
    rw [lookup_cons_eq_ite, lookup_cons_eq_ite]
    by_cases hk : k = key
    · rw [if_pos hk, if_pos hk]
      exact .some hv
    · rw [if_neg hk, if_neg hk]
      exact ih

/-- Maps with related values are filtered alike by functions that agree on
related values. -/
theorem Rel.filterMap_eq {m : OrderedMap β} {m' : OrderedMap γ} (h : m.Rel r m')
    {f : String → β → Option δ} {g : String → γ → Option δ}
    (hfg : ∀ k v v', r v v' → f k v = g k v') : m.filterMap f = m'.filterMap g := by
  rw [filterMap, filterMap, mk.injEq]
  refine filterMap_eq_of_forall₂ h ?_
  rintro ⟨k, v⟩ ⟨_, v'⟩ ⟨rfl, hv⟩
  exact congrArg (Option.map (k, ·)) (hfg k v v' hv)

end OrderedMap

/-! ## Displays -/

section Displays

variable {e e' : Expr} {es es' : List Entry}

/-- No text changes: a literal has no call in it. -/
theorem Expr.text?_eq_of_respelt (h : Node.Respelt (.expr e) (.expr e')) :
    e.text? = e'.text? := by
  cases h <;> rfl

theorem Expr.lastSegment?_eq_of_respelt (h : Node.Respelt (.expr e) (.expr e')) :
    e.lastSegment? = e'.lastSegment? := by
  cases h <;> rfl

/-- A display stays a display, entry by entry. -/
theorem Expr.dict?_respelt (h : Node.Respelt (.expr e) (.expr e')) :
    Option.Rel (List.Forall₂ Entry.Respelt) e.dict? e'.dict? := by
  cases h with
  | same => exact optionRel_refl forall₂_entry_refl _
  | dict h => exact .some h
  | _ => exact .none

/-- The texts of a sequence do not change: none of them is a call. -/
theorem Expr.texts_eq_of_respelt (h : Node.Respelt (.expr e) (.expr e')) :
    e.texts = e'.texts := by
  cases h with
  | sequence h =>
    rw [List.forall₂_map_left_iff, List.forall₂_map_right_iff] at h
    exact filterMap_eq_of_forall₂ h fun _ _ => text?_eq_of_respelt
  | _ => rfl

/-- Respelt entries have the same text for a key, and respelt values. -/
theorem Entry.Respelt.textual? {f f' : Entry} (h : f.Respelt f') :
    Option.Rel (fun p q => p.1 = q.1 ∧ Node.Respelt (.expr p.2) (.expr q.2))
      f.textual? f'.textual? := by
  cases h with
  | spread _ => exact .none
  | @pair k k' v v' hkey hvalue =>
    cases hkey with
    | same =>
      cases k with
      | text s key => exact .some ⟨rfl, hvalue⟩
      | _ => exact .none
    | _ => exact .none

/-- What is read off respelt displays differs in respelt values only. -/
theorem textEntries_respelt (h : List.Forall₂ Entry.Respelt es es') :
    (textEntries es).Rel (fun v v' => Node.Respelt (.expr v) (.expr v')) (textEntries es') :=
  OrderedMap.rel_ofList (List.rel_filterMap (fun _ _ hf => hf.textual?) h)

theorem Expr.textEntries?_respelt (h : Node.Respelt (.expr e) (.expr e')) :
    Option.Rel (OrderedMap.Rel fun v v' => Node.Respelt (.expr v) (.expr v'))
      e.textEntries? e'.textEntries? :=
  optionRel_map (Expr.dict?_respelt h) fun _ _ hes => textEntries_respelt hes

/-- Respelt `on` displays declare the same targets. -/
theorem MessageTargets.ofDisplay_eq_of_respelt (h : List.Forall₂ Entry.Respelt es es') :
    MessageTargets.ofDisplay es = MessageTargets.ofDisplay es' := by
  refine (textEntries_respelt h).filterMap_eq ?_
  intro _ targets targets' htargets
  rw [Expr.texts_eq_of_respelt htargets]

theorem MessageTargets.ofState?_eq_of_respelt (h : Node.Respelt (.expr e) (.expr e')) :
    MessageTargets.ofState? e = MessageTargets.ofState? e' := by
  refine bind_eq_of_rel (Expr.textEntries?_respelt h) ?_
  intro entries entries' hentries
  refine bind_eq_of_rel (hentries.find? "on") ?_
  intro on on' hon
  refine bind_eq_of_rel (Expr.dict?_respelt hon) ?_
  intro es es' hes
  rw [MessageTargets.ofDisplay_eq_of_respelt hes]

/-- Respelt `config` displays declare the same transitions. -/
theorem TransitionTable.ofDisplay_eq_of_respelt (h : List.Forall₂ Entry.Respelt es es') :
    TransitionTable.ofDisplay es = TransitionTable.ofDisplay es' := by
  refine (textEntries_respelt h).filterMap_eq ?_
  intro _ state state' hstate
  exact MessageTargets.ofState?_eq_of_respelt hstate

end Displays

/-! ## Parts of a respelt node -/

section Parameters

variable {p p' : Param} {l l' : List Param} {ps ps' : Params}

/-- A parameter keeps its name; its default is respelt. -/
theorem Node.Respelt.param_rel (h : Node.Respelt (.param p) (.param p')) :
    p.name = p'.name ∧
      Option.Rel (fun d d' => Node.Respelt (.expr d) (.expr d')) p.default? p'.default? := by
  cases h with
  | same => exact ⟨rfl, optionRel_refl (fun d => .same (.expr d)) _⟩
  | @param _ _ _ _ d? d?' _ hdefault =>
    refine ⟨rfl, ?_⟩
    cases d? <;> cases d?' <;> simp at hdefault
    · exact .none
    · exact .some hdefault

theorem map_name_eq_of_respelt (h : List.Forall₂ Node.Respelt (l.map .param) (l'.map .param)) :
    l.map Param.name = l'.map Param.name := by
  rw [List.forall₂_map_left_iff, List.forall₂_map_right_iff] at h
  induction h with
  | nil => rfl
  | cons hp _ ih => rw [List.map_cons, List.map_cons, hp.param_rel.1, ih]

/-- The defaults of respelt parameters are respelt, one by one. -/
theorem filterMap_default?_respelt
    (h : List.Forall₂ Node.Respelt (l.map .param) (l'.map .param)) :
    List.Forall₂ Node.Respelt ((l.filterMap Param.default?).map .expr)
      ((l'.filterMap Param.default?).map .expr) := by
  rw [List.forall₂_map_left_iff, List.forall₂_map_right_iff] at h ⊢
  exact List.rel_filterMap (fun _ _ hp => hp.param_rel.2) h

/-- Respelt parameter lists bind the same names. -/
theorem Node.Respelt.names_eq (h : Node.Respelt (.params ps) (.params ps')) :
    ps.names = ps'.names := by
  cases h with
  | same => rfl
  | params hposOnly hplain hvararg hkwOnly hkwarg =>
    simp only [Params.names, Params.all, List.map_append, map_name_eq_of_respelt hposOnly,
      map_name_eq_of_respelt hplain, map_name_eq_of_respelt hkwOnly,
      map_name_eq_of_respelt hvararg, map_name_eq_of_respelt hkwarg]

theorem Node.Respelt.defaults (h : Node.Respelt (.params ps) (.params ps')) :
    List.Forall₂ Node.Respelt (ps.defaults.map .expr) (ps'.defaults.map .expr) := by
  cases h with
  | same => exact forall₂_respelt_refl _
  | params hposOnly hplain _ _ _ =>
    refine filterMap_default?_respelt ?_
    rw [List.map_append, List.map_append]
    exact List.rel_append hposOnly hplain

theorem Node.Respelt.kwDefaults (h : Node.Respelt (.params ps) (.params ps')) :
    List.Forall₂ Node.Respelt (ps.kwDefaults.map .expr) (ps'.kwDefaults.map .expr) := by
  cases h with
  | same => exact forall₂_respelt_refl _
  | params _ _ _ hkwOnly _ => exact filterMap_default?_respelt hkwOnly

end Parameters

theorem keys_respelt {es es' : List Entry} (h : List.Forall₂ Entry.Respelt es es') :
    List.Forall₂ Node.Respelt ((es.filterMap Entry.key?).map .expr)
      ((es'.filterMap Entry.key?).map .expr) := by
  rw [List.forall₂_map_left_iff, List.forall₂_map_right_iff]
  exact List.rel_filterMap (fun _ _ he => he.key?) h

theorem values_respelt {es es' : List Entry} (h : List.Forall₂ Entry.Respelt es es') :
    List.Forall₂ Node.Respelt (es.map fun e => .expr e.value) (es'.map fun e => .expr e.value) := by
  rw [List.forall₂_map_left_iff, List.forall₂_map_right_iff]
  exact h.imp fun _ _ he => he.value

/-- A node has respelt children, or it is a call that was rewritten. -/
theorem Node.Respelt.children_or {n n' : Node} (h : n.Respelt n') :
    List.Forall₂ Node.Respelt n.children n'.children ∨ ∃ c span es, c.args = [] ∧
      List.Forall₂ Keyword.SpeltAs c.keywords es ∧ n = .expr (.call c) ∧
      n' = .expr (.call (c.withDisplay span es)) := by
  cases h with
  | display hargs hkeywords => exact .inr ⟨_, _, _, hargs, hkeywords, rfl, rfl⟩
  | same => exact .inl (forall₂_respelt_refl _)
  | member h | keyword h | value h | expression h => exact .inl (.cons h .nil)
  | sequence h | compound h | elements h | capture h | alternatives h | ret h | simple h
  | module h => exact .inl h
  | dict h => exact .inl (List.rel_append (keys_respelt h) (values_respelt h))
  | lambda hparams hbody => exact .inl (.cons hparams (.cons hbody .nil))
  | choice htest hbody horelse => exact .inl (.cons htest (.cons hbody (.cons horelse .nil)))
  | call hcallee hargs hkeywords =>
    exact .inl (List.rel_append (.cons hcallee hargs) hkeywords)
  | comprehension helements hclauses => exact .inl (List.rel_append helements hclauses)
  | clause htarget hiterable hconditions =>
    exact .inl (.cons htarget (.cons hiterable hconditions))
  | param htype _ => exact .inl htype
  | params hposOnly hplain hvararg hkwOnly hkwarg =>
    have h := Node.Respelt.params hposOnly hplain hvararg hkwOnly hkwarg
    have hparams := List.rel_append (List.rel_append (List.rel_append hposOnly hplain) hvararg)
      hkwOnly
    exact .inl (List.rel_append (List.rel_append (List.rel_append hparams h.kwDefaults) hkwarg)
      h.defaults)
  | mapping hkeys hpatterns => exact .inl (List.rel_append hkeys hpatterns)
  | classOf hclass hpatterns hkeywords =>
    exact .inl (List.rel_append (.cons hclass hpatterns) hkeywords)
  | function hparams hbody hdecorators hreturns =>
    exact .inl (List.rel_append (List.rel_append (.cons hparams hbody) hdecorators) hreturns)
  | classDef hbases hkeywords hbody hdecorators =>
    exact .inl (List.rel_append (List.rel_append (List.rel_append hbases hkeywords) hbody)
      hdecorators)
  | conditional htest hbody horelse => exact .inl (List.rel_append (.cons htest hbody) horelse)
  | branch hsubject hcases => exact .inl (.cons hsubject hcases)
  | loop hheads hbody horelse =>
    exact .inl (List.rel_append (List.rel_append hheads hbody) horelse)
  | within hitems hbody => exact .inl (List.rel_append hitems hbody)
  | attempt hbody hhandlers horelse hfinal =>
    exact .inl (List.rel_append (List.rel_append (List.rel_append hbody hhandlers) horelse)
      hfinal)
  | withItem hcontext htarget => exact .inl (.cons hcontext htarget)
  | handler htype hbody => exact .inl (List.rel_append htype hbody)
  | case hpattern hguard hbody => exact .inl (List.rel_append (.cons hpattern hguard) hbody)

end StateCoverage
