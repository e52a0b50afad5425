import StateCoverage.Analysis
import StateCoverage.Proofs.Transition

/-!
# The gaps of a site are exactly its uncovered transitions

`Site.Uncovered` says, in terms of the two displays of a construction site
alone, which transitions deserve a diagnostic.  The check reports each of them
once, reports nothing else, and lists them by the places of their state and
message in `commands`.

* `mem_commandsToCheck_iff` — the commands that are looked at.
* `pairwise_before_commandsToCheck` — the order in which they are looked at.
* `Command.reports_of_gap?`, `Command.exists_gap?` — when one of them has a gap.
* `analyze_exact` — the three together, for a whole tree.
-/

namespace StateCoverage

/-! ## Uncovered transitions -/

/-- In the `commands` of the site, the last entry for `state` is a display
whose last entry for `message` is `factory`. -/
def Site.Supplies (site : Site) (state message : String) (factory : Expr) : Prop :=
  ∃ factories, EffectiveDisplay site.commands state factories ∧
    EffectiveEntry factories message factory

/-- The transition declares `declared`, at least two of them, and its thunk
returns some states, but fewer than these. -/
structure Site.Uncovered (site : Site) (state message : String) (declared : List String)
    (thunk : Callable) : Prop where
  declares : Declares site.config state message declared
  supplies : ∃ factory, site.Supplies state message factory ∧
    executeThunk? (.expr factory) site.scopes = some thunk
  several : 2 ≤ declared.length
  some_observed : 1 ≤ (returnedStates thunk).length
  fewer_observed : (returnedStates thunk).length < declared.length

/-- The diagnostic points at the stretch of source: its line and column are those
where it starts, its end those where it stops. -/
structure Diagnostic.PointsAt (d : Diagnostic) (span : Span) : Prop where
  line_eq : d.location.line = span.start.line
  column_eq : d.location.column = span.start.column
  endLine_eq : d.location.endLine? = some (span.stop.line : Int)
  endColumn_eq : d.location.endColumn? = some (span.stop.column : Int)

theorem Diagnostic.pointsAt_of_location_eq {d : Diagnostic} {span : Span}
    (h : d.location = .ofSpan span) : d.PointsAt span := by
  constructor <;> rw [h] <;> rfl

/-- The diagnostic says what there is to say about an uncovered transition. -/
structure Diagnostic.Reports (d : Diagnostic) (state message : String) (declared : List String)
    (thunk : Callable) (path? : Option String) (severity : Severity) : Prop where
  state_eq : d.state = state
  message_eq : d.message = message
  declared_eq : d.declared = declared
  observed_eq : d.observed = returnedStates thunk
  points_at : d.PointsAt thunk.span
  kind_iff : d.kind = .alwaysSameState ↔ (returnedStates thunk).length = 1
  path_eq : d.path? = path?
  severity_eq : d.severity = severity

/-- One transition stands before another in `commands`: its state does, or the
state is the same and its message does. -/
def Site.Before (site : Site) (p q : String × String) : Prop :=
  keyPlace site.commands p.1 < keyPlace site.commands q.1 ∨
    p.1 = q.1 ∧ ∃ factories, EffectiveDisplay site.commands p.1 factories ∧
      keyPlace factories p.2 < keyPlace factories q.2

theorem Site.Before.ne {site : Site} {p q : String × String} (h : site.Before p q) : p ≠ q := by
  rintro rfl
  rcases h with h | ⟨-, factories, -, h⟩
  · exact Nat.lt_irrefl _ h
  · exact Nat.lt_irrefl _ h

/-! ## The commands that are looked at -/

theorem Command.ofTargets?_eq_some_iff {state message : String} {targets : MessageTargets}
    {factory : Expr} {c : Command} :
    Command.ofTargets? state targets message factory = some c ↔
      ∃ declared, targets.find? message = some declared ∧ 2 ≤ declared.length ∧
        c = ⟨state, message, declared, factory⟩ := by
  rw [Command.ofTargets?]
  cases targets.find? message with
  | none => simp
  | some declared =>
    by_cases several : 2 ≤ declared.length
    · simp [leastTargets, several, eq_comm]
    · simp [leastTargets, several]

theorem mem_commandsOf_iff {site : Site} {state : String} {e : Expr} {c : Command} :
    c ∈ site.commandsOf state e ↔ ∃ targets span factories,
      (TransitionTable.ofDisplay site.config).find? state = some targets ∧
      e = .dict span factories ∧ c.state = state ∧ targets.find? c.message = some c.declared ∧
      2 ≤ c.declared.length ∧ EffectiveEntry factories c.message c.factory := by
  constructor
  · intro hc
    unfold Site.commandsOf at hc
    split at hc
    · rename_i targets entries htable hentries
      obtain ⟨span, factories, rfl, rfl⟩ := Expr.textEntries?_eq_some_iff.1 hentries
      obtain ⟨⟨message, factory⟩, hmem, hcommand⟩ := List.mem_filterMap.1 hc
      obtain ⟨declared, hdeclared, several, rfl⟩ := Command.ofTargets?_eq_some_iff.1 hcommand
      exact ⟨targets, span, factories, htable, rfl, rfl, hdeclared, several,
        find?_textEntries_iff.1 (OrderedMap.mem_entries_iff.1 hmem)⟩
    · simp at hc
  · rintro ⟨targets, span, factories, htable, rfl, rfl, hdeclared, several, hfactory⟩
    rw [Site.commandsOf, htable]
    refine List.mem_filterMap.2 ⟨(c.message, c.factory), ?_, ?_⟩
    · exact OrderedMap.mem_entries_iff.2 (find?_textEntries_iff.2 hfactory)
    · exact Command.ofTargets?_eq_some_iff.2 ⟨c.declared, hdeclared, several, rfl⟩

/-- A command is looked at exactly when `commands` supplies it for a transition
that declares two targets or more. -/
theorem mem_commandsToCheck_iff {site : Site} {c : Command} :
    c ∈ site.commandsToCheck ↔ Declares site.config c.state c.message c.declared ∧
      site.Supplies c.state c.message c.factory ∧ 2 ≤ c.declared.length := by
  rw [Site.commandsToCheck, List.mem_flatMap]
  constructor
  · rintro ⟨⟨state, e⟩, hmem, hc⟩
    obtain ⟨targets, span, factories, htable, rfl, rfl, hdeclared, several, hfactory⟩ :=
      mem_commandsOf_iff.1 hc
    have hstate := find?_textEntries_iff.1 (OrderedMap.mem_entries_iff.1 hmem)
    exact ⟨(find?_find?_table_iff.1 ⟨targets, htable, hdeclared⟩).2,
      ⟨factories, ⟨span, hstate⟩, hfactory⟩, several⟩
  · rintro ⟨hdeclares, ⟨factories, ⟨span, hstate⟩, hfactory⟩, several⟩
    have hne : c.declared ≠ [] := fun h => by simp [h] at several
    obtain ⟨targets, htable, hdeclared⟩ := find?_find?_table_iff.2 ⟨hne, hdeclares⟩
    exact ⟨(c.state, .dict span factories),
      OrderedMap.mem_entries_iff.2 (find?_textEntries_iff.2 hstate),
      mem_commandsOf_iff.2
        ⟨targets, span, factories, htable, rfl, rfl, hdeclared, several, hfactory⟩⟩

theorem pairwise_before_commandsOf {site : Site} {state : String} {e : Expr}
    (h : EffectiveEntry site.commands state e) :
    (site.commandsOf state e).Pairwise fun c c' =>
      site.Before (c.state, c.message) (c'.state, c'.message) := by
  unfold Site.commandsOf
  split
  · rename_i targets entries htable hentries
    obtain ⟨span, factories, rfl, rfl⟩ := Expr.textEntries?_eq_some_iff.1 hentries
    rw [List.pairwise_filterMap]
    refine (pairwise_keyPlace_textEntries factories).imp ?_
    rintro ⟨message, factory⟩ ⟨message', factory'⟩ hplace c hc c' hc'
    obtain ⟨declared, -, -, rfl⟩ := Command.ofTargets?_eq_some_iff.1 hc
    obtain ⟨declared', -, -, rfl⟩ := Command.ofTargets?_eq_some_iff.1 hc'
    exact .inr ⟨rfl, factories, ⟨span, h⟩, hplace⟩
  · exact List.Pairwise.nil

/-- Commands are looked at in the order of `commands`. -/
theorem pairwise_before_commandsToCheck (site : Site) :
    site.commandsToCheck.Pairwise fun c c' =>
      site.Before (c.state, c.message) (c'.state, c'.message) := by
  rw [Site.commandsToCheck, List.pairwise_flatMap]
  refine ⟨?_, ?_⟩
  · rintro ⟨state, e⟩ hmem
    exact pairwise_before_commandsOf
      (find?_textEntries_iff.1 (OrderedMap.mem_entries_iff.1 hmem))
  · refine (pairwise_keyPlace_textEntries site.commands).imp ?_
    rintro ⟨state, e⟩ ⟨state', e'⟩ hplace c hc c' hc'
    obtain ⟨-, -, -, -, -, rfl, -⟩ := mem_commandsOf_iff.1 hc
    obtain ⟨-, -, -, -, -, rfl, -⟩ := mem_commandsOf_iff.1 hc'
    exact .inl hplace

/-! ## The gap of a command -/

theorem Command.gap?_eq_bind (c : Command) (scopes : List Scope) (path? : Option String)
    (severity : Severity) :
    c.gap? scopes path? severity = (c.thunk? scopes).bind fun thunk =>
      coverageGap? c.state c.message c.declared (returnedStates thunk) (.ofSpan thunk.span)
        path? severity :=
  rfl

/-- What is reported of a command is the gap of its thunk. -/
theorem Command.reports_of_gap? {c : Command} {scopes : List Scope} {path? : Option String}
    {severity : Severity} {d : Diagnostic} (h : c.gap? scopes path? severity = some d) :
    ∃ thunk, c.thunk? scopes = some thunk ∧ 1 ≤ (returnedStates thunk).length ∧
      (returnedStates thunk).length < c.declared.length ∧
      d.Reports c.state c.message c.declared thunk path? severity := by
  rw [Command.gap?_eq_bind] at h
  obtain ⟨thunk, hthunk, hgap⟩ := Option.bind_eq_some_iff.1 h
  unfold coverageGap? at hgap
  split at hgap
  · rename_i hlen
    obtain rfl := Option.some.inj hgap
    refine ⟨thunk, hthunk, List.length_pos_iff.2 hlen.1, hlen.2, ?_⟩
    refine ⟨rfl, rfl, rfl, rfl, Diagnostic.pointsAt_of_location_eq rfl, ?_, rfl, rfl⟩
    by_cases hone : (returnedStates thunk).length = 1 <;> simp [hone]
  · exact absurd hgap (by simp)

/-- A command whose thunk returns some states, but fewer than declared, is
reported. -/
theorem Command.exists_gap? {c : Command} {scopes : List Scope} {thunk : Callable}
    (hthunk : c.thunk? scopes = some thunk) (hsome : 1 ≤ (returnedStates thunk).length)
    (hfewer : (returnedStates thunk).length < c.declared.length) (path? : Option String)
    (severity : Severity) : ∃ d, c.gap? scopes path? severity = some d := by
  have hlen : returnedStates thunk ≠ [] ∧ (returnedStates thunk).length < c.declared.length :=
    ⟨List.length_pos_iff.1 hsome, hfewer⟩
  rw [Command.gap?_eq_bind, hthunk, Option.bind_some, coverageGap?, dif_pos hlen]
  exact ⟨_, rfl⟩

/-! ## The gaps of a site -/

theorem mem_gaps_iff {site : Site} {path? : Option String} {severity : Severity}
    {d : Diagnostic} : d ∈ site.gaps path? severity ↔
      ∃ c ∈ site.commandsToCheck, c.gap? site.scopes path? severity = some d := by
  rw [Site.gaps, List.mem_filterMap]

/-- Whatever is reported at a site is an uncovered transition of it. -/
theorem uncovered_of_mem_gaps {site : Site} {path? : Option String} {severity : Severity}
    {d : Diagnostic} (h : d ∈ site.gaps path? severity) :
    ∃ thunk, site.Uncovered d.state d.message d.declared thunk ∧
      d.Reports d.state d.message d.declared thunk path? severity := by
  obtain ⟨c, hc, hgap⟩ := mem_gaps_iff.1 h
  obtain ⟨thunk, hthunk, hsome, hfewer, hd⟩ := Command.reports_of_gap? hgap
  obtain ⟨hdeclares, hsupplies, several⟩ := mem_commandsToCheck_iff.1 hc
  rw [hd.state_eq, hd.message_eq, hd.declared_eq]
  exact ⟨thunk, ⟨hdeclares, ⟨c.factory, hsupplies, hthunk⟩, several, hsome, hfewer⟩, hd⟩

/-- Every uncovered transition of a site is reported. -/
theorem exists_mem_gaps_of_uncovered {site : Site} {state message : String}
    {declared : List String} {thunk : Callable}
    (h : site.Uncovered state message declared thunk) (path? : Option String)
    (severity : Severity) :
    ∃ d ∈ site.gaps path? severity, d.Reports state message declared thunk path? severity := by
  obtain ⟨factory, hsupplies, hthunk⟩ := h.supplies
  obtain ⟨d, hgap⟩ := Command.exists_gap? (c := ⟨state, message, declared, factory⟩) hthunk
    h.some_observed h.fewer_observed path? severity
  obtain ⟨thunk', hthunk', -, -, hd⟩ := Command.reports_of_gap? hgap
  obtain rfl : thunk = thunk' := Option.some.inj (hthunk.symm.trans hthunk')
  exact ⟨d, mem_gaps_iff.2 ⟨_, mem_commandsToCheck_iff.2 ⟨h.declares, hsupplies, h.several⟩,
    hgap⟩, hd⟩

/-- Gaps are reported in the order of `commands`, so none is reported twice. -/
theorem pairwise_before_gaps (site : Site) (path? : Option String) (severity : Severity) :
    (site.gaps path? severity).Pairwise fun d e =>
      site.Before (d.state, d.message) (e.state, e.message) := by
  rw [Site.gaps, List.pairwise_filterMap]
  refine (pairwise_before_commandsToCheck site).imp ?_
  intro c c' hbefore d hgap e hgap'
  obtain ⟨thunk, -, -, -, hd⟩ := Command.reports_of_gap? hgap
  obtain ⟨thunk', -, -, -, he⟩ := Command.reports_of_gap? hgap'
  rwa [hd.state_eq, hd.message_eq, he.state_eq, he.message_eq]

theorem filter_eq_singleton_of_pairwise_ne {α β : Type*} [DecidableEq β] {f : α → β} {a : α} :
    ∀ {l : List α}, l.Pairwise (fun x y => f x ≠ f y) → a ∈ l →
      l.filter (fun x => f x = f a) = [a]
  | [], _, h => by simp at h
  | b :: l, hl, h => by
    rw [List.pairwise_cons] at hl
    rw [List.filter_cons]
    rcases List.mem_cons.1 h with rfl | h
    · have rest : l.filter (fun x => f x = f a) = [] := by
        rw [List.filter_eq_nil_iff]
        intro x hx
        simpa using (hl.1 x hx).symm
      simp [rest]
    · rw [if_neg (by simpa using hl.1 a h)]
      exact filter_eq_singleton_of_pairwise_ne hl.2 h

/-- The diagnostics for one transition among others. -/
def forTransition (state message : String) (ds : List Diagnostic) : List Diagnostic :=
  ds.filter fun d => (d.state, d.message) = (state, message)

/-! ## A machine with one transition

A module that builds one machine, with the transition `go` from `idle` to `a` or
`b`; its thunk is a lambda that returns a value of choice. -/

/-- The entries of a dict display with the given string-literal keys. -/
def displayOf (entries : List (String × Expr)) : List Entry :=
  entries.map fun e => .pair (.text default e.1) e.2

/-- `{"id": s}`. -/
def stateDisplay (s : String) : Expr := .dict default (displayOf [("id", .text default s)])

/-- Where the thunk stands in the source. -/
def thunkSpan : Span := ⟨⟨7, 30⟩, ⟨7, 49⟩⟩

/-- `lambda: value`. -/
def loneThunk (value : Expr) : Callable := .lambda ⟨thunkSpan, .empty, value⟩

/-- `lambda: {"execute": lambda: value}`. -/
def loneFactory (value : Expr) : Expr :=
  .lambda ⟨default, .empty, .dict default (displayOf
    [("execute", .lambda ⟨thunkSpan, .empty, value⟩)])⟩

/-- `{"idle": {"on": {"go": ["a", "b"]}}}`. -/
def loneConfig : List Entry :=
  displayOf [("idle", .dict default (displayOf [("on", .dict default (displayOf [("go",
    .sequence default .list [.text default "a", .text default "b"])]))]))]

/-- `{"idle": {"go": factory}}`. -/
def loneCommands (factory : Expr) : List Entry :=
  displayOf [("idle", .dict default (displayOf [("go", factory)]))]

/-- The call that builds the machine with the given factory. -/
def loneCall (factory : Expr) : Call where
  span := default
  callee := .name default "StateMachine" .load
  args := [.dict default (displayOf [("config", .dict default loneConfig),
    ("commands", .dict default (loneCommands factory))])]
  keywords := []

/-- The module that consists of the call, with a factory for `value`. -/
def loneMachine (value : Expr) : Node :=
  .module ⟨[.simple default .expression [.call (loneCall (loneFactory value))]]⟩

/-- The site of the call. -/
def loneSite (value : Expr) : Site where
  call := loneCall (loneFactory value)
  config := loneConfig
  commands := loneCommands (loneFactory value)
  scopes := (loneMachine value).opens?.toList

theorem loneSite_mem_sites (value : Expr) : loneSite value ∈ sites (loneMachine value) := by
  refine List.mem_filterMap.2 ⟨((loneSite value).call, (loneMachine value).opens?.toList), ?_, rfl⟩
  rw [loneMachine, Node.constructorCalls_eq]
  refine List.mem_append_right _ (List.mem_flatMap.2 ⟨_, List.mem_cons_self .., ?_⟩)
  rw [Node.constructorCalls_eq]
  refine List.mem_append_right _ (List.mem_flatMap.2 ⟨_, List.mem_cons_self .., ?_⟩)
  rw [Node.constructorCalls_eq]
  exact List.mem_append_left _ (List.mem_singleton.2 rfl)

theorem loneSite_uncovered {value : Expr} (h : (returnedStates (loneThunk value)).length = 1) :
    (loneSite value).Uncovered "idle" "go" ["a", "b"] (loneThunk value) where
  declares := ⟨_, _, default, .list, _, ⟨default, find?_textEntries_iff.1 rfl⟩,
    ⟨default, find?_textEntries_iff.1 rfl⟩, find?_textEntries_iff.1 rfl, rfl⟩
  supplies := ⟨loneFactory value, ⟨_, ⟨default, find?_textEntries_iff.1 rfl⟩,
    find?_textEntries_iff.1 rfl⟩, rfl⟩
  several := Nat.le_refl 2
  some_observed := Nat.le_of_eq h.symm
  fewer_observed := by
    rw [h]
    exact Nat.lt_succ_self 1

/-! ## The gaps of a tree -/

/-- **The check is exact.**  The diagnostics of a tree are those of its sites in
turn.  At a site there is one for each uncovered transition and none for any
other transition, and they stand in the order of the site's `commands`. -/
theorem analyze_exact (settings : Settings) (enabled : settings.enabled = true)
    (path? : Option String) (root : Node) :
    analyze settings path? root =
        (sites root).flatMap (fun site => site.gaps path? settings.severity) ∧
      ∀ site ∈ sites root,
        (∀ state message declared thunk, site.Uncovered state message declared thunk →
          ∃ d, forTransition state message (site.gaps path? settings.severity) = [d] ∧
            d.Reports state message declared thunk path? settings.severity) ∧
        (∀ state message, (¬∃ declared thunk, site.Uncovered state message declared thunk) →
          forTransition state message (site.gaps path? settings.severity) = []) ∧
        (site.gaps path? settings.severity).Pairwise fun d e =>
          site.Before (d.state, d.message) (e.state, e.message) := by
  refine ⟨if_pos enabled, ?_⟩
  intro site _
  refine ⟨?_, ?_, pairwise_before_gaps site path? settings.severity⟩
  · intro state message declared thunk h
    obtain ⟨d, hmem, hd⟩ := exists_mem_gaps_of_uncovered h path? settings.severity
    refine ⟨d, ?_, hd⟩
    have distinct := (pairwise_before_gaps site path? settings.severity).imp Site.Before.ne
    rw [forTransition, ← hd.state_eq, ← hd.message_eq]
    exact filter_eq_singleton_of_pairwise_ne (f := fun d => (d.state, d.message)) distinct hmem
  · intro state message h
    rw [forTransition, List.filter_eq_nil_iff]
    intro d hmem hpair
    obtain ⟨rfl, rfl⟩ := Prod.mk.inj (of_decide_eq_true hpair)
    obtain ⟨thunk, huncovered, -⟩ := uncovered_of_mem_gaps hmem
    exact h ⟨d.declared, thunk, huncovered⟩

/-- The lone machine whose thunk always returns `a` has one diagnostic for its
transition, at the line and column of the thunk, and none for a transition that
it does not have. -/
theorem analyze_exact_loneMachine :
    Settings.standard.enabled = true ∧
      (∃ d, forTransition "idle" "go" ((loneSite (stateDisplay "a")).gaps none .error) = [d] ∧
        d.Reports "idle" "go" ["a", "b"] (loneThunk (stateDisplay "a")) none .error ∧
        d.location.line = 7 ∧ d.location.column = 30) ∧
      forTransition "idle" "stop" ((loneSite (stateDisplay "a")).gaps none .error) = [] := by
  obtain ⟨reported, silent, -⟩ :=
    (analyze_exact .standard rfl none (loneMachine (stateDisplay "a"))).2 _
      (loneSite_mem_sites (stateDisplay "a"))
  obtain ⟨d, hd, hreports⟩ := reported _ _ _ _ (loneSite_uncovered (by decide +kernel))
  refine ⟨rfl, ⟨d, hd, hreports, hreports.points_at.line_eq, hreports.points_at.column_eq⟩,
    silent _ _ ?_⟩
  rintro ⟨declared, thunk, h⟩
  obtain ⟨factory, ⟨factories, ⟨span, hstate⟩, hmessage⟩, -⟩ := h.supplies
  obtain ⟨-, rfl⟩ := Expr.dict.inj (Option.some.inj (find?_textEntries_iff.2 hstate))
  have missing : (textEntries (displayOf [("go", loneFactory (stateDisplay "a"))])).find? "stop"
      = none := rfl
  exact absurd (missing.symm.trans (find?_textEntries_iff.2 hmessage)) (by simp)

end StateCoverage
