import StateCoverage.Source.Display

/-!
# Declared transitions

The literal `config` of a machine maps each state to the messages it reacts to
and each message to its target states:

    {"idle": {"on": {"start": ["active", "idle"]}}}

Only string-literal targets count; a state without a readable `on` display and
a message without targets are left out.
-/

namespace StateCoverage

/-- Declared targets by message. -/
abbrev MessageTargets := OrderedMap (List String)

/-- Declared targets by state and message. -/
abbrev TransitionTable := OrderedMap MessageTargets

/-- The targets that an `on` display declares. -/
def MessageTargets.ofDisplay (on : List Entry) : MessageTargets :=
  (textEntries on).filterMap fun _ targets =>
    if targets.texts.isEmpty then none else some targets.texts

/-- The targets of one state, if its value has a readable `on` display. -/
def MessageTargets.ofState? (state : Expr) : Option MessageTargets := do
  let entries ← state.textEntries?
  let on ← entries.find? "on"
  return .ofDisplay (← on.dict?)

/-- The table that a `config` display declares. -/
def TransitionTable.ofDisplay (config : List Entry) : TransitionTable :=
  (textEntries config).filterMap fun _ state => MessageTargets.ofState? state

/-- The table that an expression declares as a `config`; one that is no dict
display declares nothing. -/
def TransitionTable.ofExpr (config : Expr) : TransitionTable :=
  match config.dict? with
  | some entries => .ofDisplay entries
  | none => .empty

end StateCoverage
