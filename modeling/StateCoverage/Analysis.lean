import StateCoverage.Diagnostic
import StateCoverage.Settings
import StateCoverage.Site
import StateCoverage.Thunk
import StateCoverage.Transition

/-!
# The coverage check

For every construction site of a tree, every command of a transition with two
or more declared targets is compared with the states that its thunk returns.

* `Site.commandsToCheck` — the transitions of a site that can have a gap.
* `analyze` — the gaps of a tree, in the order of sites, states and messages.
* `traceOf` — what the check passed over on the way.
-/

namespace StateCoverage

/-- The least number of declared targets that is worth a check. -/
def leastTargets : Nat := 2

/-- A command whose transition declares several targets. -/
structure Command where
  state : String
  message : String
  declared : List String
  factory : Expr

/-- The command of a state for a message, if `targets` declares several targets
for the message. -/
def Command.ofTargets? (state : String) (targets : MessageTargets) (message : String)
    (factory : Expr) : Option Command :=
  match targets.find? message with
  | some declared =>
      if leastTargets ≤ declared.length then some ⟨state, message, declared, factory⟩ else none
  | none => none

/-- The commands of one state whose transitions declare several targets;
`commands` is what the `commands` display has for the state. -/
def Site.commandsOf (s : Site) (state : String) (commands : Expr) : List Command :=
  match (TransitionTable.ofDisplay s.config).find? state, commands.textEntries? with
  | some targets, some factories =>
      factories.entries.filterMap fun (message, factory) =>
        Command.ofTargets? state targets message factory
  | _, _ => []

/-- The commands of a site whose transitions declare several targets, by state
and message in the order of the `commands` display. -/
def Site.commandsToCheck (s : Site) : List Command :=
  (textEntries s.commands).entries.flatMap fun (state, commands) => s.commandsOf state commands

/-- The thunk of a command at a site. -/
def Command.thunk? (c : Command) (scopes : List Scope) : Option Callable :=
  executeThunk? (.expr c.factory) scopes

/-- The gap of a command, if it has one. -/
def Command.gap? (c : Command) (scopes : List Scope) (path? : Option String)
    (severity : Severity) : Option Diagnostic := do
  let thunk ← c.thunk? scopes
  coverageGap? c.state c.message c.declared (returnedStates thunk)
    (.ofSpan thunk.span) path? severity

/-- The gaps of a site. -/
def Site.gaps (s : Site) (path? : Option String) (severity : Severity) : List Diagnostic :=
  s.commandsToCheck.filterMap fun c => c.gap? s.scopes path? severity

/-- The gaps of a tree; a disabled check finds none. -/
def analyze (settings : Settings) (path? : Option String) (root : Node) : List Diagnostic :=
  if settings.enabled then
    (sites root).flatMap fun s => s.gaps path? settings.severity
  else []

/-- Something worth a line of debug output. -/
inductive TraceEvent where
  /-- A constructor call whose structures cannot be read. -/
  | skippedCall (line : Nat)
  /-- A command without a thunk. -/
  | noThunk (path : String) (line : Nat) (state message : String)
  /-- The number of gaps of a file. -/
  | gapCount (path : String) (count : Nat)
  deriving Repr, DecidableEq

/-- The commands of a site without a thunk. -/
def Site.thunkless (s : Site) : List Command :=
  s.commandsToCheck.filter fun c => (c.thunk? s.scopes).isNone

/-- What a check of a tree has to tell: the calls it passed over, the commands
without a thunk and, last, the number of gaps. -/
def traceOf (settings : Settings) (path : String) (root : Node) : List TraceEvent :=
  if settings.enabled then
    (skippedCalls root).map (fun c => .skippedCall c.span.start.line)
      ++ (sites root).flatMap (fun s => s.thunkless.map fun c =>
          .noThunk path c.factory.span.start.line c.state c.message)
      ++ [.gapCount path (analyze settings (some path) root).length]
  else []

end StateCoverage
