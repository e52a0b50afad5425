import StateCoverage.Scope
import StateCoverage.Source.Display

/-!
# Construction sites

A state machine is built by a call of `StateMachine`, bare or qualified, with
one dict display or with keywords.  A call is a site when its `config` and
`commands` are dict displays; any other call is passed over.

* `Node.constructorCalls` — every call of the constructor in a tree, with the
  scopes visible at it.
* `sites` — those of them that are sites.
-/

namespace StateCoverage

/-- The name that a call must have to build a state machine. -/
def constructorName : String := "StateMachine"

/-- A keyword argument with its name, which a spread does not have. -/
def Keyword.named? (k : Keyword) : Option (String × Expr) :=
  k.name?.map (·, k.value)

namespace Call

/-- Whether the callee is the constructor, bare or qualified. -/
def isConstructor (c : Call) : Bool :=
  c.callee.lastSegment? == some constructorName

/-- What the call passes under names: the entries of its only argument if that
is a dict display, or its keywords if there is no other argument. -/
def namedArguments? (c : Call) : Option (OrderedMap Expr) :=
  match c.args, c.keywords with
  | [arg], [] => arg.textEntries?
  | [], k :: ks => ((k :: ks).mapM Keyword.named?).map .ofList
  | _, _ => none

/-- The entries of the `config` and `commands` displays. -/
def structures? (c : Call) : Option (List Entry × List Entry) := do
  let named ← c.namedArguments?
  let config ← (← named.find? "config").dict?
  let commands ← (← named.find? "commands").dict?
  return (config, commands)

end Call

/-- One construction site: the call, its two displays and the scopes visible at
the call, innermost first. -/
structure Site where
  call : Call
  config : List Entry
  commands : List Entry
  scopes : List Scope

/-- The scopes that code directly inside a chain of enclosing scopes can see:
a class body only if it is the innermost. -/
def visibleScopes : List Scope → List Scope
  | [] => []
  | s :: outer => s :: Scope.visibleInside outer

/-- The call that a node is, if it is one of the constructor. -/
def Node.constructorCall? : Node → Option Call
  | .expr (.call c) => if c.isConstructor then some c else none
  | _ => none

/-- Every constructor call at and below a node, parents first, each with the
scopes visible at it; `enclosing` are the scopes around the node. -/
def Node.constructorCalls (enclosing : List Scope) (n : Node) : List (Call × List Scope) :=
  let inside := n.opens?.toList ++ enclosing
  n.constructorCall?.toList.map (·, visibleScopes inside)
    ++ n.children.attach.flatMap fun ⟨c, _⟩ => c.constructorCalls inside
termination_by sizeOf n
decreasing_by exact Node.sizeOf_lt_of_mem_children ‹_›

theorem Node.constructorCalls_eq (enclosing : List Scope) (n : Node) :
    n.constructorCalls enclosing =
      n.constructorCall?.toList.map (·, visibleScopes (n.opens?.toList ++ enclosing))
        ++ n.children.flatMap (Node.constructorCalls (n.opens?.toList ++ enclosing)) := by
  rw [Node.constructorCalls, List.flatMap_subtype fun _ _ => rfl, List.unattach_attach]

/-- The site of a constructor call, if its structures can be read. -/
def Site.ofCall? (found : Call × List Scope) : Option Site :=
  found.1.structures?.map fun s => ⟨found.1, s.1, s.2, found.2⟩

/-- The construction sites of a tree. -/
def sites (root : Node) : List Site :=
  (root.constructorCalls []).filterMap Site.ofCall?

/-- The constructor calls of a tree that are no sites. -/
def skippedCalls (root : Node) : List Call :=
  ((root.constructorCalls []).map Prod.fst).filter fun c => c.structures?.isNone

end StateCoverage
