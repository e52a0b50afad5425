import StateCoverage.Source.Node

/-!
# Targets

Which expressions may stand where a value is bound or removed, and what they
become there: the names in them are stored or deleted instead of loaded.
-/

namespace StateCoverage

namespace Expr

/-- The expression as the target of a single assignment: a name, an attribute
or a subscript. -/
def singleTarget? : Expr → Option Expr
  | .name s id _ => some (.name s id .store)
  | .member s v a => some (.member s v a)
  | .compound s .subscript ps => some (.compound s .subscript ps)
  | _ => none

/-- The expression as a target that may be unpacked: also a display of targets
and, if `stars` allows them, a starred target. -/
def target? (use : NameUse) (stars : Bool) (e : Expr) : Option Expr :=
  match e with
  | .name s id _ => some (.name s id use)
  | .member s v a => some (.member s v a)
  | .compound s .subscript ps => some (.compound s .subscript ps)
  | .compound s .starred ps =>
      if stars then
        (ps.attach.mapM (m := Option) fun ⟨p, _⟩ => p.target? use stars).map (.compound s .starred)
      else none
  | .sequence s f es =>
      (es.attach.mapM (m := Option) fun ⟨p, _⟩ => p.target? use stars).map (.sequence s f)
  | _ => none
termination_by sizeOf e
decreasing_by
  all_goals
    have := List.sizeOf_lt_of_mem ‹_›
    simp
    omega

/-- The expression as the target of an assignment, a loop or a `with` item. -/
def storeTarget? (e : Expr) : Option Expr := e.target? .store true

/-- The expression as the target of a `del`. -/
def deleteTarget? (e : Expr) : Option Expr := e.target? .delete false

end Expr

end StateCoverage
