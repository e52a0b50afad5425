import StateCoverage.OrderedMap
import StateCoverage.Source.Shape

/-!
# Reading displays

What can be read off a display without evaluating anything: the text of a
string literal, the entries of a dict display under string-literal keys, the
string literals of a list or tuple display, and the last segment of a name.
Entries with other keys and spread entries are passed over.
-/

namespace StateCoverage

/-- An entry under a string-literal key, with that key. -/
def Entry.textual? : Entry → Option (String × Expr)
  | .pair (.text _ k) v => some (k, v)
  | _ => none

/-- The entries under string-literal keys: the last value of a key counts, at
the place of its first. -/
def textEntries (es : List Entry) : OrderedMap Expr :=
  .ofList (es.filterMap Entry.textual?)

namespace Expr

/-- The text of a string literal. -/
def text? : Expr → Option String
  | .text _ s => some s
  | _ => none

/-- The entries of a dict display. -/
def dict? : Expr → Option (List Entry)
  | .dict _ es => some es
  | _ => none

/-- The entries of a dict display under string-literal keys. -/
def textEntries? (e : Expr) : Option (OrderedMap Expr) :=
  e.dict?.map textEntries

/-- The string literals of a list or tuple display, in order. -/
def texts : Expr → List String
  | .sequence _ _ es => es.filterMap text?
  | _ => []

/-- The last segment of a bare or qualified name. -/
def lastSegment? : Expr → Option String
  | .name _ id _ => some id
  | .member _ _ attr => some attr
  | _ => none

/-- What can be read off an expression depends on its shape alone. -/
theorem read_iff_shape (e : Expr) :
    (e.text?.isSome ↔ e.shape = .stringLiteral) ∧
    (e.dict?.isSome ↔ e.shape = .literalMapping) ∧
    (e.lastSegment?.isSome ↔ e.shape = .name ∨ e.shape = .qualifiedName) ∧
    (e.texts ≠ [] → e.shape = .literalSequence) := by
  cases e <;> simp [text?, dict?, lastSegment?, texts, shape]

end Expr

end StateCoverage
