import StateCoverage.Source.Parser.Statement

/-!
# Parsing source text

`parseModule?` reads a whole text.  It tells whether the text is grammatical and
what its tree is; rules that go beyond the grammar, such as where `return` may
stand, are not checked.

A rule calls the rules for its inner parts only after a token of its own, so
the nesting of calls is bounded by the length of the text.
-/

namespace StateCoverage.Source

open Parser

/-- The rule of a syntactic class, given the rules for its inner parts. -/
def ruleFor (self : Rules) : Rules
  | .starExpressions => starExpressionsRule self
  | .expression => expressionRule self
  | .disjunction => disjunctionRule self
  | .inversion => inversionRule self
  | .bitwiseOr => bitwiseOrRule self
  | .factor => factorRule self
  | .pattern => patternRule self
  | .statements => statementsRule self

/-- The rules for trees nested at most so deep. -/
def rulesTo : Nat → Rules
  | 0 => fun _ => reject
  | depth + 1 => fun c => ruleFor (rulesTo depth) c

/-- Runs a parser over all tokens of a text of the given length; `rest` takes
what may follow the tree. -/
def parseAll? {α : Type} (names : CharNames) (p : Rules → Parser α) (rest : Parser Unit)
    (length : Nat) (tokens : List Token) : Option α := do
  let (a, _) ← (do
    let a ← p (rulesTo (length + 2))
    rest
    token .endOfInput
    return a : Parser α).run ⟨tokens, ⟨1, 0⟩, names⟩
  return a

/-- The module that a source text is. -/
def parseModule? (names : CharNames) (cs : List Char) : Option Module := do
  parseAll? names (fun self => return ⟨(← perhaps (statementsRule self)).getD []⟩) (pure ())
    cs.length (← moduleTokens? cs)

end StateCoverage.Source
