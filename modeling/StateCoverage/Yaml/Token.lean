/-!
# Tokens of YAML

The tokens of a YAML stream.  Indentation is made explicit: a block collection
starts and ends with tokens of its own, and a key is marked where it starts even
if its colon comes later.
-/

namespace StateCoverage.Yaml

/-- What a directive at the head of a document says. -/
inductive Directive where
  | version (major : Nat)
  | tagHandle (handle start : String)
  | other
  deriving Repr, DecidableEq, Inhabited

/-- The tokens. -/
inductive Token where
  | directive (d : Directive)
  | documentStart
  | documentEnd
  | blockSequenceStart
  | blockMappingStart
  | blockEnd
  | flowSequenceStart
  | flowSequenceEnd
  | flowMappingStart
  | flowMappingEnd
  | key
  | value
  | blockEntry
  | flowEntry
  /-- The node of an anchor again. -/
  | reference (name : String)
  | anchor (name : String)
  /-- A tag: the handle that its start stands for, if any, and the rest. -/
  | tag (handle? : Option String) (suffix : String)
  | scalar (isPlain : Bool) (text : String)
  deriving Repr, DecidableEq, Inhabited

/-! ## Characters -/

/-- Whether a character ends a line. -/
def isBreak (c : Char) : Bool :=
  c = '\n' || c = '\x85' || c = '\u2028' || c = '\u2029'

/-- Whether there is a line end, or the end of the text. -/
def isBreakOrEnd : Option Char → Bool
  | none => true
  | some c => isBreak c

/-- Whether there is a blank, a line end or the end of the text. -/
def isBlankOrEnd : Option Char → Bool
  | some c => c = ' ' || isBreak c
  | none => true

/-- Whether there is a blank, a tab, a line end or the end of the text. -/
def isSpaceOrEnd : Option Char → Bool
  | some c => c = ' ' || c = '\t' || isBreak c
  | none => true

/-- Whether a character can be part of the name of an anchor, a directive or a
tag handle. -/
def isNameChar (c : Char) : Bool :=
  c.isAlphanum || c = '-' || c = '_'

end StateCoverage.Yaml
