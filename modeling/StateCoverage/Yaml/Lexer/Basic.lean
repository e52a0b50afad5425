import StateCoverage.Yaml.Stream
import StateCoverage.Yaml.Token

/-!
# The state of the YAML lexer

The lexer knows the open block collections by their columns, how deep it is
inside brackets, and the places where a key may have started: such a place
becomes a key when a colon follows on its line.
-/

namespace StateCoverage.Yaml

/-- A place where a key may have started. -/
structure PossibleKey where
  /-- The number of tokens before it. -/
  tokenCount : Nat
  /-- Whether nothing but a key can stand here. -/
  isRequired : Bool
  index : Nat
  line : Nat
  column : Nat

/-- What the lexer knows between tokens. -/
structure LexState where
  /-- The characters at hand. -/
  rest : List Char
  /-- The text after them. -/
  stream : Stream
  /-- The length of the whole text. -/
  size : Nat
  index : Nat
  line : Nat
  column : Nat
  /-- The tokens that were read and not taken away, -/
  tokens : List Token
  /-- the number of those that were taken away, -/
  taken : Nat
  /-- and whether they are all that there are. -/
  isDone : Bool
  /-- The columns of the open block collections, innermost first. -/
  blocks : List Nat
  flowLevel : Int
  /-- Whether a key may start here. -/
  allowsKey : Bool
  /-- Possible keys by the flow level at which they started. -/
  keys : List (Int × PossibleKey)

/-- A step of the lexer. -/
abbrev Lex (α : Type) := StateT LexState (Except Fault) α

/-- The state before a stream. -/
def LexState.start (s : Stream) : Except Fault LexState := do
  let (rest, stream) ← Stream.extend (!·.isEmpty) s.fault? [] s.portions
  return ⟨rest, stream, s.size, 0, 0, 0, [], 0, false, [], 0, true, []⟩

namespace Lex

/-- Gives up. -/
def malformed {α : Type} : Lex α := throw .malformed

/-! ## Moving through the text -/

/-- Asks for characters until those at hand are enough or the text ends. -/
def ensure (enough : List Char → Bool) : Lex Unit := do
  let s ← get
  let (rest, stream) ← Stream.extend enough s.stream.fault? s.rest s.stream.portions
  set { s with rest, stream }

/-- The character so many places ahead. -/
def peek (ahead : Nat) : Lex (Option Char) := do
  ensure (Stream.hasAtLeast (ahead + 1))
  return (← get).rest[ahead]?

/-- So many characters that come next, or all that are left. -/
def lookahead (count : Nat) : Lex (List Char) := do
  ensure (Stream.hasAtLeast count)
  return (← get).rest.take count

/-- The state after one more character. -/
def advance (s : LexState) : LexState :=
  match s.rest with
  | [] => s
  | c :: rest =>
      let s := { s with rest, index := s.index + 1 }
      if isBreak c then { s with line := s.line + 1, column := 0 }
      else if c = '\ufeff' then s
      else { s with column := s.column + 1 }

/-- Moves over so many characters; the one after them must be there as well,
unless the text ends. -/
def forward (count : Nat) : Lex Unit := do
  ensure (Stream.hasAtLeast (count + 1))
  modify fun s => count.repeat advance s

/-- Takes the characters that come next and satisfy a condition. -/
def takeWhile (p : Char → Bool) : Lex (List Char) := do
  ensure (·.any fun c => !p c)
  let cs := (← get).rest.takeWhile p
  forward cs.length
  return cs

/-- Takes a line end, if there is one; it counts as a line feed unless it is a
line or paragraph separator. -/
def lineBreak : Lex (List Char) := do
  match ← peek 0 with
  | some c =>
      if isBreak c then
        forward 1
        return [if c = '\x85' then '\n' else c]
      else return []
  | none => return []

/-- Repeats a step until it gives a result, at most once for each character of
the text and twice more. -/
def loop {σ α : Type} (step : σ → Lex (σ ⊕ α)) (init : σ) : Lex α := fun s =>
  go (s.size + 2) init s
where
  go : Nat → σ → Lex α
    | 0, _ => malformed
    | n + 1, a => do
        match ← step a with
        | .inl a => go n a
        | .inr r => return r

/-- Repeats a step that gives a part of a text until it is the last one, and
joins the parts. -/
def collectText (step : Lex (List Char × Bool)) : Lex (List Char) := do
  let parts ← loop (fun (parts : List (List Char)) => do
    let (part, isLast) ← step
    return if isLast then .inr (part :: parts) else .inl (part :: parts)) []
  return parts.reverse.flatten

/-- Whether a line of three given marks starts here. -/
def atMarks (mark : Char) : Lex Bool :=
  (return (← lookahead 3) = [mark, mark, mark]) <&&> (return isSpaceOrEnd (← peek 3))

/-- Whether a line of three dashes or dots starts here. -/
def atDocumentMark : Lex Bool := atMarks '-' <||> atMarks '.'

/-! ## Tokens, blocks and keys -/

/-- Adds a token. -/
def emit (t : Token) : Lex Unit :=
  modify fun s => { s with tokens := s.tokens ++ [t] }

/-- Puts a token where so many tokens stand before it. -/
def emitAt (count : Nat) (t : Token) : Lex Unit :=
  modify fun s =>
    let here := count - s.taken
    { s with tokens := s.tokens.take here ++ t :: s.tokens.drop here }

/-- Allows or forbids a key at the next token. -/
def allowKey (b : Bool) : Lex Unit := modify fun s => { s with allowsKey := b }

/-- Whether the lexer is inside brackets. -/
def isFlow : Lex Bool := return (← get).flowLevel ≠ 0

/-- Outside brackets, closes the block collections for which a condition
holds. -/
def closeBlocks (p : Nat → Bool) : Lex Unit := do
  if !(← isFlow) then
    modify fun s =>
      let closed := s.blocks.takeWhile p
      { s with
        blocks := s.blocks.drop closed.length
        tokens := s.tokens ++ closed.map fun _ => .blockEnd }

/-- Opens a block collection at a column if it is further in than the open
ones, and tells. -/
def openBlock (column : Nat) : Lex Bool := do
  let s ← get
  if s.blocks.head?.all (· < column) then
    set { s with blocks := column :: s.blocks }
    return true
  else return false

/-- Gives up on possible keys that are too far back; a required one must not be
lost. -/
def dropStaleKeys : Lex Unit := do
  let s ← get
  let isStale := fun (k : PossibleKey) => k.line ≠ s.line || 1024 < s.index - k.index
  if s.keys.any fun e => isStale e.2 && e.2.isRequired then malformed
  else set { s with keys := s.keys.filter fun e => !isStale e.2 }

/-- Forgets the possible key of this flow level. -/
def forgetKey : Lex Unit := do
  let s ← get
  if s.keys.any fun e => e.1 = s.flowLevel && e.2.isRequired then malformed
  else set { s with keys := s.keys.filter fun e => e.1 ≠ s.flowLevel }

/-- Notes that a key may start here. -/
def noteKey : Lex Unit := do
  let s ← get
  if s.allowsKey then
    let isRequired := s.flowLevel = 0 && s.blocks.head? = some s.column
    forgetKey
    let key : PossibleKey := ⟨s.taken + s.tokens.length, isRequired, s.index, s.line, s.column⟩
    modify fun s => { s with keys := (s.flowLevel, key) :: s.keys }

end Lex

end StateCoverage.Yaml
