import StateCoverage.Yaml.Lexer.Scalar

/-!
# From YAML text to tokens

Tokens are read when they are asked for, and no further than it takes to know
whether the next one is a key.

* `Lex.next?` — the next token, which stays in front.
* `Lex.drop` — takes it away.
-/

namespace StateCoverage.Yaml.Lex

/-- Skips blanks, comments and line ends before a token. -/
def skipToToken : Lex Unit := do
  let s ← get
  if s.index = 0 && s.rest.head? = some '\ufeff' then forward 1
  loop (fun (_ : Unit) => do
    discard (takeWhile (· = ' '))
    if (← peek 0) = some '#' then discard (takeWhile fun c => !isBreak c)
    match ← lineBreak with
    | [] => return .inr ()
    | _ =>
        if !(← isFlow) then allowKey true
        return .inl ()) ()

/-- A token that starts or ends a document. -/
def documentMark (t : Token) : Lex Unit := do
  closeBlocks fun _ => true
  forgetKey
  allowKey false
  forward 3
  emit t

/-- A bracket that opens. -/
def openBracket (t : Token) : Lex Unit := do
  noteKey
  modify fun s => { s with flowLevel := s.flowLevel + 1 }
  allowKey true
  forward 1
  emit t

/-- A bracket that closes. -/
def closeBracket (t : Token) : Lex Unit := do
  forgetKey
  modify fun s => { s with flowLevel := s.flowLevel - 1 }
  allowKey false
  forward 1
  emit t

/-- A comma. -/
def comma : Lex Unit := do
  allowKey true
  forgetKey
  forward 1
  emit .flowEntry

/-- The dash of a sequence. -/
def dash : Lex Unit := do
  if !(← isFlow) then
    let s ← get
    if !s.allowsKey then malformed
    if ← openBlock s.column then emit .blockSequenceStart
  allowKey true
  forgetKey
  forward 1
  emit .blockEntry

/-- The mark of a key. -/
def keyMark : Lex Unit := do
  let inBrackets ← isFlow
  if !inBrackets then
    let s ← get
    if !s.allowsKey then malformed
    if ← openBlock s.column then emit .blockMappingStart
  allowKey (!inBrackets)
  forgetKey
  forward 1
  emit .key

/-- The colon before a value; if a key may have started on this line, it did. -/
def colon : Lex Unit := do
  let s ← get
  let inBrackets ← isFlow
  match s.keys.lookup s.flowLevel with
  | some key =>
      modify fun s => { s with keys := s.keys.filter fun e => e.1 ≠ s.flowLevel }
      emitAt key.tokenCount .key
      if !inBrackets then
        if ← openBlock key.column then emitAt key.tokenCount .blockMappingStart
      allowKey false
  | none =>
      if !inBrackets then
        if !s.allowsKey then malformed
        if ← openBlock s.column then emit .blockMappingStart
      allowKey (!inBrackets)
      forgetKey
  forward 1
  emit .value

/-- A token at which a key may start. -/
def keyable (t : Lex Token) : Lex Unit := do
  noteKey
  allowKey false
  emit (← t)

/-- Whether a space or the end follows the next character. -/
def standsAlone : Lex Bool := return isSpaceOrEnd (← peek 1)

/-- Whether the next character, a mark of a key or a value, counts as one. -/
def isEntryMark : Lex Bool := do
  if ← isFlow then return true else standsAlone

/-- Looks ahead only if a condition holds. -/
def ifSo (b : Bool) (look : Lex Bool) : Lex Bool := if b then look else return false

/-- Whether a plain scalar can start with a character. -/
def startsPlain (c : Char) : Lex Bool := do
  if !isSpaceOrEnd (some c) && !("-?:,[]\x7b\x7d#&*!|>'\"%@\x60".toList.contains c) then return true
  else if ← standsAlone then return false
  else return c = '-' || (!(← isFlow) && (c = '?' || c = ':'))

/-- The token that starts with a character. -/
def tokenAt (c : Char) : Lex Unit := do
  let s ← get
  let inBrackets ← isFlow
  if c = '%' && s.column = 0 then
    closeBlocks fun _ => true
    forgetKey
    allowKey false
    emit (← directive)
  else if ← ifSo (c = '-' && s.column = 0) (atMarks '-') then documentMark .documentStart
  else if ← ifSo (c = '.' && s.column = 0) (atMarks '.') then documentMark .documentEnd
  else if c = '[' then openBracket .flowSequenceStart
  else if c = '\x7b' then openBracket .flowMappingStart
  else if c = ']' then closeBracket .flowSequenceEnd
  else if c = '\x7d' then closeBracket .flowMappingEnd
  else if c = ',' then comma
  else if ← ifSo (c = '-') standsAlone then dash
  else if ← ifSo (c = '?') isEntryMark then keyMark
  else if ← ifSo (c = ':') isEntryMark then colon
  else if c = '*' then keyable (return .reference (← anchorName))
  else if c = '&' then keyable (return .anchor (← anchorName))
  else if c = '!' then keyable tag
  else if (c = '|' || c = '>') && !inBrackets then
    allowKey true
    forgetKey
    emit (← blockScalar (c = '>'))
  else if c = '\'' || c = '"' then keyable (quotedScalar c)
  else if ← startsPlain c then keyable plainScalar
  else malformed

/-- Reads on up to the next token, or the end of the text. -/
def fetch : Lex Unit := do
  skipToToken
  dropStaleKeys
  let column := (← get).column
  closeBlocks fun block => column < block
  match ← peek 0 with
  | some c => tokenAt c
  | none =>
      closeBlocks fun _ => true
      forgetKey
      modify fun s => { s with isDone := true, allowsKey := false, keys := [] }

/-- Whether more must be read to know the next token: there is none, or it may
turn out to be a key. -/
def needsMore : Lex Bool := do
  if (← get).isDone then return false
  else if (← get).tokens.isEmpty then return true
  else
    dropStaleKeys
    let s ← get
    return s.keys.any fun e => e.2.tokenCount = s.taken

/-- The next token, if there is one. -/
def next? : Lex (Option Token) :=
  loop (fun (_ : Unit) => do
    if ← needsMore then
      fetch
      return .inl ()
    else return .inr (← get).tokens.head?) ()

/-- Takes the next token away. -/
def drop : Lex Unit :=
  modify fun s => { s with tokens := s.tokens.drop 1, taken := s.taken + 1 }

end StateCoverage.Yaml.Lex
