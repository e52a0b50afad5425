import StateCoverage.Text.Numeral
import StateCoverage.Yaml.Lexer.Basic

/-!
# Names, tags and directives

The tokens that say something about nodes or documents: anchors and aliases,
tags, and the directives at the head of a document.
-/

namespace StateCoverage.Yaml.Lex

/-- Characters of a name, at least one. -/
def nameText : Lex String := do
  let cs ← takeWhile isNameChar
  if cs.isEmpty then malformed else return String.ofList cs

/-- The name of an anchor or an alias, after its mark. -/
def anchorName : Lex String := do
  forward 1
  let name ← nameText
  match ← peek 0 with
  | none => return name
  | some c =>
      if isSpaceOrEnd (some c) || ['?', ':', ',', ']', '\x7d', '%', '@', '\x60'].contains c then
        return name
      else malformed

/-- Whether a character may stand in the address of a tag as it is. -/
def isAddressChar (c : Char) : Bool :=
  c.isAlphanum || ['-', ';', '/', '?', ':', '@', '&', '=', '+', '$', ',', '_', '.', '!', '~', '*',
    '\'', '(', ')', '[', ']'].contains c

/-- The number that hexadecimal digits write, of which there must be so many. -/
def hexNumber (count : Nat) : Lex Nat := go count 0
where
  go : Nat → Nat → Lex Nat
    | 0, n => return n
    | left + 1, n => do
        match (← peek (count - left - 1)).bind Text.digitValue? with
        | some d => go left (16 * n + d)
        | none => malformed

/-- Bytes written as a percent sign and two digits each. -/
def addressEscapes : Lex (List Char) := do
  let bytes ← loop (fun (bytes : List UInt8) => do
    if (← peek 0) = some '%' then
      forward 1
      let n ← hexNumber 2
      forward 2
      return .inl (bytes ++ [n.toUInt8])
    else return .inr bytes) []
  match Text.decodeUtf8 bytes with
  | .ok cs => return cs
  | .error _ => malformed

/-- The address of a tag, at least one character. -/
def address : Lex String := do
  let cs ← collectText do
    let plain ← takeWhile isAddressChar
    if (← peek 0) = some '%' then return (plain ++ (← addressEscapes), false)
    else return (plain, true)
  if cs.isEmpty then malformed else return String.ofList cs

/-- The handle of a tag: `!`, `!!` or a name between two marks. -/
def tagHandle : Lex String := do
  if (← peek 0) ≠ some '!' then malformed
  if (← peek 1) = some ' ' then
    forward 1
    return "!"
  else
    forward 1
    let name ← takeWhile isNameChar
    if (← peek 0) ≠ some '!' then malformed
    forward 1
    return String.ofList ('!' :: name ++ ['!'])

/-- Whether a tag has a handle: a second mark follows before the next blank. -/
def hasHandle : Lex Bool := do
  let endsWord := fun (c : Char) => c = '!' || isBlankOrEnd (some c)
  ensure fun cs => (cs.drop 1).any endsWord
  return ((← get).rest.drop 1).find? endsWord = some '!'

/-- A tag. -/
def tag : Lex Token := do
  let next ← peek 1
  let t ←
    if next = some '<' then do
      forward 2
      let suffix ← address
      if (← peek 0) ≠ some '>' then malformed
      forward 1
      pure (Token.tag none suffix)
    else if isSpaceOrEnd next then do
      forward 1
      pure (Token.tag none "!")
    else if ← hasHandle then do
      let handle ← tagHandle
      pure (Token.tag (some handle) (← address))
    else do
      forward 1
      pure (Token.tag (some "!") (← address))
  if isBlankOrEnd (← peek 0) then return t else malformed

/-- Skips blanks, a comment and the end of the line; nothing else may stand
there. -/
def ignoredLine : Lex Unit := do
  discard (takeWhile (· = ' '))
  if (← peek 0) = some '#' then discard (takeWhile fun c => !isBreak c)
  if isBreakOrEnd (← peek 0) then discard lineBreak else malformed

/-- One of the two numbers of a version. -/
def versionNumber : Lex Nat := do
  let ds ← takeWhile Char.isDigit
  match Text.readInteger 10 ds with
  | .ok n => return n.toNat
  | .error .noNumber => malformed
  | .error (.tooLong count) => throw (.badScalar (Text.tooLongMessage count))

/-- A directive. -/
def directive : Lex Token := do
  forward 1
  let name ← nameText
  if !isBlankOrEnd (← peek 0) then malformed
  let d ←
    if name = "YAML" then do
      discard (takeWhile (· = ' '))
      let major ← versionNumber
      if (← peek 0) ≠ some '.' then malformed
      forward 1
      discard versionNumber
      if !isBlankOrEnd (← peek 0) then malformed
      pure (Directive.version major)
    else if name = "TAG" then do
      discard (takeWhile (· = ' '))
      let handle ← tagHandle
      if (← peek 0) ≠ some ' ' then malformed
      discard (takeWhile (· = ' '))
      let start ← address
      if !isBlankOrEnd (← peek 0) then malformed
      pure (Directive.tagHandle handle start)
    else do
      discard (takeWhile fun c => !isBreak c)
      pure Directive.other
  ignoredLine
  return .directive d

end StateCoverage.Yaml.Lex
