import StateCoverage.Yaml.Lexer.Tag

/-!
# Scalars in YAML text

A scalar is plain, in quotes or a block.  Line ends inside the first two are
folded: one becomes a blank, and of several the first is left out.
-/

namespace StateCoverage.Yaml.Lex

/-- What line ends inside a scalar become: a blank, or all but the first if there
are more.  A first one that is no line feed stays. -/
def foldedBreaks (first breaks : List Char) : List Char :=
  if first ≠ ['\n'] then first ++ breaks
  else if breaks.isEmpty then [' ']
  else breaks

/-! ## Plain scalars -/

/-- Line ends inside a plain scalar.  Gives nothing where a document mark ends
the scalar. -/
def plainBreaks : Lex (List Char) := do
  let first ← lineBreak
  allowKey true
  if ← atDocumentMark then return []
  loop (fun (breaks : List Char) => do
    discard (takeWhile (· = ' '))
    match ← lineBreak with
    | [] => return .inr (foldedBreaks first breaks)
    | b => if ← atDocumentMark then return .inr [] else return .inl (breaks ++ b)) []

/-- The space between two parts of a plain scalar. -/
def plainSpace : Lex (List Char) := do
  let blanks ← takeWhile (· = ' ')
  if (← peek 0).any isBreak then plainBreaks else return blanks

/-- Whether a character is part of a plain scalar wherever it stands. -/
def isPlainChar (inBrackets : Bool) (c : Char) : Bool :=
  !isSpaceOrEnd (some c) && c ≠ ':'
    && !(inBrackets && [',', '?', '[', ']', '\x7b', '\x7d'].contains c)

/-- Whether a colon before a character ends a plain scalar. -/
def endsPlain (inBrackets : Bool) (next : Option Char) : Bool :=
  isSpaceOrEnd next || (inBrackets && next.any [',', '[', ']', '\x7b', '\x7d'].contains)

/-- Part of a plain scalar, up to a space or its end. -/
def plainPart (inBrackets : Bool) : Lex (List Char) :=
  collectText do
    let run ← takeWhile (isPlainChar inBrackets)
    if (← peek 0) ≠ some ':' then return (run, true)
    else if endsPlain inBrackets (← peek 1) then return (run, true)
    else
      forward 1
      return (run ++ [':'], false)

/-- A plain scalar. -/
def plainScalar : Lex Token := do
  let least := match (← get).blocks.head? with
    | some column => column + 1
    | none => 0
  let inBrackets ← isFlow
  let parts ← loop (fun (parts, space) => do
    if (← peek 0) = some '#' then return .inr parts
    let part ← plainPart inBrackets
    if part.isEmpty then return .inr parts
    allowKey false
    let parts := (space ++ part) :: parts
    let space ← plainSpace
    let s ← get
    if space.isEmpty || s.rest.head? = some '#' || (!inBrackets && s.column < least) then
      return .inr parts
    else return .inl (parts, space)) (([], []) : List (List Char) × List Char)
  return .scalar true (String.ofList parts.reverse.flatten)

/-! ## Quoted scalars -/

/-- Escapes of one character in double quotes. -/
def escapedChar? (c : Char) : Option Char :=
  match c with
  | '0' => some '\x00'
  | 'a' => some '\x07'
  | 'b' => some '\x08'
  | 't' | '\t' => some '\t'
  | 'n' => some '\n'
  | 'v' => some '\x0b'
  | 'f' => some '\x0c'
  | 'r' => some '\r'
  | 'e' => some '\x1b'
  | ' ' => some ' '
  | '"' => some '"'
  | '\\' => some '\\'
  | '/' => some '/'
  | 'N' => some '\x85'
  | '_' => some '\xa0'
  | 'L' => some '\u2028'
  | 'P' => some '\u2029'
  | _ => none

/-- The number of digits of an escape by code point. -/
def escapeDigits? (c : Char) : Option Nat :=
  match c with
  | 'x' => some 2
  | 'u' => some 4
  | 'U' => some 8
  | _ => none

/-- Line ends inside quotes, after the first one; a document mark must not
follow. -/
def quotedBreaks : Lex (List Char) :=
  loop (fun (breaks : List Char) => do
    if ← atDocumentMark then malformed
    discard (takeWhile fun c => c = ' ' || c = '\t')
    match ← lineBreak with
    | [] => return .inr breaks
    | b => return .inl (breaks ++ b)) []

/-- The character with a code point; code points that are no characters give the
replacement character. -/
def charOf (n : Nat) : Lex Char := do
  if 0x7fffffff < n then throw .tooLarge
  else if 0x10ffff < n then throw (.badScalar "chr() arg not in range(0x110000)")
  else if n.isValidChar then return Char.ofNat n
  else return '\ufffd'

/-- An escape in double quotes, after its backslash. -/
def escape : Lex (List Char) := do
  match ← peek 0 with
  | none => malformed
  | some c =>
      match escapedChar? c, escapeDigits? c with
      | some e, _ =>
          forward 1
          return [e]
      | none, some count =>
          forward 1
          let e ← charOf (← hexNumber count)
          forward count
          return [e]
      | none, none =>
          if isBreak c then
            discard lineBreak
            quotedBreaks
          else malformed

/-- The characters of a quoted scalar up to a space, a line end or the closing
quote. -/
def quotedText (quote : Char) : Lex (List Char) :=
  collectText do
    let run ← takeWhile fun c => !isSpaceOrEnd (some c) && c ≠ '\'' && c ≠ '"' && c ≠ '\\'
    match ← peek 0 with
    | none => return (run, true)
    | some c =>
        if isSpaceOrEnd (some c) then return (run, true)
        else if c = '\\' && quote = '"' then
          forward 1
          return (run ++ (← escape), false)
        else if c = quote then
          if quote = '"' then return (run, true)
          else if (← peek 1) = some quote then
            forward 2
            return (run ++ [quote], false)
          else return (run, true)
        else
          forward 1
          return (run ++ [c], false)

/-- The space between two parts of a quoted scalar. -/
def quotedSpace : Lex (List Char) := do
  let blanks ← takeWhile fun c => c = ' ' || c = '\t'
  match ← peek 0 with
  | none => malformed
  | some c =>
      if isBreak c then
        let first ← lineBreak
        return foldedBreaks first (← quotedBreaks)
      else return blanks

/-- A scalar in quotes. -/
def quotedScalar (quote : Char) : Lex Token := do
  forward 1
  let first ← quotedText quote
  let rest ← collectText do
    if (← peek 0) = some quote then return ([], true)
    let space ← quotedSpace
    return (space ++ (← quotedText quote), false)
  forward 1
  return .scalar false (String.ofList (first ++ rest))

/-! ## Block scalars -/

/-- What is done with the line ends after a block scalar. -/
inductive Chomping where
  | clip
  | strip
  | keep
  deriving DecidableEq

/-- The sign that tells what to do with the last line ends. -/
def chompingMark : Lex (Option Chomping) := do
  match ← peek 0 with
  | some '+' =>
      forward 1
      return some .keep
  | some '-' =>
      forward 1
      return some .strip
  | _ => return none

/-- The digit that gives the indentation of a block scalar. -/
def indentMark : Lex (Option Nat) := do
  match ← peek 0 with
  | some c =>
      if c = '0' then malformed
      else if c.isDigit then
        forward 1
        return some (c.toNat - 48)
      else return none
  | none => return none

/-- The marks after the sign of a block scalar, in either order. -/
def blockMarks : Lex (Chomping × Option Nat) := do
  let before ← chompingMark
  let indent? ← indentMark
  let chomping ← match before with
    | some c => pure c
    | none => if indent?.isSome then pure ((← chompingMark).getD .clip) else pure .clip
  if isBlankOrEnd (← peek 0) then return (chomping, indent?) else malformed

/-- Line ends and blanks before the first line of a block scalar, and the
furthest column reached in them. -/
def blockIndentation : Lex (List Char × Nat) :=
  loop (fun (breaks, most) => do
    discard (takeWhile (· = ' '))
    let most := max most (← get).column
    match ← lineBreak with
    | [] => return .inr (breaks, most)
    | b => return .inl (breaks ++ b, most)) (([], 0) : List Char × Nat)

/-- Moves over blanks up to a column. -/
def skipBlanksTo (column : Nat) : Lex Unit :=
  loop (fun (_ : Unit) => do
    if (← get).column < column && (← peek 0) = some ' ' then
      forward 1
      return .inl ()
    else return .inr ()) ()

/-- Line ends between the lines of a block scalar. -/
def blockBreaks (indent : Nat) : Lex (List Char) := do
  skipBlanksTo indent
  loop (fun (breaks : List Char) => do
    match ← lineBreak with
    | [] => return .inr breaks
    | b =>
        skipBlanksTo indent
        return .inl (breaks ++ b)) []

/-- Whether a line of a block scalar starts here. -/
def atBlockLine (indent : Nat) : Lex Bool := do
  let s ← get
  return s.column = indent && !s.rest.isEmpty

/-- A block scalar, whose lines are joined if it is folded. -/
def blockScalar (isFolded : Bool) : Lex Token := do
  forward 1
  let (chomping, indent?) ← blockMarks
  ignoredLine
  let least := match (← get).blocks.head? with
    | some column => column + 1
    | none => 1
  let (indent, breaks) ← match indent? with
    | none => do
        let (breaks, most) ← blockIndentation
        pure (max least most, breaks)
    | some n => do
        let indent := least + n - 1
        pure (indent, ← blockBreaks indent)
  let (lines, last, breaks) ←
    if ← atBlockLine indent then
      loop (fun (lines, breaks) => do
        let isIndented := ((← peek 0).any fun c => c = ' ' || c = '\t')
        let line ← takeWhile fun c => !isBreak c
        let last ← lineBreak
        let after ← blockBreaks indent
        if ← atBlockLine indent then
          let isNextIndented := ((← peek 0).any fun c => c = ' ' || c = '\t')
          let joins := isFolded && last = ['\n'] && !isIndented && !isNextIndented
          let tail := if joins then (if after.isEmpty then [' '] else []) else last
          return .inl ((breaks ++ line ++ tail) :: lines, after)
        else return .inr ((breaks ++ line) :: lines, last, after))
        (([], breaks) : List (List Char) × List Char)
    else pure ([], [], breaks)
  let tail := match chomping with
    | .strip => []
    | .clip => last
    | .keep => last ++ breaks
  return .scalar false (String.ofList (lines.reverse.flatten ++ tail))

end StateCoverage.Yaml.Lex
