import StateCoverage.Source.Token
import StateCoverage.Text.Digit

/-!
# String literals

What the characters between the quotes of a string stand for.  In a raw string
they stand for themselves; otherwise a backslash starts an escape.  A backslash
before any other character is kept.

They stand for code points, not for characters: an escape can give one half of a
surrogate pair, which is no character.

An f-string is cut into text and replacement fields; `formatParts?` finds the
end of each field without reading the expression in it.
-/

namespace StateCoverage.Source

/-! ## Escapes -/

/-- The characters that are known by name. -/
abbrev CharNames := List Char → Option Char

/-- The number written by exactly `count` hexadecimal digits, and the rest. -/
def hexNumber? (count : Nat) (cs : List Char) : Option (Nat × List Char) :=
  let digits := cs.take count
  if digits.length = count && digits.all (Text.isDigitIn 16) then
    some (Text.numberIn 16 digits, cs.drop count)
  else none

/-- A number as a code point. -/
def codePoint? (n : Nat) : Option Nat :=
  if n ≤ 0x10ffff then some n else none

/-- Escapes of one character. -/
def simpleEscape? (c : Char) : Option Char :=
  match c with
  | '\\' => some '\\'
  | '\'' => some '\''
  | '"' => some '"'
  | 'a' => some '\x07'
  | 'b' => some '\x08'
  | 'f' => some '\x0c'
  | 'n' => some '\n'
  | 'r' => some '\r'
  | 't' => some '\t'
  | 'v' => some '\x0b'
  | _ => none

/-- Whether a character is an octal digit. -/
def isOctal (c : Char) : Bool := '0' ≤ c && c ≤ '7'

/-- The code points that one escape stands for, given what follows its
backslash, and the rest. -/
def escape? (names : CharNames) (cs : List Char) : Option (List Nat × List Char) :=
  match cs with
  | [] => some (['\\'.toNat], [])
  | c :: rest =>
      if c = '\n' then some ([], rest)
      else if c = 'x' then do
        let (n, rest) ← hexNumber? 2 rest
        return ([← codePoint? n], rest)
      else if c = 'u' then do
        let (n, rest) ← hexNumber? 4 rest
        return ([← codePoint? n], rest)
      else if c = 'U' then do
        let (n, rest) ← hexNumber? 8 rest
        return ([← codePoint? n], rest)
      else if c = 'N' then
        match rest with
        | '\x7b' :: name =>
            match name.dropWhile (· ≠ '\x7d') with
            | _ :: after => (names (name.takeWhile (· ≠ '\x7d'))).map fun ch => ([ch.toNat], after)
            | [] => none
        | _ => none
      else if isOctal c then
        let digits := (cs.take 3).takeWhile isOctal
        let n := digits.foldl (fun n d => 8 * n + (d.toNat - 48)) 0
        (codePoint? n).map fun n => ([n], cs.drop digits.length)
      else
        match simpleEscape? c with
        | some ch => some ([ch.toNat], rest)
        | none => some (['\\'.toNat, c.toNat], rest)

/-- Replaces escapes, in at most the given number of steps. -/
def unescapeSteps? (names : CharNames) : Nat → List Char → Option (List Nat)
  | 0, cs => if cs.isEmpty then some [] else none
  | _ + 1, [] => some []
  | n + 1, '\\' :: cs => do
      let (points, rest) ← escape? names cs
      return points ++ (← unescapeSteps? names n rest)
  | n + 1, c :: cs => (unescapeSteps? names n cs).map (c.toNat :: ·)

/-- The code points that the characters of a string stand for. -/
def unescape? (names : CharNames) (isRaw : Bool) (cs : List Char) : Option (List Nat) :=
  if isRaw then some (cs.map Char.toNat) else unescapeSteps? names cs.length cs

/-- Whether the characters of a bytes literal are well formed: ASCII only, and
two digits after each `\x`. -/
def isBytesBody (isRaw : Bool) (cs : List Char) : Bool :=
  cs.all (fun c => c.toNat < 128) && (isRaw || go cs)
where
  go : List Char → Bool
    | '\\' :: 'x' :: cs => (hexNumber? 2 cs).isSome && go cs
    | '\\' :: _ :: cs => go cs
    | _ :: cs => go cs
    | [] => true

/-! ## Replacement fields of f-strings -/

/-- A piece of an f-string. -/
inductive FormatPart where
  /-- Literal text. -/
  | text (points : List Nat)
  /-- A replacement field: where its brace stands, the characters of its
  expression, and its format, which is an f-string again. -/
  | field (start : Pos) (expression : List Char) (format? : Option (List FormatPart))

/-- The deepest level at which a replacement field may stand: the string itself
and one format. -/
def mostFormatLevels : Nat := 2

/-- The characters of literal text up to a brace, and the rest.  At the outer
level a doubled brace is text; then the flag is set and the text ends after the
first of the two. -/
def formatText (isRaw : Bool) (level : Nat) : List Char → Option (List Char × Bool × List Char)
  | [] => some ([], false, [])
  | '\\' :: 'N' :: '\x7b' :: cs =>
      if isRaw then
        (formatText isRaw level ('N' :: '\x7b' :: cs)).map fun r => ('\\' :: r.1, r.2)
      else
        let name := (cs.takeWhile (· ≠ '\x7d')) ++ (cs.dropWhile (· ≠ '\x7d')).take 1
        (formatText isRaw level (cs.drop name.length)).map fun r =>
          ('\\' :: 'N' :: '\x7b' :: name ++ r.1, r.2)
  | '\\' :: c :: cs =>
      if isRaw || c = '\x7b' || c = '\x7d' then
        (formatText isRaw level (c :: cs)).map fun r => ('\\' :: r.1, r.2)
      else (formatText isRaw level cs).map fun r => ('\\' :: c :: r.1, r.2)
  | c :: cs =>
      if c = '\x7b' || c = '\x7d' then
        if level = 0 then
          if cs.head? = some c then some ([c], true, cs.drop 1)
          else if c = '\x7d' then none
          else some ([], false, c :: cs)
        else some ([], false, c :: cs)
      else (formatText isRaw level cs).map fun r => (c :: r.1, r.2)
termination_by cs => cs.length
decreasing_by all_goals (simp; try omega)

/-- The bracket that closes another. -/
def closes (opening closing : Char) : Bool :=
  (opening = '(' && closing = ')') || (opening = '[' && closing = ']')
    || (opening = '\x7b' && closing = '\x7d')

/-- The characters of the expression in a replacement field, and the rest from
the character that ends it.  Strings and brackets inside the expression hide
such characters; backslashes and comments are not allowed. -/
def fieldExpression? (quote : Option (Char × Bool)) (opened : List Char) :
    List Char → Option (List Char × List Char)
  | [] => none
  | c :: cs =>
      let more (taken : List Char) (quote : Option (Char × Bool)) (opened : List Char) :=
        (fieldExpression? quote opened (cs.drop (taken.length - 1))).map fun r =>
          (taken ++ r.1, r.2)
      if c = '\\' then none
      else
        match quote with
        | some (q, isTriple) =>
            if c ≠ q then more [c] quote opened
            else if !isTriple then more [c] none opened
            else if [q, q].isPrefixOf cs then more [q, q, q] none opened
            else more [c] quote opened
        | none =>
            if c = '\'' || c = '"' then
              if [c, c].isPrefixOf cs then more [c, c, c] (some (c, true)) opened
              else more [c] (some (c, false)) opened
            else if c = '[' || c = '\x7b' || c = '(' then more [c] none (c :: opened)
            else if c = '#' then none
            else if opened.isEmpty && ['!', ':', '\x7d', '=', '<', '>'].contains c then
              if c ≠ ':' && c ≠ '\x7d' && cs.head? = some '=' then more [c, '='] none opened
              else if c = '<' || c = '>' then more [c] none opened
              else some ([], c :: cs)
            else if c = ']' || c = '\x7d' || c = ')' then
              match opened with
              | o :: outer => if closes o c then more [c] none outer else none
              | [] => none
            else more [c] none opened
termination_by cs => cs.length
decreasing_by
  simp only [List.length_drop, List.length_cons]
  omega

/-- Whether a character is ASCII white space. -/
def isAsciiSpace (c : Char) : Bool :=
  c = ' ' || (9 ≤ c.toNat && c.toNat ≤ 13)

/-- A position and what follows it. -/
abbrev Placed := Pos × List Char

/-- Moves over the given number of characters. -/
def Placed.skip (p : Placed) (count : Nat) : Placed :=
  (p.1.advanceAll (p.2.take count), p.2.drop count)

/-- The parts of an f-string at a level of nesting, up to the end of the text
or, inside a format, up to the brace that ends it; in at most the given number
of steps. -/
def formatPartsSteps? (names : CharNames) :
    Nat → Bool → Nat → Placed → Option (List FormatPart × Placed)
  | 0, _, _, _ => none
  | n + 1, isRaw, level, p => do
      let (chars, isDoubled, rest) ← formatText isRaw level p.2
      let text := FormatPart.text (← unescape? names isRaw chars)
      let after := p.skip (p.2.length - rest.length)
      if isDoubled then
        let (parts, last) ← formatPartsSteps? names n isRaw level after
        return (text :: parts, last)
      match rest with
      | [] => if level = 0 then some ([text], after) else none
      | c :: _ =>
          if c = '\x7d' then some ([text], after)
          else if mostFormatLevels ≤ level then none
          else
            let inside := after.skip 1
            let (expression, ending) ← fieldExpression? none [] inside.2
            let after' := inside.skip expression.length
            let isEcho := ending.head? = some '='
            let echo := if isEcho then '=' :: (ending.drop 1).takeWhile isAsciiSpace else []
            let after' := after'.skip echo.length
            let after' ←
              match after'.2 with
              | '!' :: c :: _ => if ['s', 'r', 'a'].contains c then some (after'.skip 2) else none
              | '!' :: [] => none
              | _ => some after'
            let (format?, after') ←
              match after'.2 with
              | ':' :: _ => do
                  let (parts, last) ← formatPartsSteps? names n isRaw (level + 1) (after'.skip 1)
                  pure (some parts, last)
              | _ => pure (none, after')
            match after'.2 with
            | '\x7d' :: _ =>
                let (parts, last) ← formatPartsSteps? names n isRaw level (after'.skip 1)
                let shown := if isEcho then [FormatPart.text ((expression ++ echo).map Char.toNat)] else []
                return (text :: shown ++ .field after.1 expression format? :: parts, last)
            | _ => none

/-- The parts of an f-string. -/
def formatParts? (names : CharNames) (t : QuotedText) : Option (List FormatPart) := do
  let (parts, last) ← formatPartsSteps? names (t.body.length + 1) t.isRaw 0 (t.start, t.body)
  if last.2.isEmpty then return parts else none

end StateCoverage.Source
