import StateCoverage.Source.Lexer
import StateCoverage.Source.Literal
import StateCoverage.Source.Parser.Basic

/-!
# String literals as expressions

Adjacent literals are one.  If one of them is an f-string the whole is one,
with the expressions of its replacement fields in place; all parts of it span
the whole literal, and the expressions stand where they are written.
-/

namespace StateCoverage.Source

open Parser

/-- The literal for some code points: a text if all of them are characters, and a
constant that nothing is read off if not. -/
def literal (span : Span) (points : List Nat) : Expr :=
  if points.all fun n => n.isValidChar then .text span (String.ofList (points.map Char.ofNat))
  else .constant span

/-- A literal that is read as a text stands for the code points of that text. -/
theorem map_toNat_of_literal_eq_text {span span' : Span} {points : List Nat} {s : String}
    (h : literal span points = .text span' s) : s.toList.map Char.toNat = points := by
  rw [literal] at h
  split at h
  · next valid =>
    obtain ⟨-, rfl⟩ := Expr.text.inj h
    have same : ∀ n ∈ points, (Char.toNat ∘ Char.ofNat) n = n := by
      intro n hn
      have isChar : n.isValidChar := by simpa using List.all_eq_true.1 valid n hn
      have made : Char.ofNat n = Char.ofNatAux n isChar := dif_pos isChar
      rw [Function.comp, made]
      rfl
    rw [String.toList_ofList, List.map_map, List.map_congr_left same, List.map_id']
  · cases h

/-- A text literal, unless it is empty. -/
def textLiteral (span : Span) (points : List Nat) : List Expr :=
  if points.isEmpty then [] else [literal span points]

/-- The values of an f-string: its texts, empty ones left out and neighbours
joined, and its fields.  `before` is text that still waits to be joined. -/
def joinText (span : Span) (before : List Nat) : List (Sum (List Nat) Expr) → List Expr
  | [] => textLiteral span before
  | .inl points :: rest => joinText span (before ++ points) rest
  | .inr e :: rest => textLiteral span before ++ e :: joinText span [] rest

/-- Parses the expression of a replacement field as if parentheses stood in
place of its braces. -/
def fieldValue? (self : Rules) (names : CharNames) (start : Pos) (cs : List Char) :
    Option Expr := do
  let tokens ← tokenizeAt? start ('(' :: cs ++ [')'])
  let (e, rest) ← self.expression.run ⟨tokens, start, names⟩
  if rest.tokens.all fun t => !t.isCode then return e else none

mutual

/-- The trees of the parts of an f-string; all of them span the whole literal. -/
def formatValues? (self : Rules) (names : CharNames) (span : Span) :
    List FormatPart → Option (List (Sum (List Nat) Expr))
  | [] => some []
  | p :: ps => do
      let v ← formatValue? self names span p
      return v :: (← formatValues? self names span ps)

/-- The tree of one part of an f-string. -/
def formatValue? (self : Rules) (names : CharNames) (span : Span) :
    FormatPart → Option (Sum (List Nat) Expr)
  | .text points => some (.inl points)
  | .field start cs none => do
      if cs.all isAsciiSpace then none
      else return .inr (.compound span .formatted [← fieldValue? self names start cs])
  | .field start cs (some parts) => do
      if cs.all isAsciiSpace then none
      else
        let value ← fieldValue? self names start cs
        let format := joinText span [] (← formatValues? self names span parts)
        return .inr (.compound span .formatted [value, .compound span .joinedText format])

end

/-- The tree of adjacent string literals: they are one literal, an f-string if
one of them is. -/
def stringsValue? (self : Rules) (names : CharNames) (span : Span) (texts : List QuotedText) :
    Option Expr := do
  if texts.any QuotedText.isBytes then
    if texts.all fun t => t.isBytes && isBytesBody t.isRaw t.body then return .constant span
    else none
  else
    let pieces ← texts.mapM fun t =>
      if t.isFormat then (formatParts? names t).bind (formatValues? self names span)
      else (unescape? names t.isRaw t.body).map fun points => [.inl points]
    let values := joinText span [] pieces.flatten
    if texts.any QuotedText.isFormat then return .compound span .joinedText values
    else return values.headD (.text span "")

/-- A string token. -/
def quotedText : Parser QuotedText := do
  match ← peek with
  | .string t =>
      discard next
      return t
  | _ => reject

/-- One or more adjacent string literals. -/
def strings (self : Rules) : Parser Expr := do
  let start ← here
  let texts ← many1 quotedText
  let span ← spanFrom start
  match stringsValue? self (← get).names span texts with
  | some e => return e
  | none => reject

end StateCoverage.Source
