import StateCoverage.Text.Numeral

/-!
# Numeric literals

Recognizes the number at the start of a text.  Digits may be separated by
single underscores, a decimal integer has no leading zero, and a number may not
run into a word, except into one of the few keywords that can follow a number.
-/

namespace StateCoverage.Source

open StateCoverage.Text

/-- A recognized number: its characters and whether it is imaginary. -/
structure Numeral where
  text : List Char
  isImaginary : Bool
  rest : List Char
  deriving Repr

/-- Digits with single underscores between them; fails on an underscore that no
digit follows. -/
def digitRun (isDigit : Char → Bool) : List Char → Option (List Char × List Char)
  | [] => some ([], [])
  | c :: cs =>
      if isDigit c then (digitRun isDigit cs).map fun r => (c :: r.1, r.2)
      else if c = '_' then
        match cs with
        | d :: _ => if isDigit d then (digitRun isDigit cs).map fun r => (c :: r.1, r.2) else none
        | [] => none
      else some ([], c :: cs)

/-- Whether a character can be part of a word. -/
def isWordChar (c : Char) : Bool :=
  c.isAlphanum || c = '_' || 128 ≤ c.toNat

/-- Whether a text starts with one of the keywords that may follow a number
without a blank. -/
def startsKeywordAfterNumber (cs : List Char) : Bool :=
  ["and", "else", "for", "if", "in", "is", "or", "not"].any fun w => w.toList.isPrefixOf cs

/-- Whether a number may end before the given text. -/
def numberMayEnd (cs : List Char) : Bool :=
  startsKeywordAfterNumber cs || !(cs.head?.any isWordChar)

/-- A number that must end before `rest`. -/
def Numeral.ending? (text : List Char) (isImaginary : Bool) (rest : List Char) : Option Numeral :=
  if numberMayEnd rest then some ⟨text, isImaginary, rest⟩ else none

/-- The end of a decimal number: an imaginary mark or nothing. -/
def decimalEnd? (text : List Char) : List Char → Option Numeral
  | 'j' :: rest | 'J' :: rest => Numeral.ending? (text ++ ['j']) true rest
  | rest => Numeral.ending? text false rest

/-- The exponent of a decimal number, if any, and what may follow it. -/
def exponentEnd? (text rest : List Char) : Option Numeral :=
  match rest with
  | e :: more =>
      if e = 'e' || e = 'E' then
        match more with
        | s :: digits =>
            if s = '+' || s = '-' then
              if digits.head?.any Char.isDigit then
                (digitRun Char.isDigit digits).bind fun r =>
                  decimalEnd? (text ++ e :: s :: r.1) r.2
              else none
            else if s.isDigit then
              (digitRun Char.isDigit more).bind fun r => decimalEnd? (text ++ e :: r.1) r.2
            else Numeral.ending? text false rest
        | [] => Numeral.ending? text false rest
      else decimalEnd? text rest
  | [] => decimalEnd? text rest

/-- The fraction after the point of a decimal number. -/
def fractionEnd? (text rest : List Char) : Option Numeral :=
  if rest.head?.any Char.isDigit then
    (digitRun Char.isDigit rest).bind fun r => exponentEnd? (text ++ r.1) r.2
  else exponentEnd? text rest

/-- Whether a run of digits before `rest` is a decimal integer: it starts with no
zero and is not too long, or it has zeros only.  Where an `e` follows, the run
is a float of its own and may start with a zero. -/
def mayBeNumber (digits rest : List Char) : Bool :=
  if digits.head? = some '0' then
    digits.all (fun c => c = '0' || c = '_') || rest.head?.any fun c => c = 'e' || c = 'E'
  else (digits.filter Char.isDigit).length ≤ mostDigits

/-- A number in base ten. -/
def decimal? (cs : List Char) : Option Numeral := do
  let (digits, rest) ← digitRun Char.isDigit cs
  match rest with
  | '.' :: more => fractionEnd? (digits ++ ['.']) more
  | _ =>
      let n ← exponentEnd? digits rest
      if n.text = digits && !mayBeNumber digits rest then none else some n

/-- A number in base two, eight or sixteen, after its mark. -/
def radix? (base : Nat) (mark cs : List Char) : Option Numeral := do
  let (digits, rest) ← digitRun (isDigitIn base) cs
  if digits.isEmpty || rest.head?.any Char.isDigit then none
  else Numeral.ending? (mark ++ digits) false rest

/-- The number at the start of a text. -/
def number? (cs : List Char) : Option Numeral :=
  match cs with
  | '0' :: m :: rest =>
      if m = 'x' || m = 'X' then radix? 16 ['0', m] rest
      else if m = 'o' || m = 'O' then radix? 8 ['0', m] rest
      else if m = 'b' || m = 'B' then radix? 2 ['0', m] rest
      else decimal? cs
  | '.' :: rest => fractionEnd? ['.'] rest
  | _ => decimal? cs

end StateCoverage.Source
