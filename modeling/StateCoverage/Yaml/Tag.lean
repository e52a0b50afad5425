import StateCoverage.Text.Numeral
import StateCoverage.Yaml.Date

/-!
# Tags

A tag says what kind of value a node has.  Where none is written, the form of the
text implies one: a word for a truth value or for nothing, an integer in one of
several bases, a float, a date, the mark of a merge or of a default value.

* `Tag.implied?` — the tag that a plain text has by its form.
-/

namespace StateCoverage.Yaml

open StateCoverage.Text

/-- The tags that are known. -/
inductive Tag where
  | null
  | bool
  | int
  | float
  | binary
  | timestamp
  | text
  | sequence
  | mapping
  | set
  | orderedMapping
  | pairs
  | merge
  | defaultValue
  deriving Repr, DecidableEq, Inhabited

/-- The tag with a given name. -/
def Tag.ofName? (name : String) : Option Tag :=
  [("null", null), ("bool", bool), ("int", int), ("float", float), ("binary", binary),
   ("timestamp", timestamp), ("str", text), ("seq", sequence), ("map", mapping), ("set", set),
   ("omap", orderedMapping), ("pairs", pairs), ("merge", merge),
   ("value", defaultValue)].lookup name

/-- The start of the names of all known tags. -/
def tagStart : String := "tag:yaml.org,2002:"

/-- The tag that a full name gives. -/
def Tag.ofFullName? (name : String) : Option Tag :=
  if name.startsWith tagStart then Tag.ofName? (String.ofList (name.toList.drop tagStart.length))
  else none

/-! ## Forms of numbers -/

/-- Whether a text is empty or has only characters of some kind. -/
def isRun (p : Char → Bool) (cs : List Char) : Bool := cs.all p

/-- Whether a character is a digit or the underscore between digits. -/
def isDigitOrLine (c : Char) : Bool := c.isDigit || c = '_'

/-- The parts of a text between colons. -/
def colonParts (cs : List Char) : List (List Char) :=
  (String.ofList cs).splitOn ":" |>.map String.toList

/-- Whether a text counts up to fifty-nine: one digit, or two of which the first
is at most five. -/
def isSixtieth : List Char → Bool
  | [d] => d.isDigit
  | [t, d] => '0' ≤ t && t ≤ '5' && d.isDigit
  | _ => false

/-- Whether a text starts with a digit and goes on with digits and lines. -/
def isNumberRun : List Char → Bool
  | c :: cs => c.isDigit && isRun isDigitOrLine cs
  | [] => false

/-- Whether a text is such a run that starts with no zero. -/
def isLeadingRun (cs : List Char) : Bool :=
  isNumberRun cs && cs.head? ≠ some '0'

/-- Whether a text has the form of an integer. -/
def isInteger (cs : List Char) : Bool :=
  match (splitSign cs).2 with
  | '0' :: 'b' :: ds => !ds.isEmpty && isRun (fun c => c = '0' || c = '1' || c = '_') ds
  | '0' :: 'x' :: ds => !ds.isEmpty && isRun (fun c => isDigitIn 16 c || c = '_') ds
  | '0' :: ds => isRun (fun c => isDigitIn 8 c || c = '_') ds
  | ds =>
      match colonParts ds with
      | [] => false
      | first :: rest => isLeadingRun first && rest.all isSixtieth

/-- Whether a text is empty or an exponent with a sign. -/
def isExponent : List Char → Bool
  | [] => true
  | e :: s :: ds => (e = 'e' || e = 'E') && (s = '+' || s = '-') && !ds.isEmpty && isRun Char.isDigit ds
  | _ => false

/-- Whether a text is a fraction, digits and lines, with an optional exponent. -/
def isFraction (cs : List Char) : Bool :=
  isExponent (cs.dropWhile isDigitOrLine)

/-- Whether a text has the form of a float. -/
def isFloat (cs : List Char) : Bool :=
  let unsigned := (splitSign cs).2
  let whole := unsigned.takeWhile (· ≠ '.')
  match unsigned.drop whole.length with
  | [] => false
  | _ :: fraction =>
      if whole.isEmpty then
        [".inf", ".Inf", ".INF"].contains (String.ofList unsigned)
          || [".nan", ".NaN", ".NAN"].contains (String.ofList cs)
          || (cs.head? = some '.' && fraction.head?.any Char.isDigit && isFraction fraction)
      else
        match colonParts whole with
        | [run] => isNumberRun run && isFraction fraction
        | run :: rest => isNumberRun run && rest.all isSixtieth && isRun isDigitOrLine fraction
        | [] => false

/-! ## Forms of all texts -/

/-- Words for truth values. -/
def truthWords : List (String × Bool) :=
  [("yes", true), ("no", false), ("true", true), ("false", false), ("on", true), ("off", false)]

/-- Whether a text is a word for a truth value, in small letters, in capitals or
with a capital at the start. -/
def isTruthWord (s : String) : Bool :=
  truthWords.any fun (w, _) => s = w || s = w.toUpper || s = w.capitalize

/-- The tag that a text without a line feed at its end has by its form.  The
marks of other nodes have none that is known. -/
def Tag.ofForm? (cs : List Char) : Option Tag :=
  let s := String.ofList cs
  if isTruthWord s then some .bool
  else if isFloat cs then some .float
  else if isInteger cs then some .int
  else if s = "<<" then some .merge
  else if ["", "~", "null", "Null", "NULL"].contains s then some .null
  else if isDate cs then some .timestamp
  else if s = "=" then some .defaultValue
  else if ["!", "&", "*"].contains s then none
  else some .text

/-- The tag that a text implies.  A line feed may follow its form, but alone it
is a text. -/
def Tag.implied? (text : String) : Option Tag :=
  if text = "\n" then some .text else Tag.ofForm? (withoutLineFeed text.toList)

end StateCoverage.Yaml
