import StateCoverage.Text.Digit
import StateCoverage.Text.Identifier

/-!
# Numerals

Reads the number that a whole text writes.  Blanks may stand around it and a
sign before it, and its digits may be those of any script.

* `readInteger` — an integer in a base, perhaps after the mark of the base.
* `readFloat?` — the float nearest to a decimal number, an infinity or no number.
-/

namespace StateCoverage.Text

/-- Whether a character of ASCII is a blank around a number. -/
def isNumberBlank (c : Char) : Bool := (9 ≤ c.toNat && c.toNat ≤ 13) || c = ' '

/-- The blanks beyond ASCII. -/
def wideBlanks : List CodeRange :=
  [(0x85, 0x85), (0xa0, 0xa0), (0x1680, 0x1680), (0x2000, 0x200a), (0x2028, 0x2029),
   (0x202f, 0x202f), (0x205f, 0x205f), (0x3000, 0x3000)]

/-- A text with the blanks and digits of all scripts in ASCII.  It is cut short,
with a mark that no number has, at the first other character beyond ASCII. -/
def inAscii : List Char → List Char
  | [] => []
  | c :: cs =>
      if c.toNat < 127 then c :: inAscii cs
      else if inRanges wideBlanks c.toNat then ' ' :: inAscii cs
      else match decimalDigit? c with
        | some d => Nat.digitChar d :: inAscii cs
        | none => ['?']

/-- A text without its sign, and whether that is a minus. -/
def splitSign (cs : List Char) : Bool × List Char :=
  match cs with
  | '-' :: rest => (true, rest)
  | '+' :: rest => (false, rest)
  | _ => (false, cs)

/-! ## Integers -/

/-- Why a text is no integer. -/
inductive NumeralFault where
  | noNumber
  /-- It has more digits than are converted. -/
  | tooLong (count : Nat)
  deriving Repr, DecidableEq, Inhabited

/-- The most decimal digits that are converted. -/
def mostDigits : Nat := 4300

/-- The complaint about a number with too many digits. -/
def tooLongMessage (count : Nat) : String :=
  s!"Exceeds the limit ({mostDigits} digits) for integer string conversion: value has {count} digits; use sys.set_int_max_str_digits() to increase the limit"

/-- The letter that marks a base after a zero. -/
def baseMark? (base : Nat) : Option Char :=
  [(2, 'b'), (8, 'o'), (16, 'x')].lookup base

/-- A text without the mark of a base. -/
def dropBaseMark (base : Nat) : List Char → List Char
  | '0' :: m :: cs => if baseMark? base = some m.toLower then cs else '0' :: m :: cs
  | cs => cs

/-- The integer that a text writes in a base. -/
def readInteger (base : Nat) (cs : List Char) : Except NumeralFault Int :=
  let (isNegative, unsigned) := splitSign ((inAscii cs).dropWhile isNumberBlank)
  let body := dropBaseMark base unsigned
  let digits := body.takeWhile (isDigitIn base)
  let after := body.drop digits.length
  if base = 10 && mostDigits < digits.length then .error (.tooLong digits.length)
  else if digits.isEmpty || !after.all isNumberBlank then .error .noNumber
  else .ok (if isNegative then -(numberIn base digits : Int) else numberIn base digits)

/-! ## Floats -/

/-- The float nearest to a decimal number.  Beyond four hundred places before or
after the point there are only infinity and zero. -/
def nearestFloat (digits : List Char) (exponent : Int) : Float :=
  let significant := digits.dropWhile (· = '0')
  let size := significant.length + exponent
  if significant.isEmpty || size < -400 then 0.0
  else if 400 < size then 1.0 / 0.0
  else Float.ofScientific (numberIn 10 significant) (exponent < 0) exponent.natAbs

/-- The float that an unsigned text writes. -/
def unsignedFloat? (cs : List Char) : Option Float :=
  let whole := cs.takeWhile Char.isDigit
  let (fraction, rest) := match cs.drop whole.length with
    | '.' :: more => (more.takeWhile Char.isDigit, more.dropWhile Char.isDigit)
    | rest => ([], rest)
  if whole.isEmpty && fraction.isEmpty then
    let word := String.ofList (cs.map Char.toLower)
    if word = "inf" || word = "infinity" then some (1.0 / 0.0)
    else if word = "nan" then some (0.0 / 0.0)
    else none
  else
    let number (exponent : Int) := nearestFloat (whole ++ fraction) (exponent - fraction.length)
    match rest with
    | [] => some (number 0)
    | e :: power =>
        let (isNegative, ds) := splitSign power
        if (e = 'e' || e = 'E') && !ds.isEmpty && ds.all Char.isDigit then
          some (number (if isNegative then -(numberIn 10 ds : Int) else numberIn 10 ds))
        else none

/-- The float that a text writes. -/
def readFloat? (cs : List Char) : Option Float :=
  let start := (inAscii cs).dropWhile isNumberBlank
  let body := (start.reverse.dropWhile isNumberBlank).reverse
  let (isNegative, unsigned) := splitSign body
  (unsignedFloat? unsigned).map fun x => if isNegative then -x else x

end StateCoverage.Text
