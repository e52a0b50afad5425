import StateCoverage.Text.Lowercase
import StateCoverage.Yaml.Tag

/-!
# Values of scalars

The value that a text has under a tag.  The text need not have the form that
would imply the tag.

* `scalarValue` — the value of a text under the tag of a scalar.
-/

namespace StateCoverage.Yaml

open StateCoverage.Text

/-! ## Words and numbers -/

/-- The truth value of a word, in capitals or not. -/
def truthValue (s : String) : Except Fault Bool :=
  match truthWords.lookup (String.ofList (lowercase s.toList)) with
  | some b => .ok b
  | none => .error .noTruthValue

/-- The most characters of a text that a complaint about it shows. -/
def mostShown : Nat := 200

/-- An integer in a base, or the complaint about a text that is none. -/
def integerIn (base : Nat) (cs : List Char) : Except Fault Int :=
  match readInteger base cs with
  | .ok n => .ok n
  | .error (.tooLong count) => .error (.badScalar (tooLongMessage count))
  | .error .noNumber =>
      let shown := String.ofList ((quoted (String.ofList cs)).toList.take mostShown)
      .error (.badScalar s!"invalid literal for int() with base {base}: {shown}")

/-- Parts in base sixty, the smallest first. -/
def sixtieths (parts : List Int) : Int :=
  parts.foldr (fun p n => p + 60 * n) 0

/-- The integer that a text writes: binary, hexadecimal, octal, in base sixty
with colons, or decimal. -/
def integerValue (s : String) : Except Fault Int := do
  let (isNegative, ds) := splitSign (s.toList.filter (· ≠ '_'))
  let n ← match ds with
    | [] => throw .emptyNumber
    | ['0'] => pure 0
    | '0' :: 'b' :: bits => integerIn 2 bits
    | '0' :: 'x' :: hex => integerIn 16 hex
    | '0' :: _ => integerIn 8 ds
    | _ =>
        if ds.contains ':' then pure (sixtieths (← (colonParts ds).mapM (integerIn 10)).reverse)
        else integerIn 10 ds
  return if isNegative then -n else n

/-- A float, or the complaint about a text that is none. -/
def floatIn (cs : List Char) : Except Fault Float :=
  match readFloat? cs with
  | some x => .ok x
  | none => .error (.badScalar s!"could not convert string to float: {quoted (String.ofList cs)}")

/-- The float nearest to a whole number, which must not be beyond the floats. -/
def wholeFloat (n : Nat) : Except Fault Float :=
  let x := Float.ofNat n
  if x.isInf then .error .tooLarge else .ok x

/-- The sum of parts in base sixty, the smallest first, with the unit of the
first of them. -/
def floatSixtieths (total : Float) (unit : Nat) : List Float → Except Fault Float
  | [] => .ok total
  | p :: ps => do floatSixtieths (total + p * (← wholeFloat unit)) (60 * unit) ps

/-- The text of a float as it is read: without lines between digits and in small
letters, its sign apart. -/
def floatText (s : String) : Bool × List Char :=
  splitSign (lowercase (s.toList.filter (· ≠ '_')))

/-- Whether a text is the name of no number. -/
def isNotANumber (s : String) : Bool := (floatText s).2 = ".nan".toList

/-- The float that a text writes: an infinity, no number, one in base sixty with
colons, or a decimal one. -/
def floatValue (s : String) : Except Fault Float := do
  if s.toList.all (· = '_') then throw .emptyNumber
  let (isNegative, ds) := floatText s
  let sign : Float := if isNegative then -1.0 else 1.0
  if ds = ".inf".toList then return sign * (1.0 / 0.0)
  else if isNotANumber s then return 0.0 / 0.0
  else if ds.contains ':' then
    let parts ← (colonParts ds).mapM floatIn
    return sign * (← floatSixtieths 0.0 1 parts.reverse)
  else return sign * (← floatIn ds)

/-! ## Bytes -/

/-- The value of a digit in base sixty-four. -/
def base64Value? (c : Char) : Option Nat :=
  if 'A' ≤ c && c ≤ 'Z' then some (c.toNat - 65)
  else if 'a' ≤ c && c ≤ 'z' then some (c.toNat - 71)
  else if c.isDigit then some (c.toNat + 4)
  else if c = '+' then some 62
  else if c = '/' then some 63
  else none

/-- The digits of a group in base sixty-four that were read so far, the last one
first, and the filling that was read since. -/
structure Base64Group where
  digits : List Nat
  fill : Nat

/-- The bytes that a text in base sixty-four stands for, four digits to three
bytes.  Other characters are passed over.  Filling completes a group that has
two digits or three, and ends the text; the text must not end inside a group. -/
def base64Bytes? (g : Base64Group) : List Char → Option (List UInt8)
  | [] => if g.digits.isEmpty then some [] else none
  | c :: cs =>
      if c = '=' then
        if g.digits.length < 2 then base64Bytes? g cs
        else if 4 ≤ g.digits.length + g.fill + 1 then some []
        else base64Bytes? { g with fill := g.fill + 1 } cs
      else match base64Value? c, g.digits with
        | none, _ => base64Bytes? g cs
        | some d, [] => base64Bytes? ⟨[d], 0⟩ cs
        | some d, [a] =>
            (base64Bytes? ⟨[d, a], 0⟩ cs).map ((a * 4 + d / 16).toUInt8 :: ·)
        | some d, [b, a] =>
            (base64Bytes? ⟨[d, b, a], 0⟩ cs).map ((b % 16 * 16 + d / 4).toUInt8 :: ·)
        | some d, b :: _ =>
            (base64Bytes? ⟨[], 0⟩ cs).map ((b % 4 * 64 + d).toUInt8 :: ·)

/-- The bytes that a text stands for, which must be ASCII. -/
def bytesValue (s : String) : Except Fault (List UInt8) :=
  if s.toList.all fun c => c.toNat < 128 then
    match base64Bytes? ⟨[], 0⟩ s.toList with
    | some bs => .ok bs
    | none => .error .malformed
  else .error .malformed

/-! ## Scalars -/

/-- The value of a text under a tag. -/
def scalarValue (tag : Tag) (text : String) : Except Fault Value :=
  match tag with
  | .null => return .null
  | .bool => return .bool (← truthValue text)
  | .int => return .int (← integerValue text)
  | .float => return .float (← floatValue text)
  | .binary => return .bytes (← bytesValue text)
  | .timestamp => dateValue text
  | .text => return .text text
  | _ => throw .malformed

end StateCoverage.Yaml
