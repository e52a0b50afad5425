/-!
# Shortest decimals

The fewest digits that read back as a given binary fraction.  A finite positive
double is `m · 2^q`; the reals that round to it form an interval around it,
with its ends if `m` is even.  For one digit, two digits and so on, the two
neighbours of the value on that decimal grid are tried; the first grid that has
one in the interval wins, and of two the nearer, a tie going to the even digit.
-/

namespace StateCoverage.Decimal

/-- A positive decimal `0.d₁d₂… · 10^point`. -/
structure Digits where
  digits : List Nat
  point : Int
  deriving Repr, DecidableEq

/-- The numerators, over one denominator, of a value and of the ends of the
interval of reals that round to it. -/
structure Interval where
  lower : Nat
  value : Nat
  upper : Nat
  denominator : Nat
  closed : Bool
  deriving Repr, DecidableEq

/-- The interval of `m · 2^q`; below a power of two the next double is only half
as far away. -/
def interval (m : Nat) (q : Int) (halved : Bool) : Interval :=
  let scale := Nat.pow 2 (q - 2).toNat
  { lower := (4 * m - if halved then 1 else 2) * scale
    value := 4 * m * scale
    upper := (4 * m + 2) * scale
    denominator := Nat.pow 2 (2 - q).toNat
    closed := m % 2 = 0 }

/-- Whether `n · 10^e` lies in the interval. -/
def Interval.contains (i : Interval) (n : Nat) (e : Int) : Bool :=
  let a := n * Nat.pow 10 e.toNat * i.denominator
  let b := Nat.pow 10 (-e).toNat
  let low := i.lower * b
  let high := i.upper * b
  if i.closed then low ≤ a && a ≤ high else low < a && a < high

/-- The number of decimal digits of a number. -/
def digitCount (n : Nat) : Nat := (Nat.toDigits 10 n).length

/-- The least `j` with `num · 10^j ≥ den`, looked for in so many steps. -/
def leadingZeros (num den : Nat) : Nat → Nat
  | 0 => 0
  | n + 1 => if den ≤ num then 0 else leadingZeros (num * 10) den n + 1

/-- The `point` with `10^(point-1) ≤ num/den < 10^point`. -/
def pointOf (num den : Nat) : Int :=
  if den ≤ num then digitCount (num / den)
  else 1 - (leadingZeros num den 400 : Int)

/-- The neighbour of the value on the grid with `count` digits that reads back,
if one does. -/
def onGrid? (i : Interval) (point : Int) (count : Nat) : Option (Nat × Int) :=
  let e := point - count
  let num := i.value * Nat.pow 10 (-e).toNat
  let den := i.denominator * Nat.pow 10 e.toNat
  let below := num / den
  let twice := 2 * (num % den)
  match i.contains below e, i.contains (below + 1) e with
  | true, true =>
      if twice < den || (twice = den && below % 2 = 0) then some (below, e)
      else some (below + 1, e)
  | true, false => some (below, e)
  | false, true => some (below + 1, e)
  | false, false => none

/-- The digits of `n · 10^e` without trailing zeros. -/
def Digits.ofGrid (n : Nat) (e : Int) : Digits :=
  let ds := (Nat.toDigits 10 n).map fun c => c.toNat - 48
  let shown := (ds.reverse.dropWhile (· = 0)).reverse
  ⟨shown, e + ds.length⟩

/-- The shortest decimal of a positive interval. -/
def shortest (i : Interval) : Digits :=
  let point := pointOf i.value i.denominator
  match (List.range 17).findSome? fun n => onGrid? i point (n + 1) with
  | some (n, e) => .ofGrid n e
  | none => ⟨[], 0⟩

/-- How a number is spelled around its digits. -/
structure Style where
  /-- Positional where the point lies above this -/
  above : Int
  /-- and not beyond this. -/
  upTo : Int
  infinity : String
  notANumber : String

/-- A digit as a character. -/
def digitText (d : Nat) : String := String.ofList (Nat.toDigits 10 d)

/-- Positional where four zeros or fewer follow the point and at most sixteen
digits stand before it; a whole number keeps `.0`. -/
def Style.standard : Style := ⟨-4, 16, "inf", "nan"⟩

/-- A positive number in a style. -/
def Digits.render (style : Style) (d : Digits) : String :=
  let text := fun ds => String.join (ds.map digitText)
  if style.above < d.point && d.point ≤ style.upTo then
    if d.point ≤ 0 then
      "0." ++ String.ofList (List.replicate (-d.point).toNat '0') ++ text d.digits
    else
      let whole := d.point.toNat
      let front := d.digits.take whole
      let zeros := String.ofList (List.replicate (whole - front.length) '0')
      let back := d.digits.drop whole
      text front ++ zeros ++ "." ++ (if back.isEmpty then "0" else text back)
  else
    let exponent := d.point - 1
    let size := exponent.natAbs
    let back := d.digits.drop 1
    text (d.digits.take 1) ++ (if back.isEmpty then "" else "." ++ text back) ++ "e"
      ++ (if exponent < 0 then "-" else "+") ++ (if size < 10 then "0" else "") ++ toString size

/-- The text of a double in a style. -/
def render (style : Style) (x : Float) : String :=
  let bits := x.toBits.toNat
  let sign := if bits / Nat.pow 2 63 = 1 then "-" else ""
  let biased : Nat := bits / Nat.pow 2 52 % Nat.pow 2 11
  let fraction : Nat := bits % Nat.pow 2 52
  if biased = 2047 then
    if fraction = 0 then sign ++ style.infinity else style.notANumber
  else if biased = 0 && fraction = 0 then sign ++ "0.0"
  else
    let i :=
      if biased = 0 then interval fraction (-1074) false
      else interval (fraction + Nat.pow 2 52) ((biased : Int) - 1075) (fraction = 0 && 1 < biased)
    sign ++ (shortest i).render style

end StateCoverage.Decimal
