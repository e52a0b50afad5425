import StateCoverage.Settings.Value

/-!
# Equal keys

Which values are the same key of a mapping.  Numbers and truth values are
compared as exact numbers, and moments with a zone by the point in time.
-/

namespace StateCoverage.Yaml

/-- The whole number that a float is, if it is one. -/
def wholeNumber? (x : Float) : Option Int :=
  let bits := x.toBits.toNat
  let biased : Nat := bits / Nat.pow 2 52 % Nat.pow 2 11
  let fraction : Nat := bits % Nat.pow 2 52
  let (m, shift) : Nat × Int :=
    if biased = 0 then (fraction, -1074) else (fraction + Nat.pow 2 52, (biased : Int) - 1075)
  let scale := Nat.pow 2 (-shift).toNat
  if biased = 2047 || m % scale ≠ 0 then none
  else
    let size := m / scale * Nat.pow 2 shift.toNat
    some (if bits / Nat.pow 2 63 = 1 then -(size : Int) else size)

/-- The whole number that a value counts as among keys. -/
def keyNumber? : Value → Option Int
  | .bool b => some (if b then 1 else 0)
  | .int n => some n
  | .float x => wholeNumber? x
  | _ => none

/-- The days from the start of the first year to a date. -/
def dayNumber (d : Date) : Nat :=
  let years := d.year - 1
  let months := (List.range (d.month - 1)).map fun m => daysIn d.year (m + 1)
  years * 365 + years / 4 - years / 100 + years / 400 + months.foldl (· + ·) 0 + d.day

/-- The microseconds from the start of the first year to a moment, by its own
clock. -/
def clockTime (t : Timestamp) : Int :=
  let minutes := (dayNumber t.date * 24 + t.hour) * 60 + t.minute
  (minutes * 60 + t.second) * 1000000 + t.microsecond

/-- Whether two moments are the same.  One with a zone and one without are
not. -/
def sameMoment (s t : Timestamp) : Bool :=
  match s.offset?, t.offset? with
  | none, none => s = t
  | some a, some b => clockTime s - a * 60000000 = clockTime t - b * 60000000
  | _, _ => false

/-- Whether two values are the same key. -/
def sameKey (a b : Value) : Bool :=
  match a, b with
  | .null, .null => true
  | .text s, .text t => s = t
  | .bytes s, .bytes t => s = t
  | .date d, .date e => d = e
  | .timestamp s, .timestamp t => sameMoment s t
  | .float x, .float y => x == y
  | _, _ =>
      match keyNumber? a, keyNumber? b with
      | some m, some n => m = n
      | _, _ => false

end StateCoverage.Yaml
