import StateCoverage.Settings.Value
import StateCoverage.Text.Digit
import StateCoverage.Yaml.Stream

/-!
# Dates in YAML

A date is a day, or a day and a clock time with an optional fraction of a second
and an optional zone.

* `dateText?` — the parts of a text that has the form of a date.
* `dateValue` — the day or the moment that a text writes.
-/

namespace StateCoverage.Yaml

open StateCoverage.Text

/-- A text without the line feed at its end. -/
def withoutLineFeed (cs : List Char) : List Char :=
  if cs.getLast? = some '\n' then cs.dropLast else cs

/-! ## Forms -/

/-- Between `least` and `most` digits at the start of a text, and the rest. -/
def digits? (least most : Nat) (cs : List Char) : Option (List Char × List Char) :=
  let ds := (cs.take most).takeWhile Char.isDigit
  if least ≤ ds.length then some (ds, cs.drop ds.length) else none

/-- A given character at the start of a text, and the rest. -/
def char? (c : Char) : List Char → Option (List Char)
  | d :: rest => if d = c then some rest else none
  | [] => none

/-- The parts of a date as written: year, month and day, and a clock time with
an optional fraction and zone. -/
structure DateText where
  year : List Char
  month : List Char
  day : List Char
  clock? : Option (List Char × List Char × List Char)
  fraction : List Char
  /-- The minutes east of universal time. -/
  zone? : Option Int

/-- Whether a character separates words on a line. -/
def isWordSpace (c : Char) : Bool := c = ' ' || c = '\t'

/-- The zone at the end of a date. -/
def zone? (cs : List Char) : Option (Option Int) :=
  match cs with
  | [] => some none
  | _ =>
      match cs.dropWhile isWordSpace with
      | ['Z'] => some (some 0)
      | s :: rest =>
          if s = '+' || s = '-' then do
            let (hours, rest) ← digits? 1 2 rest
            let minutes ← match rest with
              | [] => some []
              | _ => do
                  let (ms, rest) ← digits? 2 2 (← char? ':' rest)
                  if rest.isEmpty then some ms else none
            let total : Int := numberIn 10 hours * 60 + numberIn 10 minutes
            return some (if s = '-' then -total else total)
          else none
      | [] => none

/-- The clock time at the end of a date. -/
def clock? (cs : List Char) :
    Option ((List Char × List Char × List Char) × List Char × Option Int) := do
  let (hour, rest) ← digits? 1 2 cs
  let (minute, rest) ← digits? 2 2 (← char? ':' rest)
  let (second, rest) ← digits? 2 2 (← char? ':' rest)
  let (fraction, rest) := match rest with
    | '.' :: more => (more.takeWhile Char.isDigit, more.dropWhile Char.isDigit)
    | _ => ([], rest)
  return ((hour, minute, second), fraction, ← zone? rest)

/-- The parts of a text that has the form of a date; a line feed may follow. -/
def dateText? (cs : List Char) : Option DateText := do
  let (year, rest) ← digits? 4 4 (withoutLineFeed cs)
  let (month, rest) ← digits? 1 2 (← char? '-' rest)
  let (day, rest) ← digits? 1 2 (← char? '-' rest)
  match rest with
  | [] => return ⟨year, month, day, none, [], none⟩
  | c :: more =>
      let start ←
        if c = 'T' || c = 't' then some more
        else if isWordSpace c then some (more.dropWhile isWordSpace)
        else none
      let (clock, fraction, zone?) ← clock? start
      return ⟨year, month, day, some clock, fraction, zone?⟩

/-- Whether a plain text is taken for a date: month and day have two digits
unless a clock time follows. -/
def isDate (cs : List Char) : Bool :=
  match dateText? cs with
  | some d => d.clock?.isSome || (d.month.length = 2 && d.day.length = 2)
  | none => false

/-! ## Values -/

/-- Checks the parts of a date. -/
def checkDate (d : Date) : Except Fault Unit :=
  if d.year = 0 then .error (.badScalar "year 0 is out of range")
  else if d.month < 1 || 12 < d.month then .error (.badScalar "month must be in 1..12")
  else if d.day < 1 || daysIn d.year d.month < d.day then
    .error (.badScalar "day is out of range for month")
  else .ok ()

/-- Checks the parts of a clock time. -/
def checkClock (hour minute second : Nat) : Except Fault Unit :=
  if 23 < hour then .error (.badScalar "hour must be in 0..23")
  else if 59 < minute then .error (.badScalar "minute must be in 0..59")
  else if 59 < second then .error (.badScalar "second must be in 0..59")
  else .ok ()

/-- A length of time in minutes as written in code. -/
def minutesShown (minutes : Int) : String :=
  let days := minutes.fdiv 1440
  let seconds := (minutes.fmod 1440) * 60
  let parts := (if days = 0 then [] else [s!"days={days}"])
    ++ (if seconds = 0 then [] else [s!"seconds={seconds}"])
  "datetime.timedelta(" ++ ", ".intercalate parts ++ ")"

/-- Checks that a zone is less than a day away from universal time. -/
def checkZone (zone? : Option Int) : Except Fault Unit :=
  match zone? with
  | some z =>
      if 1440 ≤ z.natAbs then
        .error (.badScalar s!"offset must be a timedelta strictly between -timedelta(hours=24) and timedelta(hours=24), not {minutesShown z}.")
      else .ok ()
  | none => .ok ()

/-- The date, or the moment, that a text writes. -/
def dateValue (s : String) : Except Fault Value := do
  let some t := dateText? s.toList | throw .noDate
  let date : Date := ⟨numberIn 10 t.year, numberIn 10 t.month, numberIn 10 t.day⟩
  match t.clock? with
  | none =>
      checkDate date
      return .date date
  | some (h, m, s) =>
      let micro := (t.fraction.take 6) ++ List.replicate (6 - (t.fraction.take 6).length) '0'
      checkZone t.zone?
      checkDate date
      checkClock (numberIn 10 h) (numberIn 10 m) (numberIn 10 s)
      return .timestamp ⟨date, numberIn 10 h, numberIn 10 m, numberIn 10 s, numberIn 10 micro, t.zone?⟩

end StateCoverage.Yaml
