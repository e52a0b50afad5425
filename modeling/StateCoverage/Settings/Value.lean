import StateCoverage.Decimal.Shortest
import StateCoverage.Text.Numeral
import StateCoverage.Text.Quoted

/-!
# Values of a settings file

The values that a settings file can hold, and the two forms in which a message
shows one: as written in code (`Value.shown`) and as plain text (`Value.plain`).
A number with too many digits is never shown (`Value.isShowable`).
-/

namespace StateCoverage

/-- A day of the calendar. -/
structure Date where
  year : Nat
  month : Nat
  day : Nat
  deriving Repr, DecidableEq, Inhabited

/-- Whether a year has a day more in February. -/
def isLeapYear (year : Nat) : Bool :=
  year % 4 = 0 && (year % 100 ≠ 0 || year % 400 = 0)

/-- The number of days of a month. -/
def daysIn (year month : Nat) : Nat :=
  if month = 2 then (if isLeapYear year then 29 else 28)
  else if [4, 6, 9, 11].contains month then 30
  else 31

/-- A moment of a day, with the distance to universal time in minutes if known. -/
structure Timestamp where
  date : Date
  hour : Nat
  minute : Nat
  second : Nat
  microsecond : Nat
  offset? : Option Int
  deriving Repr, DecidableEq, Inhabited

/-- A value of a settings file. -/
inductive Value where
  | null
  | bool (b : Bool)
  | int (n : Int)
  | float (x : Float)
  | text (s : String)
  | bytes (bs : List UInt8)
  | date (d : Date)
  | timestamp (t : Timestamp)
  | list (items : List Value)
  | pair (first second : Value)
  | set (items : List Value)
  | mapping (entries : List (Value × Value))
  /-- A list or mapping that is not told: one inside itself, or one deeper than
  anyone asks for. -/
  | folded (isMapping : Bool)
  deriving Inhabited

/-- A number with leading zeros up to a width. -/
def padded (width n : Nat) : String :=
  let ds := Nat.toDigits 10 n
  String.ofList (List.replicate (width - ds.length) '0' ++ ds)

/-- `2020-01-02`. -/
def Date.plain (d : Date) : String :=
  s!"{padded 4 d.year}-{padded 2 d.month}-{padded 2 d.day}"

/-- The date as written in code. -/
def Date.shown (d : Date) : String :=
  s!"datetime.date({d.year}, {d.month}, {d.day})"

/-- The distance to universal time as written in code. -/
def offsetShown (minutes : Int) : String :=
  if minutes = 0 then "datetime.timezone.utc"
  else
    let days := if minutes < 0 then "days=-1, " else ""
    let seconds := if minutes < 0 then 86400 + minutes * 60 else minutes * 60
    s!"datetime.timezone(datetime.timedelta({days}seconds={seconds}))"

namespace Timestamp

/-- `2020-01-02 03:04:05.000006+07:00`. -/
def plain (t : Timestamp) : String :=
  let micro := if t.microsecond = 0 then "" else "." ++ padded 6 t.microsecond
  let offset := match t.offset? with
    | none => ""
    | some m =>
        let size := m.natAbs
        (if m < 0 then "-" else "+") ++ padded 2 (size / 60) ++ ":" ++ padded 2 (size % 60)
  let clock := s!"{padded 2 t.hour}:{padded 2 t.minute}:{padded 2 t.second}"
  t.date.plain ++ " " ++ clock ++ micro ++ offset

/-- The moment as written in code: seconds and microseconds only as far as they
are not zero. -/
def shown (t : Timestamp) : String :=
  let fine :=
    if t.microsecond ≠ 0 then s!", {t.second}, {t.microsecond}"
    else if t.second ≠ 0 then s!", {t.second}"
    else ""
  let zone := match t.offset? with
    | none => ""
    | some m => ", tzinfo=" ++ offsetShown m
  let d := t.date
  s!"datetime.datetime({d.year}, {d.month}, {d.day}, {t.hour}, {t.minute}{fine}{zone})"

end Timestamp

mutual

/-- The value as written in code. -/
def Value.shown : Value → String
  | .null => "None"
  | .bool true => "True"
  | .bool false => "False"
  | .int n => toString n
  | .float x => Decimal.render .standard x
  | .text s => Text.quoted s
  | .bytes bs => Text.quotedBytes bs
  | .date d => d.shown
  | .timestamp t => t.shown
  | .list items => "[" ++ ", ".intercalate (shownItems items) ++ "]"
  | .pair a b => "(" ++ a.shown ++ ", " ++ b.shown ++ ")"
  | .set [] => "set()"
  | .set items => "\x7b" ++ ", ".intercalate (shownItems items) ++ "\x7d"
  | .mapping entries => "\x7b" ++ ", ".intercalate (shownEntries entries) ++ "\x7d"
  | .folded true => "\x7b...\x7d"
  | .folded false => "[...]"

/-- The items of a list as written in code. -/
def shownItems : List Value → List String
  | [] => []
  | v :: vs => v.shown :: shownItems vs

/-- The entries of a mapping as written in code. -/
def shownEntries : List (Value × Value) → List String
  | [] => []
  | (k, v) :: es => (k.shown ++ ": " ++ v.shown) :: shownEntries es

end

mutual

/-- Whether a value can be shown: no number in it has too many digits. -/
def Value.isShowable : Value → Bool
  | .int n => n.natAbs < Nat.pow 10 Text.mostDigits
  | .list items | .set items => areShowable items
  | .pair a b => a.isShowable && b.isShowable
  | .mapping entries => entriesShowable entries
  | _ => true

/-- Whether all items can be shown. -/
def areShowable : List Value → Bool
  | [] => true
  | v :: vs => v.isShowable && areShowable vs

/-- Whether all entries can be shown. -/
def entriesShowable : List (Value × Value) → Bool
  | [] => true
  | (k, v) :: es => k.isShowable && v.isShowable && entriesShowable es

end

/-- The value as plain text: a text itself, and a moment as it is usually
written. -/
def Value.plain : Value → String
  | .text s => s
  | .date d => d.plain
  | .timestamp t => t.plain
  | v => v.shown

end StateCoverage
