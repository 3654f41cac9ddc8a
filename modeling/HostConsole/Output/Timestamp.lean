/-!
# Timestamps

Server timestamps carry a date, a time of day, perhaps a fraction of the second and an offset
from universal time. What is kept of a timestamp is its moment in universal time and the offset of
the place that tells of it. It is shown as the date and the time of day at that place.

## Main definitions

* `Date`, `Moment`: a day of the calendar and a time on it, with `Moment.shift`
* `Timestamp`, `Timestamp.read?`: a moment told at a place, and its text
* `showTimestamp`: a timestamp as it is shown; any other text is shown as it is
-/

namespace HostConsole.Output

/-! ## Digits -/

/-- The number that decimal digits denote. -/
def digitsValue (cs : List Char) : Nat :=
  cs.foldl (fun n c => n * 10 + (c.toNat - 48)) 0

/-- The last decimal digits of a number, so many of them. -/
def lastDigits : Nat → Nat → List Char
  | 0, _ => []
  | count + 1, n => lastDigits count (n / 10) ++ [Nat.digitChar (n % 10)]

/-- Takes so many decimal digits. -/
def takeDigits? (count : Nat) (cs : List Char) : Option (List Char × List Char) :=
  let digits := cs.take count
  if digits.length = count ∧ digits.all Char.isDigit then some (digits, cs.drop count) else none

/-- Takes the number of so many decimal digits. -/
def takeNumber? (count : Nat) (cs : List Char) : Option (Nat × List Char) :=
  (takeDigits? count cs).map fun (digits, rest) => (digitsValue digits, rest)

/-- Takes one character of a kind. -/
def takeOne? (p : Char → Bool) : List Char → Option (List Char)
  | [] => none
  | c :: rest => if p c then some rest else none

/-! ## The calendar -/

/-- A day of the calendar, which has years before the first one too. -/
structure Date where
  year : Int
  month : Nat
  day : Nat
  deriving DecidableEq, Repr

/-- Is the year one with a leap day? -/
def isLeapYear (year : Int) : Bool :=
  year % 4 == 0 && (year % 100 != 0 || year % 400 == 0)

/-- How many days a month has. -/
def daysOfMonth (year : Int) (month : Nat) : Nat :=
  match month with
  | 1 | 3 | 5 | 7 | 8 | 10 | 12 => 31
  | 4 | 6 | 9 | 11 => 30
  | 2 => if isLeapYear year then 29 else 28
  | _ => 0

namespace Date

/-- Is there such a day? -/
def isValid (d : Date) : Bool :=
  1 ≤ d.month && d.month ≤ 12 && 1 ≤ d.day && d.day ≤ daysOfMonth d.year d.month

/-- The day after. -/
def next (d : Date) : Date :=
  if d.day < daysOfMonth d.year d.month then { d with day := d.day + 1 }
  else if d.month < 12 then { d with month := d.month + 1, day := 1 }
  else { year := d.year + 1, month := 1, day := 1 }

/-- The day before. -/
def previous (d : Date) : Date :=
  if 1 < d.day then { d with day := d.day - 1 }
  else if 1 < d.month then
    { d with month := d.month - 1, day := daysOfMonth d.year (d.month - 1) }
  else { year := d.year - 1, month := 12, day := 31 }

/-- Reads a day. -/
def read? (cs : List Char) : Option (Date × List Char) := do
  let (year, cs) ← takeNumber? 4 cs
  let cs ← takeOne? (· == '-') cs
  let (month, cs) ← takeNumber? 2 cs
  let cs ← takeOne? (· == '-') cs
  let (day, cs) ← takeNumber? 2 cs
  let date : Date := { year, month, day }
  if date.isValid then some (date, cs) else none

end Date

/-! ## Moments -/

/-- Passes over a fraction, which needs a digit behind its point. -/
def skipFraction? : List Char → Option (List Char)
  | '.' :: rest =>
    let digits := rest.takeWhile Char.isDigit
    if digits.isEmpty then none else some (rest.drop digits.length)
  | cs => some cs

/-- The seconds of a day, leap seconds not counted. -/
def secondsOfDay : Nat := 86400

/-- A time on a day. -/
structure Moment where
  date : Date
  /-- The second of the day. -/
  second : Nat
  /-- Is it the leap second behind that one? -/
  isLeap : Bool
  deriving DecidableEq, Repr

namespace Moment

/-- The moment of a date and a clock. The sixtieth second of a minute is a leap second behind the
one before. -/
def ofClock (date : Date) (hour minute second : Nat) : Moment :=
  { date
    second := hour * 3600 + minute * 60 + min second 59
    isLeap := second == 60 }

/-- What a clock shows so many seconds on, or back, less than a day of them. A leap second stays
one. -/
def shift (m : Moment) (seconds : Int) : Moment :=
  let total := m.second + seconds
  { m with
    date :=
      if total < 0 then m.date.previous
      else if secondsOfDay ≤ total then m.date.next
      else m.date
    second := (total % secondsOfDay).toNat }

/-- Reads the time of day on a date, with a fraction that is passed over. -/
def read? (date : Date) (cs : List Char) : Option (Moment × List Char) := do
  let (hour, cs) ← takeNumber? 2 cs
  let cs ← takeOne? (· == ':') cs
  let (minute, cs) ← takeNumber? 2 cs
  let cs ← takeOne? (· == ':') cs
  let (second, cs) ← takeNumber? 2 cs
  let cs ← skipFraction? cs
  if hour ≤ 23 && minute ≤ 59 && second ≤ 60 then some (ofClock date hour minute second, cs)
  else none

/-- The date with slashes and the time of day with colons. -/
def render (m : Moment) : List Char :=
  lastDigits 4 m.date.year.toNat ++ '/' :: lastDigits 2 m.date.month ++
    '/' :: lastDigits 2 m.date.day ++ ' ' :: (lastDigits 2 (m.second / 3600) ++
      ':' :: lastDigits 2 (m.second / 60 % 60) ++
      ':' :: lastDigits 2 (m.second % 60 + m.isLeap.toNat))

end Moment

/-! ## Timestamps -/

/-- A moment of universal time, told at a place that is so many seconds ahead of it. -/
structure Timestamp where
  moment : Moment
  offset : Int
  deriving DecidableEq, Repr

/-- The direction of a sign: ahead of universal time, or behind it. The minus may also be the
mathematical one. -/
def direction? (sign : Char) : Option Int :=
  if sign = '+' then some 1
  else if sign = '-' ∨ sign = '\u2212' then some (-1)
  else none

/-- The seconds of hours and minutes with a colon between them. -/
def distance? (cs : List Char) : Option Nat := do
  let (hours, cs) ← takeNumber? 2 cs
  let cs ← takeOne? (· == ':') cs
  let (minutes, cs) ← takeNumber? 2 cs
  if cs.isEmpty && hours ≤ 23 && minutes ≤ 59 then some ((hours * 60 + minutes) * 60) else none

/-- The seconds of an offset: the letter for none, or a sign with hours and minutes. -/
def offset? : List Char → Option Int
  | [] => none
  | sign :: cs =>
    if cs.isEmpty && (sign == 'Z' || sign == 'z') then some 0
    else do
      let direction ← direction? sign
      let seconds ← distance? cs
      return direction * seconds

namespace Timestamp

/-- The timestamp of a moment as a clock at the place shows it. -/
def ofShown (shown : Moment) (offset : Int) : Timestamp :=
  { moment := shown.shift (-offset), offset }

/-- The moment as a clock at the place shows it. -/
def shown (t : Timestamp) : Moment :=
  t.moment.shift t.offset

/-- Reads a timestamp. -/
def read? (cs : List Char) : Option Timestamp := do
  let (date, cs) ← Date.read? cs
  let cs ← takeOne? (fun c => c == 'T' || c == 't' || c == ' ') cs
  let (shown, cs) ← Moment.read? date cs
  let offset ← offset? cs
  return ofShown shown offset

end Timestamp

/-- A timestamp as it is shown; any other text is shown as it is. -/
def showTimestamp (raw : String) : String :=
  match Timestamp.read? raw.toList with
  | some t => .ofList t.shown.render
  | none => raw

end HostConsole.Output
