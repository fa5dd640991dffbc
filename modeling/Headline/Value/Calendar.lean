/-!
# Dates and times

Calendar dates from year 1 to year 9999, and moments on them with microseconds and,
possibly, a distance from universal time. The makers refuse what the calendar does not
hold and name the first field that is out of range.
-/

namespace Headline

structure Date where
  year : Nat
  month : Nat
  day : Nat
deriving Repr, DecidableEq

structure Moment where
  date : Date
  hour : Nat
  minute : Nat
  second : Nat
  micro : Nat
  /-- seconds ahead of universal time, where known -/
  offset : Option Int
deriving Repr, DecidableEq

/-- Which field of a date or time is out of range. -/
inductive CalendarFault where
  | year (n : Nat)
  | month
  | day
  | hour
  | minute
  | second
  /-- a distance from universal time of a day or more, in seconds -/
  | offset (seconds : Int)
deriving Repr, DecidableEq

namespace Date

def isLeap (year : Nat) : Bool := year % 4 == 0 && (year % 100 != 0 || year % 400 == 0)

def daysIn (year month : Nat) : Nat :=
  if month = 2 then (if isLeap year then 29 else 28)
  else if month = 4 || month = 6 || month = 9 || month = 11 then 30
  else 31

def make (year month day : Nat) : Except CalendarFault Date :=
  if year < 1 || 9999 < year then .error (.year year)
  else if month < 1 || 12 < month then .error .month
  else if day < 1 || daysIn year month < day then .error .day
  else .ok ⟨year, month, day⟩

/-- Days since the first day of year 1. -/
def dayNumber (d : Date) : Nat :=
  let y := d.year - 1
  y * 365 + y / 4 - y / 100 + y / 400 +
    (List.range (d.month - 1)).foldl (fun n m => n + daysIn d.year (m + 1)) 0 + (d.day - 1)

end Date

/-- A number in at least `width` decimal digits. -/
def paddedNat (width n : Nat) : String :=
  let ds := Nat.toDigits 10 n
  String.ofList (List.replicate (width - ds.length) '0' ++ ds)

namespace Date

/-- The date as year, month and day between hyphens. -/
def iso (d : Date) : String :=
  s!"{paddedNat 4 d.year}-{paddedNat 2 d.month}-{paddedNat 2 d.day}"

end Date

/-- A span of seconds as whole days and the rest, which is never negative. -/
def daysAndSeconds (seconds : Int) : Int × Int := (Int.fdiv seconds 86400, Int.fmod seconds 86400)

/-- A span of seconds as it is shown in messages. -/
def spanText (seconds : Int) : String :=
  let (days, rest) := daysAndSeconds seconds
  if days = 0 && rest = 0 then "datetime.timedelta(0)"
  else if days = 0 then s!"datetime.timedelta(seconds={rest})"
  else if rest = 0 then s!"datetime.timedelta(days={days})"
  else s!"datetime.timedelta(days={days}, seconds={rest})"

namespace CalendarFault

def message : CalendarFault → String
  | year n => s!"year {n} is out of range"
  | month => "month must be in 1..12"
  | day => "day is out of range for month"
  | hour => "hour must be in 0..23"
  | minute => "minute must be in 0..59"
  | second => "second must be in 0..59"
  | offset seconds =>
    "offset must be a timedelta strictly between -timedelta(hours=24) and timedelta(hours=24), " ++
      s!"not {spanText seconds}"

end CalendarFault

namespace Moment

/-- The moment of a date and a time of day. The distance from universal time is
checked first, then the date, then the time. -/
def make (year month day hour minute second micro : Nat) (offset : Option Int) :
    Except CalendarFault Moment := do
  match offset with
  | some s => if s.natAbs ≥ 86400 then throw (.offset s)
  | none => pure ()
  let date ← Date.make year month day
  if hour > 23 then throw .hour
  if minute > 59 then throw .minute
  if second > 59 then throw .second
  return ⟨date, hour, minute, second, micro, offset⟩

/-- Microseconds since the start of year 1, by the clock of the moment itself. -/
def clock (m : Moment) : Int :=
  (((m.date.dayNumber * 24 + m.hour) * 60 + m.minute) * 60 + m.second : Nat) * 1000000 + m.micro

/-- Microseconds since the start of year 1 in universal time, where the distance is
known, and by the moment's own clock otherwise. -/
def instant (m : Moment) : Int := m.clock - m.offset.getD 0 * 1000000

/-- A distance from universal time as hours and minutes, with seconds if there are any. -/
def offsetText (seconds : Int) : String :=
  let n := seconds.natAbs
  let sign := if seconds < 0 then "-" else "+"
  let hm := s!"{sign}{paddedNat 2 (n / 3600)}:{paddedNat 2 (n / 60 % 60)}"
  if n % 60 = 0 then hm else s!"{hm}:{paddedNat 2 (n % 60)}"

/-- Date and time of day with `between` between them. -/
def isoWith (between : String) (m : Moment) : String :=
  let time := s!"{paddedNat 2 m.hour}:{paddedNat 2 m.minute}:{paddedNat 2 m.second}"
  let fraction := if m.micro = 0 then "" else s!".{paddedNat 6 m.micro}"
  m.date.iso ++ between ++ time ++ fraction ++ (m.offset.map offsetText).getD ""

/-- The moment in the standard notation. -/
def iso (m : Moment) : String := isoWith "T" m

end Moment

end Headline
