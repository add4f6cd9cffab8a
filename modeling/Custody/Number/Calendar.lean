/-!
# Dates and times of day

Dates follow the Gregorian calendar from year 1 to year 9999.  A moment is a date
with a time of day and, optionally, an offset from universal time, which is
shorter than a day in either direction.
-/

namespace Custody

/-- A calendar date. -/
structure Date where
  /-- The year. -/
  year : Nat
  /-- The month, counted from one. -/
  month : Nat
  /-- The day of the month, counted from one. -/
  day : Nat
  deriving DecidableEq, Inhabited

/-- Why numbers do not make a date or a time of day. -/
inductive CalendarFault where
  /-- The year is zero or too large. -/
  | year (value : Nat)
  /-- There is no such month. -/
  | month
  /-- The month has no such day. -/
  | day
  /-- There is no such hour. -/
  | hour
  /-- There is no such minute. -/
  | minute
  /-- There is no such second. -/
  | second
  /-- The offset, in seconds, is a day or more. -/
  | offset (seconds : Int)
  deriving DecidableEq, Inhabited

namespace Date

/-- Every fourth year is a leap year, except centuries that 400 does not divide. -/
def isLeap (year : Nat) : Bool :=
  year % 4 = 0 && (year % 100 ≠ 0 || year % 400 = 0)

/-- The number of days of a month. -/
def daysIn (year month : Nat) : Nat :=
  if month = 2 then if isLeap year then 29 else 28
  else if month = 4 ∨ month = 6 ∨ month = 9 ∨ month = 11 then 30
  else 31

/-- A date from its numbers, checked from the year to the day. -/
def make (year month day : Nat) : Except CalendarFault Date :=
  if year < 1 ∨ 9999 < year then .error (.year year)
  else if month < 1 ∨ 12 < month then .error .month
  else if day < 1 ∨ daysIn year month < day then .error .day
  else .ok ⟨year, month, day⟩

/-- The days before a year. -/
def daysBefore (year : Nat) : Nat :=
  (year - 1) * 365 + (year - 1) / 4 - (year - 1) / 100 + (year - 1) / 400

/-- The position of a date among all days. -/
def ordinal (date : Date) : Nat :=
  daysBefore date.year +
    (List.range (date.month - 1)).foldl (fun days month => days + daysIn date.year (month + 1)) 0 +
    date.day

end Date

/-- A date with a time of day. -/
structure Moment where
  /-- The date. -/
  date : Date
  /-- The hour. -/
  hour : Nat
  /-- The minute. -/
  minute : Nat
  /-- The second. -/
  second : Nat
  /-- The millionths of a second. -/
  micro : Nat
  /-- The offset from universal time in seconds. -/
  offset : Option Int
  deriving DecidableEq, Inhabited

namespace Moment

/-- A moment from its numbers; the offset is checked first, then the date, then the time. -/
def make
    (year month day hour minute second micro : Nat)
    (offset : Option Int) : Except CalendarFault Moment := do
  match offset with
  | some seconds =>
      if 86400 ≤ seconds.natAbs then throw (.offset seconds)
  | none => pure ()
  let date ← Date.make year month day
  if 24 ≤ hour then throw .hour
  if 60 ≤ minute then throw .minute
  if 60 ≤ second then throw .second
  return ⟨date, hour, minute, second, micro, offset⟩

/-- Seconds since the first day, in universal time if there is an offset. -/
def instant (moment : Moment) : Int :=
  (moment.date.ordinal * 86400 + moment.hour * 3600 + moment.minute * 60 + moment.second : Nat) -
    moment.offset.getD 0

/-- Two moments agree when both or neither have an offset and they are the same instant. -/
def agrees (left right : Moment) : Bool :=
  left.offset.isSome = right.offset.isSome && left.instant = right.instant &&
    left.micro = right.micro

end Moment

namespace Calendar

/-- A number filled up with zeros. -/
def padded (width number : Nat) : String :=
  let digits := Nat.toDigits 10 number
  String.ofList (List.replicate (width - digits.length) '0' ++ digits)

/-- The sign, hours and minutes of an offset. -/
def offsetText (seconds : Int) : String :=
  let magnitude := seconds.natAbs
  (if seconds < 0 then "-" else "+") ++ padded 2 (magnitude / 3600) ++ ":" ++
    padded 2 (magnitude / 60 % 60)

end Calendar

/-- A date as year, month and day. -/
def Date.shown (date : Date) : String :=
  Calendar.padded 4 date.year ++ "-" ++ Calendar.padded 2 date.month ++ "-" ++
    Calendar.padded 2 date.day

/-- A moment as date, time, fraction if any, and offset if any. -/
def Moment.shown (moment : Moment) : String :=
  moment.date.shown ++ " " ++ Calendar.padded 2 moment.hour ++ ":" ++
    Calendar.padded 2 moment.minute ++ ":" ++ Calendar.padded 2 moment.second ++
    (if moment.micro = 0 then "" else "." ++ Calendar.padded 6 moment.micro) ++
    (match moment.offset with
      | some seconds => Calendar.offsetText seconds
      | none => "")

/-- The written form of a span of seconds: whole days first, the rest non-negative. -/
def Calendar.spanWritten (seconds : Int) : String :=
  let days := seconds.fdiv 86400
  let rest := seconds.fmod 86400
  let parts :=
    (if days = 0 then [] else ["days=" ++ toString days]) ++
      (if rest = 0 then [] else ["seconds=" ++ toString rest])
  "datetime.timedelta(" ++ (if parts.isEmpty then "0" else String.intercalate ", " parts) ++ ")"

/-- The written form of a date. -/
def Date.written (date : Date) : String :=
  "datetime.date(" ++ toString date.year ++ ", " ++ toString date.month ++ ", " ++
    toString date.day ++ ")"

/-- The written form of a moment; trailing zero seconds and fractions are left out. -/
def Moment.written (moment : Moment) : String :=
  let numbers := [moment.date.year, moment.date.month, moment.date.day, moment.hour, moment.minute]
  let numbers :=
    if moment.micro ≠ 0 then numbers ++ [moment.second, moment.micro]
    else if moment.second ≠ 0 then numbers ++ [moment.second]
    else numbers
  let zone :=
    match moment.offset with
    | none => []
    | some seconds =>
        if seconds = 0 then ["tzinfo=datetime.timezone.utc"]
        else ["tzinfo=datetime.timezone(" ++ Calendar.spanWritten seconds ++ ")"]
  "datetime.datetime(" ++ String.intercalate ", " (numbers.map toString ++ zone) ++ ")"

/-- The text of a calendar fault. -/
def CalendarFault.message : CalendarFault → String
  | .year value => "year " ++ toString value ++ " is out of range"
  | .month => "month must be in 1..12"
  | .day => "day is out of range for month"
  | .hour => "hour must be in 0..23"
  | .minute => "minute must be in 0..59"
  | .second => "second must be in 0..59"
  | .offset seconds =>
      "offset must be a timedelta strictly between -timedelta(hours=24) and " ++
        "timedelta(hours=24), not " ++ Calendar.spanWritten seconds ++ "."

end Custody
