/-! # Moments

A moment is a day of the calendar, or a time of a day that may say how far it is from universal
time. Days and times are checked when they are read, so that the months have their lengths and the
hours, minutes and seconds their bounds.
-/

namespace CodePrint

/-- A day of the calendar. -/
structure CalendarDay where
  year : Nat
  month : Nat
  day : Nat
deriving DecidableEq, Repr

/-- A time of a day. -/
structure ClockTime where
  hour : Nat
  minute : Nat
  second : Nat
  microsecond : Nat
deriving DecidableEq, Repr

/-- A day, or a time of a day with the minutes by which it is ahead of universal time, if that is
known. -/
inductive Moment where
  | day (day : CalendarDay)
  | time (day : CalendarDay) (clock : ClockTime) (ahead : Option Int)
deriving DecidableEq, Repr

/-- What is wrong with a moment. -/
inductive MomentFault where
  | year (given : Nat)
  | month
  | day
  | hour
  | minute
  | second
  /-- The distance from universal time, in minutes, is a day or more. -/
  | ahead (minutes : Int)
deriving DecidableEq, Repr

/-- A year with a leap day. -/
def isLeapYear (year : Nat) : Bool :=
  year % 4 == 0 && (year % 100 != 0 || year % 400 == 0)

/-- How many days a month has. -/
def daysInMonth (year month : Nat) : Nat :=
  if month = 2 then if isLeapYear year then 29 else 28
  else if month = 4 ∨ month = 6 ∨ month = 9 ∨ month = 11 then 30
  else 31

/-- The minutes of a day. -/
def minutesPerDay : Int :=
  1440

/-- The number in decimal digits, padded with zeros to a width. -/
def paddedNumber (width n : Nat) : String :=
  let digits := Nat.toDigits 10 n
  String.ofList (List.replicate (width - digits.length) '0' ++ digits)

/-- A stretch of minutes as whole days and seconds, the seconds not negative. -/
def stretchText (minutes : Int) : String :=
  let days := minutes / minutesPerDay
  let seconds := 60 * (minutes % minutesPerDay)
  let parts :=
    (if days = 0 then [] else [s!"days={days}"]) ++
      if seconds = 0 then [] else [s!"seconds={seconds}"]
  "datetime.timedelta(" ++ (if parts.isEmpty then "0" else ", ".intercalate parts) ++ ")"

/-- What is wrong, in words. -/
def MomentFault.message : MomentFault → String
  | .year given => s!"year {given} is out of range"
  | .month => "month must be in 1..12"
  | .day => "day is out of range for month"
  | .hour => "hour must be in 0..23"
  | .minute => "minute must be in 0..59"
  | .second => "second must be in 0..59"
  | .ahead minutes =>
    "offset must be a timedelta strictly between -timedelta(hours=24) and timedelta(hours=24), " ++
      "not " ++ stretchText minutes ++ "."

namespace CalendarDay

/-- What is wrong with a day: its year, then its month, then its day are looked at. -/
def fault? (date : CalendarDay) : Option MomentFault :=
  if date.year = 0 then some (.year date.year)
  else if date.month = 0 ∨ 12 < date.month then some .month
  else if date.day = 0 ∨ daysInMonth date.year date.month < date.day then some .day
  else none

/-- The day as text, from the year on. -/
def text (date : CalendarDay) : String :=
  "-".intercalate [paddedNumber 4 date.year, paddedNumber 2 date.month, paddedNumber 2 date.day]

/-- The numbers of a day. -/
def numbers (date : CalendarDay) : List Nat :=
  [date.year, date.month, date.day]

end CalendarDay

namespace ClockTime

/-- What is wrong with a time. -/
def fault? (clock : ClockTime) : Option MomentFault :=
  if 23 < clock.hour then some .hour
  else if 59 < clock.minute then some .minute
  else if 59 < clock.second then some .second
  else none

/-- The time as text; a fraction of a second is shown where there is one. -/
def text (clock : ClockTime) : String :=
  let fraction := if clock.microsecond = 0 then "" else "." ++ paddedNumber 6 clock.microsecond
  ":".intercalate [paddedNumber 2 clock.hour, paddedNumber 2 clock.minute,
    paddedNumber 2 clock.second] ++ fraction

/-- The numbers of a time: hour and minute always, seconds and their fraction as far as they are
needed. -/
def numbers (clock : ClockTime) : List Nat :=
  let fine :=
    if clock.microsecond ≠ 0 then [clock.second, clock.microsecond]
    else if clock.second ≠ 0 then [clock.second]
    else []
  [clock.hour, clock.minute] ++ fine

end ClockTime

namespace Moment

/-- What is wrong with a moment. The distance from universal time is looked at first. -/
def fault? : Moment → Option MomentFault
  | .day date => date.fault?
  | .time date clock ahead =>
    match ahead with
    | some minutes =>
      if minutes ≤ -minutesPerDay ∨ minutesPerDay ≤ minutes then some (.ahead minutes)
      else date.fault?.or clock.fault?
    | none => date.fault?.or clock.fault?

/-- A distance from universal time as text. -/
def aheadText (minutes : Int) : String :=
  let sign := if minutes < 0 then "-" else "+"
  sign ++ paddedNumber 2 (minutes.natAbs / 60) ++ ":" ++ paddedNumber 2 (minutes.natAbs % 60)

/-- The moment by itself. -/
def shown : Moment → String
  | .day date => date.text
  | .time date clock ahead => date.text ++ " " ++ clock.text ++ (ahead.map aheadText).getD ""

/-- The zone of a distance from universal time. -/
def zoneText (minutes : Int) : String :=
  if minutes = 0 then "tzinfo=datetime.timezone.utc"
  else "tzinfo=datetime.timezone(" ++ stretchText minutes ++ ")"

/-- The moment inside a list or a mapping. -/
def quoted : Moment → String
  | .day date => "datetime.date(" ++ ", ".intercalate (date.numbers.map toString) ++ ")"
  | .time date clock ahead =>
    let numbers := (date.numbers ++ clock.numbers).map toString
    "datetime.datetime(" ++ ", ".intercalate (numbers ++ (ahead.map zoneText).toList) ++ ")"

end Moment

end CodePrint
