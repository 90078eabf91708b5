/-!
# Moments

Days of the calendar, and times of day on them, which may say how far they are from universal time.
Parts that make no day or no time are told apart by the first of them that is out of its range.
-/

namespace WorkflowCheck

/-! ### Parts -/

/-- A day of the calendar. -/
structure Day where
  year : Nat
  month : Nat
  day : Nat
  deriving DecidableEq, Repr, Inhabited

/-- A time of day. -/
structure Clock where
  hour : Nat
  minute : Nat
  second : Nat
  microsecond : Nat
  deriving DecidableEq, Repr, Inhabited

/-- A day, or a time of day that may be known to be so many minutes ahead of universal time. -/
inductive Moment where
  | day (d : Day)
  | time (d : Day) (c : Clock) (ahead : Option Int)
  deriving DecidableEq, Repr, Inhabited

/-- Why parts make no moment. -/
inductive MomentFault where
  /-- The minutes ahead of universal time are a whole day or more. -/
  | offset (minutes : Int)
  | year (n : Nat)
  | month
  | day
  | hour
  | minute
  | second
  deriving DecidableEq, Repr

/-! ### The calendar -/

/-- Whether a year has a day more than others. -/
def isLeapYear (year : Nat) : Bool :=
  year % 4 == 0 && (year % 100 != 0 || year % 400 == 0)

/-- How many days a month has. -/
def daysOfMonth (year month : Nat) : Nat :=
  if month = 2 then if isLeapYear year then 29 else 28
  else if [4, 6, 9, 11].contains month then 30
  else 31

namespace Day

/-- The first part of a day that is out of its range. -/
def fault? (d : Day) : Option MomentFault :=
  if d.year < 1 ∨ 9999 < d.year then some (.year d.year)
  else if d.month < 1 ∨ 12 < d.month then some .month
  else if d.day < 1 ∨ daysOfMonth d.year d.month < d.day then some .day
  else none

/-- How many days of the calendar are before a day. -/
def number (d : Day) : Nat :=
  let past := d.year - 1
  (List.range (d.month - 1)).foldl (fun days m => days + daysOfMonth d.year (m + 1))
    (365 * past + past / 4 - past / 100 + past / 400 + (d.day - 1))

end Day

/-- The first part of a time that is out of its range. -/
def Clock.fault? (c : Clock) : Option MomentFault :=
  if 23 < c.hour then some .hour
  else if 59 < c.minute then some .minute
  else if 59 < c.second then some .second
  else none

/-- How many microseconds of its day are before a time. -/
def Clock.microseconds (c : Clock) : Nat :=
  ((c.hour * 60 + c.minute) * 60 + c.second) * 1000000 + c.microsecond

/-- The minutes of a whole day. -/
def minutesPerDay : Nat :=
  1440

namespace Moment

/-- The moment of parts, which must be in their ranges: the distance from universal time first, then
the day, then the time. -/
def ofParts (d : Day) (time : Option (Clock × Option Int)) : Except MomentFault Moment := do
  match time with
  | none =>
    if let some f := d.fault? then throw f
    return .day d
  | some (c, ahead) =>
    if let some minutes := ahead then
      if minutesPerDay ≤ minutes.natAbs then throw (.offset minutes)
    if let some f := d.fault? then throw f
    if let some f := c.fault? then throw f
    return .time d c ahead

/-- The microseconds since the first day of the calendar, by universal time if that is known. -/
def instant (d : Day) (c : Clock) (ahead : Int) : Int :=
  (d.number * minutesPerDay - ahead) * 60000000 + c.microseconds

/-- Whether two moments are the same: equal ones, and times that are the same by universal time. -/
def same : Moment → Moment → Bool
  | .time d c (some x), .time d' c' (some y) => instant d c x == instant d' c' y
  | a, b => decide (a = b)

/-! ### Texts -/

/-- A number filled up with zeros to a width. -/
def padded (width n : Nat) : String :=
  let digits := toString n
  String.ofList (List.replicate (width - digits.length) '0') ++ digits

/-- A day as digits between dashes. -/
def dayText (d : Day) : String :=
  padded 4 d.year ++ "-" ++ padded 2 d.month ++ "-" ++ padded 2 d.day

/-- A time as digits between colons, with a fraction when there is one. -/
def clockText (c : Clock) : String :=
  padded 2 c.hour ++ ":" ++ padded 2 c.minute ++ ":" ++ padded 2 c.second
    ++ (if c.microsecond = 0 then "" else "." ++ padded 6 c.microsecond)

/-- Minutes ahead of universal time as a sign, hours and minutes. -/
def aheadText (minutes : Int) : String :=
  (if minutes < 0 then "-" else "+") ++ padded 2 (minutes.natAbs / 60) ++ ":"
    ++ padded 2 (minutes.natAbs % 60)

/-- A moment as a text. -/
def text : Moment → String
  | .day d => dayText d
  | .time d c ahead => dayText d ++ " " ++ clockText c ++ (ahead.map aheadText).getD ""

/-- A span of minutes by its days and seconds, of which only the days may be negative. -/
def spanText (minutes : Int) : String :=
  let days := minutes / (minutesPerDay : Int)
  let seconds := minutes % (minutesPerDay : Int) * 60
  let parts := (if days = 0 then [] else ["days=" ++ toString days])
    ++ (if seconds = 0 then [] else ["seconds=" ++ toString seconds])
  "datetime.timedelta(" ++ (if parts.isEmpty then "0" else ", ".intercalate parts) ++ ")"

/-- The difference to universal time by name. -/
def zoneText (minutes : Int) : String :=
  if minutes = 0 then "datetime.timezone.utc"
  else "datetime.timezone(" ++ spanText minutes ++ ")"

/-- The parts of a time: no seconds when there are none, and no fraction when there is none. -/
def clockParts (c : Clock) : List Nat :=
  [c.hour, c.minute]
    ++ (if c.second = 0 ∧ c.microsecond = 0 then [] else [c.second])
    ++ (if c.microsecond = 0 then [] else [c.microsecond])

/-- A moment by its parts. -/
def partsText : Moment → String
  | .day d =>
    "datetime.date(" ++ ", ".intercalate ([d.year, d.month, d.day].map toString) ++ ")"
  | .time d c ahead =>
    let parts := ([d.year, d.month, d.day] ++ clockParts c).map toString
      ++ (ahead.map fun minutes => "tzinfo=" ++ zoneText minutes).toList
    "datetime.datetime(" ++ ", ".intercalate parts ++ ")"

end Moment

/-- The text of a fault. -/
def MomentFault.message : MomentFault → String
  | .offset minutes =>
    "offset must be a timedelta strictly between -timedelta(hours=24) and timedelta(hours=24), not "
      ++ Moment.spanText minutes ++ "."
  | .year n => "year " ++ toString n ++ " is out of range"
  | .month => "month must be in 1..12"
  | .day => "day is out of range for month"
  | .hour => "hour must be in 0..23"
  | .minute => "minute must be in 0..59"
  | .second => "second must be in 0..59"

end WorkflowCheck
