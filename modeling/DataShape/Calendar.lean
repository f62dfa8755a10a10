-- SUMMARY: Calendar dates, times of day and offsets from universal time: validity, order of faults, and texts.
import DataShape.Text.Basic

/-!
# Dates and times

Dates are those of the Gregorian calendar in the years 1 to 9999. A moment has
a time of day to the microsecond and may have an offset from universal time.
Two moments with offsets are the same when they denote one instant; a moment
without an offset is never the same as one with an offset.
-/

namespace DataShape

-- ---------------------------------------------------------------------------
-- Faults
-- ---------------------------------------------------------------------------

inductive CalendarFault where
  | year (given : Nat)
  | month
  | day
  | hour
  | minute
  | second
  /-- An offset of a day or more, in minutes. -/
  | offset (minutes : Int)
  deriving DecidableEq, Repr

-- ---------------------------------------------------------------------------
-- Dates
-- ---------------------------------------------------------------------------

def isLeapYear (year : Nat) : Bool :=
  year % 4 = 0 && (year % 100 ≠ 0 || year % 400 = 0)

def daysInMonth (year month : Nat) : Nat :=
  match month with
  | 2 => if isLeapYear year then 29 else 28
  | 4 | 6 | 9 | 11 => 30
  | _ => 31

structure Date where
  year : Nat
  month : Nat
  day : Nat
  deriving DecidableEq, Repr

namespace Date

/-- The date, or the first of its fields that is out of range. -/
def make (year month day : Nat) : Except CalendarFault Date :=
  if year < 1 ∨ 9999 < year then .error (.year year)
  else if month < 1 ∨ 12 < month then .error .month
  else if day < 1 ∨ daysInMonth year month < day then .error .day
  else .ok ⟨year, month, day⟩

/-- The number of days from the start of year 1. -/
def ordinal (d : Date) : Nat :=
  let past := d.year - 1
  past * 365 + past / 4 - past / 100 + past / 400
    + (List.range (d.month - 1)).foldl (fun days m => days + daysInMonth d.year (m + 1)) 0
    + d.day

/-- Year, month and day between hyphens. -/
def text (d : Date) : Text :=
  Text.decimal 4 d.year ++ "-" ++ Text.decimal 2 d.month ++ "-" ++ Text.decimal 2 d.day

def inspect (d : Date) : Text :=
  "datetime.date(" ++ Text.joinWith ", " ([d.year, d.month, d.day].map Text.ofNat) ++ ")"

end Date

-- ---------------------------------------------------------------------------
-- Spans and offsets
-- ---------------------------------------------------------------------------

/-- A span of minutes, shown as whole days and the seconds left over. -/
def inspectSpan (minutes : Int) : Text :=
  let days := Int.fdiv minutes 1440
  let seconds := Int.fmod minutes 1440 * 60
  let parts : List Text :=
    (if days = 0 then [] else ["days=" ++ Text.ofInt days])
      ++ (if seconds = 0 then [] else ["seconds=" ++ Text.ofInt seconds])
  let shown : Text := if parts.isEmpty then "0" else Text.joinWith ", " parts
  "datetime.timedelta(" ++ shown ++ ")"

/-- An offset from universal time, in minutes. -/
structure Offset where
  minutes : Int
  deriving DecidableEq, Repr

namespace Offset

def utc : Offset := ⟨0⟩

def make (minutes : Int) : Except CalendarFault Offset :=
  if minutes.natAbs < 1440 then .ok ⟨minutes⟩ else .error (.offset minutes)

def text (o : Offset) : Text :=
  (if o.minutes < 0 then "-" else "+")
    ++ Text.decimal 2 (o.minutes.natAbs / 60) ++ ":" ++ Text.decimal 2 (o.minutes.natAbs % 60)

def inspect (o : Offset) : Text :=
  if o.minutes = 0 then "datetime.timezone.utc"
  else "datetime.timezone(" ++ inspectSpan o.minutes ++ ")"

end Offset

-- ---------------------------------------------------------------------------
-- Moments
-- ---------------------------------------------------------------------------

structure Moment where
  date : Date
  hour : Nat
  minute : Nat
  second : Nat
  microsecond : Nat
  offset : Option Offset
  deriving DecidableEq, Repr

namespace Moment

/-- The moment, or the first of its fields that is out of range. -/
def make (date : Except CalendarFault Date) (hour minute second microsecond : Nat)
    (offset : Option Offset) : Except CalendarFault Moment := do
  let date ← date
  if 23 < hour then throw .hour
  if 59 < minute then throw .minute
  if 59 < second then throw .second
  return ⟨date, hour, minute, second, microsecond, offset⟩

/-- Microseconds on the clock since the start of year 1. -/
def clock (m : Moment) : Int :=
  (((m.date.ordinal * 24 + m.hour) * 60 + m.minute) * 60 + m.second) * 1000000 + m.microsecond

/-- Whether two moments are the same instant, or show the same clock if neither has an offset. -/
def same (a b : Moment) : Bool :=
  match a.offset, b.offset with
  | none, none => a.clock = b.clock
  | some o, some p => a.clock - o.minutes * 60000000 = b.clock - p.minutes * 60000000
  | _, _ => false

def text (m : Moment) : Text :=
  m.date.text ++ " " ++ Text.joinWith ":" ([m.hour, m.minute, m.second].map (Text.decimal 2))
    ++ (if m.microsecond = 0 then [] else Text.ofString "." ++ Text.decimal 6 m.microsecond)
    ++ (m.offset.map Offset.text).getD ""

/-- Seconds are shown only if they or the microseconds are not zero, microseconds only if they are
not. -/
def inspect (m : Moment) : Text :=
  let fields := [m.date.year, m.date.month, m.date.day, m.hour, m.minute]
    ++ (if m.microsecond ≠ 0 then [m.second, m.microsecond]
        else if m.second ≠ 0 then [m.second] else [])
  "datetime.datetime(" ++ Text.joinWith ", " (fields.map Text.ofNat)
    ++ (match m.offset with
        | some o => Text.ofString ", tzinfo=" ++ o.inspect
        | none => [])
    ++ ")"

end Moment

namespace CalendarFault

def message : CalendarFault → Text
  | .year given => "year " ++ Text.ofNat given ++ " is out of range"
  | .month => "month must be in 1..12"
  | .day => "day is out of range for month"
  | .hour => "hour must be in 0..23"
  | .minute => "minute must be in 0..59"
  | .second => "second must be in 0..59"
  | .offset minutes =>
    "offset must be a timedelta strictly between -timedelta(hours=24) and timedelta(hours=24), not "
      ++ inspectSpan minutes ++ "."

end CalendarFault

end DataShape
