/-
Dates and times of day as settings can hold them.

A moment is a date, a time of day, or both; a date with a time may also say how far its clock is
from universal time.  Every moment has two texts: `constructed`, which names its parts the way a
programmer would write it down, and `iso`, the usual one.
-/
import ComputeNodes.Number.Written

namespace ComputeNodes

structure Date where
  year : Nat
  month : Nat
  day : Nat
  deriving DecidableEq, Repr

structure TimeOfDay where
  hour : Nat
  minute : Nat
  second : Nat
  microsecond : Nat
  deriving DecidableEq, Repr

/-- A date, a time of day, or both. -/
inductive Moment where
  | date (date : Date)
  | time (time : TimeOfDay)
  /-- A date with a time, and the minutes its clock is ahead of universal time where it says so. -/
  | dateTime (date : Date) (time : TimeOfDay) (ahead : Option Int)
  deriving DecidableEq, Repr

namespace Date

/-- Whether a year of the Gregorian calendar has a 29th of February. -/
def isLeap (year : Nat) : Bool := year % 4 == 0 && (year % 100 != 0 || year % 400 == 0)

/-- How many days a month has. -/
def daysIn (year month : Nat) : Nat :=
  if month = 2 then if isLeap year then 29 else 28
  else if month = 4 ∨ month = 6 ∨ month = 9 ∨ month = 11 then 30 else 31

/-- Whether the calendar has this date; its years begin with 1. -/
def isValid (d : Date) : Bool :=
  1 ≤ d.year && 1 ≤ d.month && d.month ≤ 12 && 1 ≤ d.day && d.day ≤ daysIn d.year d.month

/-- The year of a day, which is counted from the first of January 1970.  Four hundred years, from
one first of March to another, are a period of the calendar. -/
def yearOfDay (day : Int) : Int :=
  let days := day + 719468
  let period := days.fdiv 146097
  let rest := days - period * 146097
  let year := (rest - rest / 1460 + rest / 36524 - rest / 146096) / 365
  let dayOfYear := rest - (365 * year + year / 4 - year / 100)
  let month := (5 * dayOfYear + 2) / 153
  period * 400 + year + (if month < 10 then 0 else 1)

def parts (d : Date) : List Nat := [d.year, d.month, d.day]

def iso (d : Date) : String :=
  padded 4 d.year ++ "-" ++ padded 2 d.month ++ "-" ++ padded 2 d.day

end Date

namespace TimeOfDay

/-- Hour and minute, then the second and the microsecond as far as they are needed. -/
def parts (t : TimeOfDay) : List Nat :=
  if t.microsecond ≠ 0 then [t.hour, t.minute, t.second, t.microsecond]
  else if t.second ≠ 0 then [t.hour, t.minute, t.second]
  else [t.hour, t.minute]

def iso (t : TimeOfDay) : String :=
  let clock := padded 2 t.hour ++ ":" ++ padded 2 t.minute ++ ":" ++ padded 2 t.second
  if t.microsecond = 0 then clock else clock ++ "." ++ padded 6 t.microsecond

end TimeOfDay

namespace Moment

/-- The word for what kind of moment this is. -/
def typeName : Moment → String
  | .date _ => "date"
  | .time _ => "time"
  | .dateTime .. => "datetime"

/-- A call with its arguments. -/
def call (name : String) (arguments : List String) : String :=
  name ++ "(" ++ ", ".intercalate arguments ++ ")"

/-- The zone of a clock: whole days down to the floor and seconds above them, zeros left out. -/
def zone (ahead : Int) : String :=
  if ahead = 0 then "datetime.timezone.utc"
  else
    let days := ahead.fdiv 1440
    let seconds := ahead.fmod 1440 * 60
    let part (name : String) (n : Int) : List String :=
      if n = 0 then [] else [name ++ "=" ++ toString n]
    let length := part "days" days ++ part "seconds" seconds
    call "datetime.timezone" [call "datetime.timedelta" length]

/-- The text that names every part. -/
def constructed : Moment → String
  | .date d => call "datetime.date" (d.parts.map toString)
  | .time t => call "datetime.time" (t.parts.map toString)
  | .dateTime d t ahead =>
    let zoned := match ahead with
      | none => []
      | some minutes => ["tzinfo=" ++ zone minutes]
    call "datetime.datetime" ((d.parts ++ t.parts).map toString ++ zoned)

/-- The usual text. -/
def iso : Moment → String
  | .date d => d.iso
  | .time t => t.iso
  | .dateTime d t ahead =>
    d.iso ++ " " ++ t.iso ++
      match ahead with
      | none => ""
      | some minutes =>
        (if minutes < 0 then "-" else "+") ++ padded 2 (minutes.natAbs / 60) ++ ":"
          ++ padded 2 (minutes.natAbs % 60)

end Moment

end ComputeNodes
