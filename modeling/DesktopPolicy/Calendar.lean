-- Dates of the Gregorian calendar, and moments: a date with a time of day and, where it is known,
-- the distance of the local time from universal time.
import DesktopPolicy.Decimal.Layout

namespace DesktopPolicy

open Decimal (padded)

structure Date where
  year : Nat
  month : Nat
  day : Nat
  deriving DecidableEq, Repr

/-- A date and a time of day. The offset is local time less universal time, in minutes. -/
structure Moment where
  date : Date
  hour : Nat
  minute : Nat
  second : Nat
  micro : Nat
  offset : Option Int
  deriving DecidableEq, Repr

inductive CalendarFault where
  | year (given : Nat)
  | month
  | day
  | hour
  | minute
  | second
  /-- A day or more away from universal time, in minutes. -/
  | offset (minutes : Int)
  deriving DecidableEq, Repr

/-! ## Spans of time -/

/-- A span of whole minutes: days that may be negative, and the seconds of a day behind them. -/
def spanText (minutes : Int) : String :=
  let days := minutes.fdiv 1440
  let seconds := minutes.fmod 1440 * 60
  let parts :=
    (if days == 0 then [] else ["days=" ++ toString days]) ++
    (if seconds == 0 then [] else ["seconds=" ++ toString seconds])
  "datetime.timedelta(" ++ (if parts.isEmpty then "0" else ", ".intercalate parts) ++ ")"

def CalendarFault.message : CalendarFault → String
  | .year given => "year " ++ toString given ++ " is out of range"
  | .month => "month must be in 1..12"
  | .day => "day is out of range for month"
  | .hour => "hour must be in 0..23"
  | .minute => "minute must be in 0..59"
  | .second => "second must be in 0..59"
  | .offset minutes =>
    "offset must be a timedelta strictly between -timedelta(hours=24) and timedelta(hours=24), not " ++
      spanText minutes ++ "."

/-! ## Dates -/

/-- Every fourth year has a day more; of the full centuries, only every fourth has. -/
def isLeap (year : Nat) : Bool :=
  year % 4 == 0 && (year % 100 != 0 || year % 400 == 0)

def daysIn (year month : Nat) : Nat :=
  if month == 2 then (if isLeap year then 29 else 28)
  else if month == 4 || month == 6 || month == 9 || month == 11 then 30
  else 31

/-- The date with these numbers, checked from the year down. -/
def Date.make (year month day : Nat) : Except CalendarFault Date :=
  if year == 0 || 9999 < year then .error (.year year)
  else if month == 0 || 12 < month then .error .month
  else if day == 0 || daysIn year month < day then .error .day
  else .ok ⟨year, month, day⟩

/-- How many days lie before a date, from the first day of year one. -/
def Date.number (d : Date) : Nat :=
  let past := d.year - 1
  let months := (List.range (d.month - 1)).map fun m => daysIn d.year (m + 1)
  past * 365 + past / 4 - past / 100 + past / 400 + months.foldl (· + ·) 0 + (d.day - 1)

def Date.text (d : Date) : String :=
  padded 4 d.year ++ "-" ++ padded 2 d.month ++ "-" ++ padded 2 d.day

def Date.shown (d : Date) : String :=
  "datetime.date(" ++ ", ".intercalate [toString d.year, toString d.month, toString d.day] ++ ")"

/-! ## Moments -/

/-- An offset is less than a day either way. -/
def offsetOf (minutes : Int) : Except CalendarFault Int :=
  if minutes.natAbs < 1440 then .ok minutes else .error (.offset minutes)

/-- The moment with these numbers; the date is checked first, then the time from the hour down. -/
def Moment.make (year month day hour minute second micro : Nat) (offset : Option Int) :
    Except CalendarFault Moment := do
  let date ← Date.make year month day
  if 23 < hour then .error .hour
  else if 59 < minute then .error .minute
  else if 59 < second then .error .second
  else .ok ⟨date, hour, minute, second, micro, offset⟩

/-- Microseconds since the start of year one, by the clock on the wall. -/
def Moment.local (m : Moment) : Int :=
  (((m.date.number * 24 + m.hour) * 60 + m.minute) * 60 + m.second) * 1000000 + m.micro

/-- Two moments are the same when both lack an offset and show the same time, or both have one and
are the same time everywhere. -/
def Moment.same (a b : Moment) : Bool :=
  match a.offset, b.offset with
  | none, none => a.local == b.local
  | some p, some q => a.local - p * 60000000 == b.local - q * 60000000
  | _, _ => false

def offsetText (minutes : Int) : String :=
  (if minutes < 0 then "-" else "+") ++ padded 2 (minutes.natAbs / 60) ++ ":" ++
    padded 2 (minutes.natAbs % 60)

/-- Date and time with a space between, the fraction only if there is one. -/
def Moment.text (m : Moment) : String :=
  m.date.text ++ " " ++ padded 2 m.hour ++ ":" ++ padded 2 m.minute ++ ":" ++ padded 2 m.second ++
    (if m.micro == 0 then "" else "." ++ padded 6 m.micro) ++
    (match m.offset with
      | none => ""
      | some minutes => offsetText minutes)

def offsetShown (minutes : Int) : String :=
  if minutes == 0 then "datetime.timezone.utc"
  else "datetime.timezone(" ++ spanText minutes ++ ")"

/-- The moment as it stands inside a collection. Seconds are left out when they and what is below
them are zero. -/
def Moment.shown (m : Moment) : String :=
  let seconds := if m.second == 0 && m.micro == 0 then [] else [m.second]
  let micros := if m.micro == 0 then [] else [m.micro]
  let numbers := [m.date.year, m.date.month, m.date.day, m.hour, m.minute] ++ seconds ++ micros
  let zone := match m.offset with
    | none => []
    | some minutes => ["tzinfo=" ++ offsetShown minutes]
  "datetime.datetime(" ++ ", ".intercalate (numbers.map toString ++ zone) ++ ")"

end DesktopPolicy
