import VisualNovel.Text.Digit

/-!
# Calendar

Dates and times of the proleptic Gregorian calendar, what makes one of them invalid, and their
literals. Two times with offsets from universal time are the same moment if they are the same
instant, whatever their offsets.
-/
namespace VisualNovel

open VisualNovel.Text

/-- A calendar date. -/
structure Day where
  year : Nat
  month : Nat
  day : Nat
deriving DecidableEq, Inhabited, Repr

/-- A time of a day; the offset from universal time is in seconds. -/
structure Moment where
  day : Day
  hour : Nat
  minute : Nat
  second : Nat
  microsecond : Nat
  offset : Option Int
deriving DecidableEq, Inhabited, Repr

/-- The part of a date or time that is out of range. -/
inductive CalendarProblem where
  | year (year : Nat)
  | month
  | day
  | hour
  | minute
  | second
  | offset (seconds : Int)
deriving DecidableEq, Repr

namespace Day

def isLeap (year : Nat) : Bool :=
  year % 4 = 0 && (year % 100 ≠ 0 || year % 400 = 0)

def daysIn (year month : Nat) : Nat :=
  if month = 2 then (if isLeap year then 29 else 28)
  else if month = 4 || month = 6 || month = 9 || month = 11 then 30
  else 31

def number (d : Day) : Nat :=
  let years := d.year - 1
  let months := (List.range (d.month - 1)).foldl (fun n m => n + daysIn d.year (m + 1)) 0
  years * 365 + years / 4 - years / 100 + years / 400 + months + d.day

def check (d : Day) : Except CalendarProblem Day :=
  if d.year = 0 then .error (.year d.year)
  else if d.month < 1 || 12 < d.month then .error .month
  else if d.day < 1 || daysIn d.year d.month < d.day then .error .day
  else .ok d

def numbers (d : Day) : String :=
  natText d.year ++ ", " ++ natText d.month ++ ", " ++ natText d.day

def literal (d : Day) : String :=
  "datetime.date(" ++ d.numbers ++ ")"

end Day

/-- A span of time as a literal: whole days, and the seconds that are left. -/
def spanLiteral (seconds : Int) : String :=
  let days := seconds / 86400
  let rest := seconds % 86400
  let parts :=
    (if days = 0 then [] else ["days=" ++ intText days]) ++
      (if rest = 0 then [] else ["seconds=" ++ intText rest])
  "datetime.timedelta(" ++ (if parts.isEmpty then "0" else String.intercalate ", " parts) ++ ")"

def CalendarProblem.message : CalendarProblem → String
  | .year y => "year " ++ natText y ++ " is out of range"
  | .month => "month must be in 1..12"
  | .day => "day is out of range for month"
  | .hour => "hour must be in 0..23"
  | .minute => "minute must be in 0..59"
  | .second => "second must be in 0..59"
  | .offset s =>
    "offset must be a timedelta strictly between -timedelta(hours=24) and timedelta(hours=24), not " ++
      spanLiteral s ++ "."

namespace Moment

def check (m : Moment) : Except CalendarProblem Moment := do
  let _ ← m.day.check
  if 23 < m.hour then throw .hour
  if 59 < m.minute then throw .minute
  if 59 < m.second then throw .second
  return m

/-- The microseconds from the start of the calendar, counted on the clock of the moment. -/
def clock (m : Moment) : Int :=
  (((m.day.number * 24 + m.hour) * 60 + m.minute) * 60 + m.second) * 1000000 + m.microsecond

/-- Whether two moments are the same. A moment with an offset is an instant; one without is a
reading of a clock, and no instant. -/
def same (m n : Moment) : Bool :=
  match m.offset, n.offset with
  | some a, some b => m.clock - a * 1000000 == n.clock - b * 1000000
  | none, none => m == n
  | _, _ => false

def offsetLiteral (seconds : Int) : String :=
  if seconds = 0 then "datetime.timezone.utc"
  else "datetime.timezone(" ++ spanLiteral seconds ++ ")"

/-- The literal of a moment. Seconds are left out if nothing is left of the minute. -/
def literal (m : Moment) : String :=
  let seconds :=
    if m.microsecond ≠ 0 then ", " ++ natText m.second ++ ", " ++ natText m.microsecond
    else if m.second ≠ 0 then ", " ++ natText m.second
    else ""
  let offset :=
    match m.offset with
    | some s => ", tzinfo=" ++ offsetLiteral s
    | none => ""
  "datetime.datetime(" ++ m.day.numbers ++ ", " ++ natText m.hour ++ ", " ++
    natText m.minute ++ seconds ++ offset ++ ")"

end Moment

end VisualNovel
