import FilterCompiler.Number.Integer

/-! Days and moments of the civil calendar, and their text with the fields from the
largest to the smallest. A moment shows its microseconds only when there are some. Its clock
may be known to be ahead of universal time, in which case that is shown too, and then two
moments are the same when they are the same instant. -/

namespace FilterCompiler

structure Day where
  year : Nat
  month : Nat
  day : Nat
deriving DecidableEq, Repr, Inhabited

/-- A moment; `ahead` is how many microseconds its clock is ahead of universal time, if that is
known. -/
structure Moment where
  date : Day
  hour : Nat
  minute : Nat
  second : Nat
  microsecond : Nat
  ahead : Option Int := none
deriving DecidableEq, Repr, Inhabited

namespace Calendar

/-- A number filled up with zeros to a width. -/
def padded (width n : Nat) : String :=
  let ds := Integer.digits n
  String.ofList (List.replicate (width - ds.length) '0' ++ ds)

def isLeap (year : Nat) : Bool :=
  year % 4 == 0 && (year % 100 != 0 || year % 400 == 0)

def monthLength (year month : Nat) : Nat :=
  if month = 2 then (if isLeap year then 29 else 28)
  else if month = 4 ∨ month = 6 ∨ month = 9 ∨ month = 11 then 30
  else 31

inductive Problem where
  | year (given : Nat)
  | month
  | day
  | hour
  | minute
  | second
deriving DecidableEq, Repr

def Problem.message : Problem → String
  | year given => "year " ++ String.ofList (Integer.digits given) ++ " is out of range"
  | month => "month must be in 1..12"
  | day => "day is out of range for month"
  | hour => "hour must be in 0..23"
  | minute => "minute must be in 0..59"
  | second => "second must be in 0..59"

end Calendar

namespace Day

open Calendar

def make (year month day : Nat) : Except Problem Day :=
  if year = 0 ∨ 9999 < year then .error (.year year)
  else if month = 0 ∨ 12 < month then .error .month
  else if day = 0 ∨ monthLength year month < day then .error .day
  else .ok ⟨year, month, day⟩

def text (d : Day) : String :=
  padded 4 d.year ++ "-" ++ padded 2 d.month ++ "-" ++ padded 2 d.day

/-- The days of all years before one. -/
def yearStart (year : Nat) : Nat :=
  let y := year - 1
  y * 365 + y / 4 - y / 100 + y / 400

/-- The days of a year's months before one. -/
def monthStart (year month : Nat) : Nat :=
  (List.range (month - 1)).foldl (fun days n => days + monthLength year (n + 1)) 0

/-- The number of a day, counted from the first day of year 1, which is day 1. -/
def ordinal (d : Day) : Nat := yearStart d.year + monthStart d.year d.month + d.day

/-- The day after, at the end of a month the first of the next; the last day of all has none. -/
def next? (d : Day) : Option Day :=
  if d.day < monthLength d.year d.month then some { d with day := d.day + 1 }
  else if d.month < 12 then some ⟨d.year, d.month + 1, 1⟩
  else if d.year < 9999 then some ⟨d.year + 1, 1, 1⟩
  else none

end Day

namespace Moment

open Calendar

def make (date : Day) (hour minute second microsecond : Nat) (ahead : Option Int) :
    Except Problem Moment :=
  if 23 < hour then .error .hour
  else if 59 < minute then .error .minute
  else if 59 < second then .error .second
  else .ok ⟨date, hour, minute, second, microsecond, ahead⟩

/-- Microseconds of a second. -/
def perSecond : Nat := 1000000

def perDay : Nat := 86400 * perSecond

/-- How far a clock is ahead: a sign, hours and minutes, and what is left if anything is. -/
def aheadText (ahead : Int) : String :=
  let us := ahead.natAbs
  let s := us / perSecond
  (if ahead < 0 then "-" else "+") ++ padded 2 (s / 3600) ++ ":" ++ padded 2 (s / 60 % 60) ++
    (if us % (60 * perSecond) = 0 then "" else ":" ++ padded 2 (s % 60)) ++
    (if us % perSecond = 0 then "" else "." ++ padded 6 (us % perSecond))

def textWith (separator : String) (m : Moment) : String :=
  m.date.text ++ separator ++ padded 2 m.hour ++ ":" ++ padded 2 m.minute ++ ":" ++
    padded 2 m.second ++ (if m.microsecond = 0 then "" else "." ++ padded 6 m.microsecond) ++
    (m.ahead.map aheadText).getD ""

def text (m : Moment) : String := m.textWith " "

/-- Microseconds since the day before all days, by the moment's own clock. -/
def clockTime (m : Moment) : Int :=
  (m.date.ordinal * perDay : Nat) +
    (((m.hour * 60 + m.minute) * 60 + m.second) * perSecond + m.microsecond : Nat)

/-- Whether two moments are one: the same instant if it is known for both how far their clocks
are ahead, the same time on the clock if it is known for neither. -/
def same (m n : Moment) : Bool :=
  match m.ahead, n.ahead with
  | none, none => m.clockTime == n.clockTime
  | some a, some b => m.clockTime - a == n.clockTime - b
  | _, _ => false

/-- The moment a second later; there may be no later day. -/
def nextSecond? (m : Moment) : Option Moment :=
  if m.second < 59 then some { m with second := m.second + 1 }
  else if m.minute < 59 then some { m with second := 0, minute := m.minute + 1 }
  else if m.hour < 23 then some { m with second := 0, minute := 0, hour := m.hour + 1 }
  else m.date.next?.map fun d => { m with second := 0, minute := 0, hour := 0, date := d }

/-! ### Spans of time -/

/-- The arguments that a span of so many microseconds is shown with, those that are zero left
out: only its days are negative. -/
def spanText (us : Int) : String :=
  let days := us / (perDay : Int)
  let left := (us % (perDay : Int)).toNat
  let shown (name : String) (n : Int) : List String :=
    if n = 0 then [] else [name ++ "=" ++ Integer.text n]
  match shown "days" days ++ shown "seconds" (left / perSecond : Nat) ++
      shown "microseconds" (left % perSecond : Nat) with
  | [] => "datetime.timedelta(0)"
  | arguments => "datetime.timedelta(" ++ ", ".intercalate arguments ++ ")"

/-- The name of a clock that is ahead. -/
def zoneText (ahead : Int) : String :=
  if ahead = 0 then "datetime.timezone.utc" else "datetime.timezone(" ++ spanText ahead ++ ")"

/-- Whether a clock cannot be ahead so far. -/
def isTooFarAhead (ahead : Int) : Bool := perDay ≤ ahead.natAbs

end Moment

end FilterCompiler
