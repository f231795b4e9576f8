import FilterCompiler.Calendar

/-! Days and moments in the notations of ISO 8601: years, months and days, or years, weeks and
weekdays, with marks between them or without; behind any one character a time, to the hour or
finer, and how far its clock is ahead. -/

namespace FilterCompiler

namespace Day

open Calendar (monthLength)

def ofOrdinal? (n : Nat) : Option Day :=
  (List.range 3).findSome? fun back =>
    let year := n / 365 + 1 - back
    if 0 < year ∧ year ≤ 9999 ∧ yearStart year < n ∧ n ≤ yearStart (year + 1) then
      (List.range 12).findSome? fun month =>
        let before := yearStart year + monthStart year (month + 1)
        if before < n ∧ n ≤ before + monthLength year (month + 1) then
          some ⟨year, month + 1, n - before⟩
        else none
    else none

end Day

namespace IsoText

/-- A number of just so many digits, and what follows it. -/
def digits? (count : Nat) (s : List Char) : Option (Nat × List Char) :=
  let ds := s.take count
  if ds.length = count ∧ ds.all Char.isDigit then some (Integer.ofDigits ds, s.drop count)
  else none

/-- What follows a given character. -/
def behind? (c : Char) : List Char → Option (List Char)
  | d :: rest => if d = c then some rest else none
  | [] => none

/-- The day of a year's week; the first week of a year is the one with its first Thursday. -/
def weekDay? (year week day : Nat) : Option Day :=
  let january := Day.yearStart year + 1
  let weekday := (january + 6) % 7
  let long := weekday = 3 ∨ (weekday = 2 ∧ Calendar.isLeap year)
  let first := if weekday ≤ 3 then january - weekday else january + 7 - weekday
  if year = 0 ∨ week = 0 ∨ 53 < week ∨ (week = 53 ∧ ¬ long) ∨ day = 0 ∨ 7 < day then none
  else Day.ofOrdinal? (first + 7 * (week - 1) + (day - 1))

/-- A day by its week, and what follows it. Without a weekday it is a Monday. `marked` tells
whether marks stand between the parts. -/
def week? (marked : Bool) (year : Nat) (s : List Char) : Option (Day × List Char) := do
  let (week, rest) ← digits? 2 s
  let day? := if marked then (behind? '-' rest).bind (digits? 1) else digits? 1 rest
  let run := (rest.takeWhile Char.isDigit).length
  let goesOn := if marked then (day?.bind fun d => d.2.head?).any Char.isDigit
    else 1 < run && run % 2 == 0
  match day? with
  | some (day, rest) =>
    if goesOn then return (← weekDay? year week 1, s.drop 2)
    else return (← weekDay? year week day, rest)
  | none => return (← weekDay? year week 1, rest)

def month? (marked : Bool) (year : Nat) (s : List Char) : Option (Day × List Char) := do
  let (month, s) ← digits? 2 s
  let (day, s) ← digits? 2 (← if marked then behind? '-' s else some s)
  return (← (Day.make year month day).toOption, s)

def day? (s : List Char) : Option (Day × List Char) := do
  let (year, s) ← digits? 4 s
  match s with
  | '-' :: 'W' :: rest => week? true year rest
  | '-' :: rest => month? true year rest
  | 'W' :: rest => week? false year rest
  | rest => month? false year rest

/-- Microseconds of the digits behind a point or comma. -/
def fraction? : List Char → Option Nat
  | [] => some 0
  | mark :: ds =>
    if (mark = '.' ∨ mark = ',') ∧ !ds.isEmpty ∧ ds.all Char.isDigit then
      some (Integer.ofDigits (ds.take 6 ++ List.replicate (6 - ds.length) '0'))
    else none

/-- Hours, minutes, seconds and microseconds. A fraction may follow whichever part is last. -/
def clock? (s : List Char) : Option (Nat × Nat × Nat × Nat) := do
  let (hour, s) ← digits? 2 s
  let marked := s.head? == some ':'
  let next? (s : List Char) : Option (Nat × List Char) :=
    if marked then (behind? ':' s).bind (digits? 2) else digits? 2 s
  match next? s with
  | none => return (hour, 0, 0, ← fraction? s)
  | some (minute, s) =>
    match next? s with
    | none => return (hour, minute, 0, ← fraction? s)
    | some (second, s) => return (hour, minute, second, ← fraction? s)

/-- How far a clock is ahead. -/
def zone? : List Char → Option (Option Int)
  | [] => some none
  | ['Z'] => some (some 0)
  | sign :: rest => do
    let (hour, minute, second, us) ← clock? rest
    let ahead := ((hour * 60 + minute) * 60 + second) * Moment.perSecond + us
    if (sign = '+' ∨ sign = '-') ∧ !Moment.isTooFarAhead ahead then
      return some (Integer.signed (sign == '-') ahead)
    else none

end IsoText

def Day.ofIso? (s : List Char) : Option Day :=
  match IsoText.day? s with
  | some (day, []) => some day
  | _ => none

/-- The moment that a text notes; a day alone is its beginning. -/
def Moment.ofIso? (s : List Char) : Option Moment := do
  match ← IsoText.day? s with
  | (day, []) => (Moment.make day 0 0 0 0 none).toOption
  | (day, _ :: time) =>
    let (clock, zone) := time.span fun c => !(c == '+' || c == '-' || c == 'Z')
    let (hour, minute, second, us) ← IsoText.clock? clock
    (Moment.make day hour minute second us (← IsoText.zone? zone)).toOption

end FilterCompiler
