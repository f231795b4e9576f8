import FilterCompiler.Fault
import FilterCompiler.Literal

/-! Stamps: days, and moments with the time behind the day, as they are written in markup. -/

namespace FilterCompiler.Markup

/-- The time of a stamp: hour, minute, second, the digits of the fraction, and how many minutes
the clock is ahead. -/
structure StampTime where
  hour : Nat
  minute : Nat
  second : Nat
  fraction : List Char := []
  ahead : Option Int := none

structure Stamp where
  year : Nat
  month : Nat
  day : Nat
  time : Option StampTime := none

namespace Stamp

/-- A number of at least `least` and at most `most` digits. -/
def readDigits (least most : Nat) (s : List Char) : Option (Nat × List Char) :=
  let ds := (s.take most).takeWhile Char.isDigit
  if ds.length < least then none else some (Integer.ofDigits ds, s.drop ds.length)

def skipMark (c : Char) : List Char → Option (List Char)
  | d :: rest => if d = c then some rest else none
  | [] => none

def isBlank (c : Char) : Bool := c == ' ' || c == '\t'

/-- How many minutes the clock is ahead; nothing says that it is not known. -/
def readZone (s : List Char) : Option (Option Int) :=
  match s.dropWhile isBlank with
  | [] => if s.isEmpty then some none else none
  | ['Z'] => some (some 0)
  | sign :: rest => do
    if sign != '+' && sign != '-' then none
    else
      let (hours, rest) ← readDigits 1 2 rest
      let minutes ← match rest with
        | [] => some 0
        | ':' :: rest =>
          (readDigits 2 2 rest).bind fun (n, rest) => if rest.isEmpty then some n else none
        | _ => none
      return some (Integer.signed (sign == '-') (hours * 60 + minutes))

def readTime (s : List Char) : Option StampTime := do
  let s ← match s with
    | 'T' :: rest | 't' :: rest => some rest
    | c :: rest => if isBlank c then some (rest.dropWhile isBlank) else none
    | [] => none
  let (hour, s) ← readDigits 1 2 s
  let (minute, s) ← readDigits 2 2 (← skipMark ':' s)
  let (second, s) ← readDigits 2 2 (← skipMark ':' s)
  let (fraction, s) := match s with
    | '.' :: rest => rest.span Char.isDigit
    | s => ([], s)
  return ⟨hour, minute, second, fraction, ← readZone s⟩

/-- Reads a stamp: a day, or a day and a time. -/
def read? (s : List Char) : Option Stamp := do
  let (year, rest) ← readDigits 4 4 s
  let (month, rest) ← readDigits 1 2 (← skipMark '-' rest)
  let (day, rest) ← readDigits 1 2 (← skipMark '-' rest)
  if rest.isEmpty then return ⟨year, month, day, none⟩
  else return ⟨year, month, day, some (← readTime rest)⟩

/-- Whether a plain text is seen to be a stamp: a day alone has to have all its digits. -/
def isSeen (s : List Char) : Bool :=
  match read? s with
  | some stamp => stamp.time.isSome || s.length == 10
  | none => false

/-- Microseconds of the digits of a fraction, to the nearest; a million of them is a second
more. -/
def microseconds (fraction : List Char) : Nat :=
  let shown := fraction.take 6
  let up := match fraction[6]? with
    | some c => if '4' < c then 1 else 0
    | none => 0
  Integer.ofDigits (shown ++ List.replicate (6 - shown.length) '0') + up

/-- The microseconds of some minutes, if a clock can be ahead so far. -/
def zone (minutes : Int) : Except Fault Int :=
  let ahead := minutes * 60 * Moment.perSecond
  if Moment.isTooFarAhead ahead then .error (.badOffset (Moment.spanText ahead)) else .ok ahead

def inCalendar {α : Type} : Except Calendar.Problem α → Except Fault α
  | .ok x => .ok x
  | .error problem => .error (.notDate problem)

def literal (s : Stamp) : Except Fault Literal := do
  match s.time with
  | none => return .day (← inCalendar (Day.make s.year s.month s.day))
  | some t =>
    let ahead ← t.ahead.mapM zone
    let us := microseconds t.fraction
    let date ← inCalendar (Day.make s.year s.month s.day)
    let m ← inCalendar
      (Moment.make date t.hour t.minute t.second (us % Moment.perSecond) ahead)
    if us < Moment.perSecond then return .moment m
    else
      match m.nextSecond? with
      | some m => return .moment m
      | none => throw .dateTooLarge

end Stamp

end FilterCompiler.Markup
