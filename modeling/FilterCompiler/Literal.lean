import FilterCompiler.Calendar
import FilterCompiler.Number.Decimal
import FilterCompiler.Number.Shortest
import FilterCompiler.Text.Escaped

/-! Literals: the scalar values that filters compare with, and a few kinds that only
some dialects can write. Each kind has the word that messages call it by. -/

namespace FilterCompiler

inductive Literal where
  | null
  | truth (value : Bool)
  | integer (value : Int)
  | float (value : Binary64)
  | decimal (value : Decimal)
  | text (value : String)
  | bytes (value : List UInt8)
  | day (value : Day)
  | moment (value : Moment)
deriving DecidableEq, Repr, Inhabited

namespace Literal

def kind : Literal → String
  | null => "NoneType"
  | truth _ => "bool"
  | integer _ => "int"
  | float _ => "float"
  | decimal _ => "Decimal"
  | text _ => "str"
  | bytes _ => "bytes"
  | day _ => "date"
  | moment _ => "datetime"

/-- A literal as a message shows it on its own; an integer may be too long to show. -/
def plain? : Literal → Option String
  | null => some "None"
  | truth b => some (if b then "True" else "False")
  | integer n => Integer.text? n
  | float x => some x.text
  | decimal x => some x.text
  | text s => some s
  | bytes bs => some (Text.Escaped.bytes bs)
  | day d => some d.text
  | moment m => some m.text

/-- The arguments that a day is shown with inside another value. -/
def dayArguments (d : Day) : List Nat := [d.year, d.month, d.day]

/-- The numbers that a moment is shown with, seconds only when something follows them. -/
def momentArguments (m : Moment) : List Nat :=
  dayArguments m.date ++ [m.hour, m.minute] ++
    (if m.microsecond ≠ 0 then [m.second, m.microsecond]
    else if m.second ≠ 0 then [m.second] else [])

/-- A name applied to numbers and to whatever follows those. -/
def applied (name : String) (numbers : List Nat) (more : List String) : String :=
  name ++ "(" ++ ", ".intercalate (numbers.map (fun (n : Nat) => Integer.text n) ++ more) ++ ")"

/-- A literal as a message shows it inside another value: texts are put between marks. -/
def nested? : Literal → Option String
  | text s => some (Text.Escaped.text s)
  | decimal x => some ("Decimal('" ++ x.text ++ "')")
  | day d => some (applied "datetime.date" (dayArguments d) [])
  | moment m =>
    some (applied "datetime.datetime" (momentArguments m)
      (m.ahead.map fun a => "tzinfo=" ++ Moment.zoneText a).toList)
  | x => x.plain?

/-- Whether a literal counts as present: zeros and empty texts do not. -/
def isPresent : Literal → Bool
  | null => false
  | truth b => b
  | integer n => n != 0
  | float (.finite _ m _) => m != 0
  | float _ => true
  | decimal x => !x.isZero
  | text s => !s.isEmpty
  | bytes bs => !bs.isEmpty
  | day _ | moment _ => true

/-! ### Numbers across kinds -/

/-- A finite number without factors ten in its unit: `± unit * 2 ^ twos * 5 ^ fives` with a
unit prime to ten, so that equal numbers of different kinds have equal forms. -/
structure Factored where
  negative : Bool
  unit : Nat
  twos : Int
  fives : Int
deriving DecidableEq

/-- Takes a factor out of a number as often as it divides, at most `tries` times. -/
def takeFactor (factor : Nat) : Nat → Nat → Nat × Nat
  | 0, n => (0, n)
  | tries + 1, n =>
    if n % factor = 0 then
      let (count, rest) := takeFactor factor tries (n / factor)
      (count + 1, rest)
    else (0, n)

/-- The form of `± n * 2 ^ twos * 5 ^ fives`. -/
def Factored.of (negative : Bool) (n : Nat) (twos fives : Int) : Factored :=
  if n = 0 then ⟨false, 0, 0, 0⟩
  else
    let (a, n) := takeFactor 2 (n.log2 + 1) n
    let (b, n) := takeFactor 5 (n.log2 + 1) n
    ⟨negative, n, twos + a, fives + b⟩

/-- A number for comparison: finite, infinite, or nothing that equals even itself. -/
inductive Measure where
  | finite (value : Factored)
  | infinite (negative : Bool)
  | incomparable
deriving DecidableEq

/-- What a numeric literal measures; truth values count as zero and one. -/
def measure? : Literal → Option Measure
  | truth b => some (.finite (.of false (if b then 1 else 0) 0 0))
  | integer n => some (.finite (.of (n < 0) n.natAbs 0 0))
  | float (.finite s m e) => some (.finite (.of s m e 0))
  | float (.infinity s) => some (.infinite s)
  | float (.nan _) => some .incomparable
  | decimal (.finite x) => some (.finite (.of x.negative x.coefficient x.exponent x.exponent))
  | decimal (.infinity s) => some (.infinite s)
  | decimal (.nan ..) => some .incomparable
  | _ => none

/-- Equality of literals: numbers by what they measure, whatever their kind, moments by when
they are, and all else by kind and content. -/
def same (a b : Literal) : Bool :=
  match a.measure?, b.measure? with
  | some .incomparable, _ | _, some .incomparable => false
  | some x, some y => decide (x = y)
  | none, none =>
    match a, b with
    | moment m, moment n => m.same n
    | _, _ => decide (a = b)
  | _, _ => false

end Literal

end FilterCompiler
