import FilterCompiler.Number.Binary64

/-! Shortest decimal text of a binary64 number. Of the decimal grids
`10 ^ k * ℕ` the coarsest is taken that has a point which rounds to the number, and
on it the point nearest to the number, a tie to the even one. A positional layout is
used while the leading digit stands between the fourth place after the point and the
sixteenth before it, a scientific one beyond. -/

namespace FilterCompiler.Shortest

open Integer (powerOfTwo powerOfTen)

/-- What rounds to `mantissa * 2 ^ exponent`, in quarters of the last place: the bounds, and
whether they belong to it. -/
structure Interval where
  low : Nat
  middle : Nat
  high : Nat
  closed : Bool

/-- The interval of a positive number. Below a power of two the numbers lie twice as dense. -/
def interval (mantissa : Nat) (exponent : Int) : Interval where
  low := 4 * mantissa -
    (if mantissa = powerOfTwo 52 ∧ Binary64.minExponent < exponent then 1 else 2)
  middle := 4 * mantissa
  high := 4 * mantissa + 2
  closed := mantissa % 2 = 0

/-- Numerator and denominator of `2 ^ (e - 2) / 10 ^ k`. -/
def scale (e k : Int) : Nat × Nat :=
  let two := e - 2
  ((if 0 ≤ two then powerOfTwo two.toNat else 1) * (if k < 0 then powerOfTen (-k).toNat else 1),
    (if 0 ≤ two then 1 else powerOfTwo (-two).toNat) * (if k < 0 then 1 else powerOfTen k.toNat))

/-- Whether `point` on the grid rounds to the number, all three in units of `num / den`. -/
def Interval.holds (i : Interval) (num den point : Nat) : Bool :=
  let p := point * den
  if i.closed then i.low * num ≤ p && p ≤ i.high * num
  else i.low * num < p && p < i.high * num

/-- The point of the grid `10 ^ k` that stands for a number, if one does: of the two
neighbours those that round to it, and of both the nearer. -/
def onGrid? (mantissa : Nat) (e k : Int) : Option Nat :=
  let i := interval mantissa e
  let (num, den) := scale e k
  let below := i.middle * num / den
  let above := below + 1
  match i.holds num den below, i.holds num den above with
  | false, false => none
  | true, false => some below
  | false, true => some above
  | true, true =>
    let down := i.middle * num - below * den
    let up := above * den - i.middle * num
    if down < up then some below
    else if up < down then some above
    else some (if below % 2 = 0 then below else above)

/-- Tries grids from `10 ^ k` downwards. -/
def search (mantissa : Nat) (e : Int) : Nat → Int → Nat × Int
  | 0, k => (mantissa, k)
  | tries + 1, k =>
    match onGrid? mantissa e k with
    | some point => (point, k)
    | none => search mantissa e tries (k - 1)

/-- A bound above the decimal exponent of `mantissa * 2 ^ e`. -/
def topExponent (mantissa : Nat) (e : Int) : Int :=
  ((mantissa.log2 : Int) + 1 + e) * 30103 / 100000 + 2

/-- The shortest decimal `point * 10 ^ k` that rounds to a positive number. -/
def decimal (mantissa : Nat) (e : Int) : Nat × Int :=
  search mantissa e 24 (topExponent mantissa e)

/-- `count` zeros. -/
def zeros (count : Nat) : List Char := List.replicate count '0'

/-- Positional layout of digits whose leading one stands for `10 ^ lead`. -/
def positional (digits : List Char) (lead : Int) : List Char :=
  if lead < 0 then '0' :: '.' :: (zeros (-lead - 1).toNat ++ digits)
  else
    let whole := lead.toNat + 1
    if digits.length ≤ whole then digits ++ zeros (whole - digits.length) ++ ['.', '0']
    else digits.take whole ++ '.' :: digits.drop whole

/-- An exponent with its sign and at least two digits. -/
def exponentText (lead : Int) : List Char :=
  let ds := Integer.digits lead.natAbs
  (if lead < 0 then '-' else '+') :: (if ds.length < 2 then '0' :: ds else ds)

/-- Scientific layout: one digit before the point, none after it if there is just one. -/
def scientific (digits : List Char) (lead : Int) : List Char :=
  match digits with
  | [] => []
  | [d] => d :: 'e' :: exponentText lead
  | d :: rest => d :: '.' :: rest ++ 'e' :: exponentText lead

def positive (mantissa : Nat) (e : Int) : List Char :=
  let (point, k) := decimal mantissa e
  let digits := Integer.digits point
  let lead := k + digits.length - 1
  if -4 ≤ lead && lead < 16 then positional digits lead else scientific digits lead

/-- Text of a number; the special values have lower-case names. -/
def chars : Binary64 → List Char
  | .nan _ => ['n', 'a', 'n']
  | .infinity negative => (if negative then ['-'] else []) ++ ['i', 'n', 'f']
  | .finite negative m e =>
    (if negative then ['-'] else []) ++ (if m = 0 then ['0', '.', '0'] else positive m e)

end FilterCompiler.Shortest

namespace FilterCompiler

/-- Shortest text that reads back as the number. -/
def Binary64.text (x : Binary64) : String := String.ofList (Shortest.chars x)

end FilterCompiler
