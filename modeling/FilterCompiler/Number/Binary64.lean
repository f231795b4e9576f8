import FilterCompiler.Number.Scientific

/-! Floating point numbers of 64 bits as exact data: a mantissa below `2 ^ 53` and
a power of two, the infinities and not-a-number. Rounding is to the nearest such number, a
tie to the even mantissa, and is done on quotients of naturals. A not-a-number differs from
every number, itself included, so it bears a mark that tells which occurrence it is. -/

namespace FilterCompiler

/-- A binary64 number; `finite s m e` is `± m * 2 ^ e`. -/
inductive Binary64 where
  | nan (mark : Nat)
  | infinity (negative : Bool)
  | finite (negative : Bool) (mantissa : Nat) (exponent : Int)
deriving DecidableEq, Repr, Inhabited

namespace Binary64

open Integer (powerOfTwo powerOfTen)

/-- The least exponent, that of the subnormal numbers. -/
def minExponent : Int := -1074

def maxExponent : Int := 971

def zero (negative : Bool) : Binary64 := .finite negative 0 minExponent

/-- Quotient to the nearest integer, a half to the even one. -/
def roundQuotient (num den : Nat) : Nat :=
  let q := num / den
  let r := num % den
  if 2 * r < den then q
  else if den < 2 * r then q + 1
  else q + q % 2

/-- A quotient of naturals divided by a power of two, again as a quotient. -/
def overPower (num den : Nat) (e : Int) : Nat × Nat :=
  if 0 ≤ e then (num, den * powerOfTwo e.toNat) else (num * powerOfTwo (-e).toNat, den)

/-- The number of a mantissa and exponent, beyond the greatest exponent an infinity. -/
def pack (negative : Bool) (mantissa : Nat) (exponent : Int) : Binary64 :=
  if maxExponent < exponent then .infinity negative else .finite negative mantissa exponent

/-- The exponent at which a positive quotient has a mantissa of 53 bits, or the least one. -/
def exponentFor (num den : Nat) : Int :=
  let guess := (num.log2 : Int) - (den.log2 : Int) - 52
  let (n, d) := overPower num den guess
  max minExponent (if n / d < powerOfTwo 52 then guess - 1 else guess)

/-- The number nearest to a positive quotient. -/
def ofQuotient (negative : Bool) (num den : Nat) : Binary64 :=
  let e := exponentFor num den
  let (n, d) := overPower num den e
  let q := roundQuotient n d
  if q = powerOfTwo 53 then pack negative (powerOfTwo 52) (e + 1) else pack negative q e

/-- The number nearest to a decimal. Magnitudes far outside the range are settled by the
count of their digits alone. -/
def ofScientific (x : Scientific) : Binary64 :=
  if x.coefficient = 0 then zero x.negative
  else
    let top := x.exponent + (Integer.digits x.coefficient).length
    if 310 < top then .infinity x.negative
    else if top < -330 then zero x.negative
    else if 0 ≤ x.exponent then
      ofQuotient x.negative (x.coefficient * powerOfTen x.exponent.toNat) 1
    else ofQuotient x.negative x.coefficient (powerOfTen (-x.exponent).toNat)

/-- Reads a decimal text or, in any case of letters, a named special value; `mark` is given to
a not-a-number. -/
def read? (mark : Nat) (s : List Char) : Option Binary64 :=
  let (negative, rest) := Integer.takeSign s
  let name := String.ofList (rest.map Char.toLower)
  if name == "inf" || name == "infinity" then some (.infinity negative)
  else if name == "nan" then some (.nan mark)
  else (Scientific.read? s).map ofScientific

/-! ### Arithmetic -/

/-- The number nearest to `± n * 2 ^ e`. -/
def ofScaled (negative : Bool) (n : Nat) (e : Int) : Binary64 :=
  if n = 0 then zero negative
  else if 0 ≤ e then ofQuotient negative (n * powerOfTwo e.toNat) 1
  else ofQuotient negative n (powerOfTwo (-e).toNat)

def neg : Binary64 → Binary64
  | nan mark => nan mark
  | infinity negative => infinity !negative
  | finite negative m e => finite (!negative) m e

/-- Product, rounded once. Nothing times an infinity is the not-a-number `mark`. -/
def mul (mark : Nat) : Binary64 → Binary64 → Binary64
  | nan _, _ | _, nan _ => nan mark
  | infinity s, infinity t => infinity (s != t)
  | infinity s, finite t m _ | finite t m _, infinity s =>
    if m = 0 then nan mark else infinity (s != t)
  | finite s m e, finite t n f => ofScaled (s != t) (m * n) (e + f)

/-- Sum, rounded once. Infinities of both signs add up to the not-a-number `mark`. -/
def add (mark : Nat) : Binary64 → Binary64 → Binary64
  | nan _, _ | _, nan _ => nan mark
  | infinity s, infinity t => if s = t then infinity s else nan mark
  | infinity s, finite .. | finite .., infinity s => infinity s
  | finite s m e, finite t n f =>
    let low := min e f
    let part (s : Bool) (m : Nat) (e : Int) : Int :=
      Integer.signed s (m * powerOfTwo (e - low).toNat)
    let sum := part s m e + part t n f
    ofScaled (if sum = 0 then s && t else sum < 0) sum.natAbs low

/-- The integer that a number without fraction equals. -/
def integral? : Binary64 → Option Int
  | .finite negative m e =>
    if 0 ≤ e then some (Integer.signed negative (m * powerOfTwo e.toNat))
    else
      let d := powerOfTwo (-e).toNat
      if m % d = 0 then some (Integer.signed negative (m / d)) else none
  | _ => none

end Binary64

end FilterCompiler
