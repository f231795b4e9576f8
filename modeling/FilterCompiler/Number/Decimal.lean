import FilterCompiler.Number.Scientific

/-! Decimal numbers that keep the digits and the exponent they were written with,
and the two kinds of not-a-number with their diagnostic digits. A not-a-number bears a mark
that tells which occurrence it is, as comparing cannot tell. Their text is the
to-scientific-string form of the General Decimal Arithmetic: positional while the
exponent is not positive and the leading digit stands no further than the sixth place
after the point. -/

namespace FilterCompiler

inductive Decimal where
  | finite (value : Scientific)
  | infinity (negative : Bool)
  | nan (negative signaling : Bool) (diagnostic mark : Nat)
deriving DecidableEq, Repr, Inhabited

namespace Decimal

/-- Digits with a point after the first `places` of them; `places` may lie outside them. -/
def pointAfter (digits : List Char) (places : Int) : List Char :=
  if places ≤ 0 then '0' :: '.' :: (List.replicate (-places).toNat '0' ++ digits)
  else if digits.length ≤ places then
    digits ++ List.replicate (places.toNat - digits.length) '0'
  else digits.take places.toNat ++ '.' :: digits.drop places.toNat

/-- `E` and a signed exponent, or nothing when it is zero. -/
def exponentMark (e : Int) : List Char :=
  if e = 0 then [] else 'E' :: (if e < 0 then '-' else '+') :: Integer.digits e.natAbs

def minus (negative : Bool) : List Char := if negative then ['-'] else []

def chars : Decimal → List Char
  | .finite x =>
    let ds := Integer.digits x.coefficient
    let lead := x.exponent + ds.length
    let places := if x.exponent ≤ 0 ∧ -6 < lead then lead else 1
    minus x.negative ++ pointAfter ds places ++ exponentMark (lead - places)
  | .infinity negative => minus negative ++ "Infinity".toList
  | .nan negative signaling diagnostic _ =>
    minus negative ++ (if signaling then ['s'] else []) ++ "NaN".toList ++
      (if diagnostic = 0 then [] else Integer.digits diagnostic)

def text (x : Decimal) : String := String.ofList x.chars

/-- Reads a numeric text or, in any case of letters, a special value; `mark` is given to a
not-a-number. -/
def read? (mark : Nat) (s : List Char) : Option Decimal :=
  let (negative, rest) := Integer.takeSign s
  let lower := rest.map Char.toLower
  if lower = "inf".toList ∨ lower = "infinity".toList then some (.infinity negative)
  else
    let (signaling, name) := match lower with
      | 's' :: name => (true, name)
      | name => (false, name)
    match name with
    | 'n' :: 'a' :: 'n' :: ds =>
      if ds.all Char.isDigit then some (.nan negative signaling (Integer.ofDigits ds) mark)
      else none
    | _ => (Scientific.read? s).map .finite

def isZero : Decimal → Bool
  | .finite x => x.coefficient == 0
  | _ => false

end Decimal

end FilterCompiler
