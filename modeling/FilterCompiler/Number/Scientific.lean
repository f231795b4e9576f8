import FilterCompiler.Number.Integer

/-! Decimal numbers in coefficient and exponent, and the reader of their text:
digits with at most one point among them, then an exponent if one is written.
Nothing is rounded here. -/

namespace FilterCompiler

/-- The number `± coefficient * 10 ^ exponent`. -/
structure Scientific where
  negative : Bool
  coefficient : Nat
  exponent : Int
deriving DecidableEq, Repr, Inhabited

namespace Scientific

def takeDigits (s : List Char) : List Char × List Char := s.span Char.isDigit

def takeFraction : List Char → List Char × List Char
  | '.' :: rest => takeDigits rest
  | rest => ([], rest)

/-- An exponent mark with its digits, or nothing; anything else is refused. -/
def exponent? : List Char → Option Int
  | [] => some 0
  | mark :: rest =>
    if mark == 'e' || mark == 'E' then
      let (negative, ds) := Integer.takeSign rest
      if !ds.isEmpty && ds.all Char.isDigit then
        some (Integer.signed negative (Integer.ofDigits ds))
      else none
    else none

/-- Reads a whole text: sign, digits and point, exponent. -/
def read? (s : List Char) : Option Scientific :=
  let (negative, s) := Integer.takeSign s
  let (whole, s) := takeDigits s
  let (fraction, s) := takeFraction s
  if whole.isEmpty && fraction.isEmpty then none
  else (exponent? s).map fun e =>
    ⟨negative, Integer.ofDigits (whole ++ fraction), e - fraction.length⟩

end Scientific

end FilterCompiler
