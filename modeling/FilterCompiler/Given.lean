import FilterCompiler.Complaint
import FilterCompiler.Json
import FilterCompiler.Literal
import FilterCompiler.Number.Numeral

/-! Values that are given from outside, and lenient conversions of them: a value of another
kind is taken where it has one clear meaning, so the text `5.0` and the number `5.0` are the
integer five. Of a collection nothing is taken. -/

namespace FilterCompiler

inductive Given where
  | literal (value : Literal)
  | collection
deriving DecidableEq, Repr, Inhabited

def Json.given : Json → Given
  | .null => .literal .null
  | .truth b => .literal (.truth b)
  | .integer n => .literal (.integer n)
  | .float x => .literal (.float x)
  | .text s => .literal (.text s)
  | .array _ | .object _ => .collection

namespace Given

def textOfBytes? (bs : List UInt8) : Option String := String.fromUTF8? ⟨bs.toArray⟩

def toText : Given → Except Mismatch String
  | literal (.text s) => .ok s
  | literal (.bytes bs) =>
    match textOfBytes? bs with
    | some s => .ok s
    | none => .error .bytesNotText
  | _ => .error .notText

/-! ### Integers -/

/-- Goes on behind leading zeros, which underscores may separate. Of zeros alone the last
character stays, and so does the one before a point. -/
def behindZeros (before : Char) : List Char → Option (List Char)
  | [] => some [before]
  | c :: rest =>
    if c == '0' || c == '_' then behindZeros c rest
    else if c.isDigit then some (c :: rest)
    else if c == '.' then some (before :: c :: rest)
    else none

/-- Digits without their leading zeros. -/
def significant? : List Char → Option (List Char)
  | '0' :: rest => behindZeros '0' rest
  | c :: rest => if c.isDigit then some (c :: rest) else none
  | [] => none

/-- Digits without a fraction of one or more zeros. -/
def withoutZeroFraction (s : List Char) : List Char :=
  match s.span (· != '.') with
  | (whole, _ :: fraction) =>
    if !fraction.isEmpty && fraction.all (· == '0') then whole else s
  | _ => s

/-- The integer of a text. What counts against the limit are the characters of the number
behind its leading zeros, a minus sign included. -/
def integerOfText (s : String) : Except Mismatch Int :=
  let (negative, s) := Integer.takeSign (Text.trim Text.isSpace s.toList)
  match (significant? s).map withoutZeroFraction with
  | none => .error .integerText
  | some ds =>
    let bare := ds.filter (· != '_')
    if !Numeral.isSpaced false ds || !bare.all Char.isDigit then .error .integerText
    else if Integer.digitLimit < bare.length + (if negative then 1 else 0) then
      .error .integerTextTooLong
    else .ok (Integer.signed negative (Integer.ofDigits bare))

/-- What the magnitudes of integers of 64 bits stay below. -/
def wordBound : Nat := Integer.powerOfTwo 63

def integerOfFloat (x : Binary64) : Except Mismatch Int :=
  match x with
  | .finite .. =>
    match x.integral? with
    | some n => if n.natAbs < wordBound then .ok n else .error .integerTextTooLong
    | none => .error .fraction
  | _ => .error .notFinite

/-- The integer of a decimal, however large it is. -/
def integerOfDecimal : Decimal → Except Mismatch Int
  | .finite x =>
    if 0 ≤ x.exponent then
      .ok (Integer.signed x.negative (x.coefficient * Integer.powerOfTen x.exponent.toNat))
    else
      let unit := Integer.powerOfTen (-x.exponent).toNat
      if x.coefficient % unit = 0 then .ok (Integer.signed x.negative (x.coefficient / unit))
      else .error .fraction
  | _ => .error .notFinite

def toInteger : Given → Except Mismatch Int
  | literal (.integer n) => .ok n
  | literal (.truth b) => .ok (if b then 1 else 0)
  | literal (.float x) => integerOfFloat x
  | literal (.decimal x) => integerOfDecimal x
  | literal (.text s) => integerOfText s
  | literal (.bytes bs) =>
    match textOfBytes? bs with
    | some s => integerOfText s
    | none => .error .integerText
  | _ => .error .notInteger

/-! ### Truth values -/

/-- Words for true and for false, in any case of letters. -/
def truthWords : List (String × Bool) :=
  [("0", false), ("off", false), ("f", false), ("false", false), ("n", false), ("no", false),
   ("1", true), ("on", true), ("t", true), ("true", true), ("y", true), ("yes", true)]

def truthOfText (s : String) : Except Mismatch Bool :=
  match truthWords.lookup s.toLower with
  | some b => .ok b
  | none => .error .truthText

/-- The truth value that zero or one stands for. -/
def truthOfInteger (n : Int) : Except Mismatch Bool :=
  if n = 0 then .ok false else if n = 1 then .ok true else .error .truthText

def truthOfFloat (x : Binary64) : Except Mismatch Bool :=
  match integerOfFloat x with
  | .ok n => truthOfInteger n
  | .error _ => .error .notTruth

def toTruth : Given → Except Mismatch Bool
  | literal (.truth b) => .ok b
  | literal (.integer n) =>
    if -(wordBound : Int) ≤ n ∧ n < wordBound then truthOfInteger n else .error .notTruth
  | literal (.float x) => truthOfFloat x
  | literal (.decimal (.finite x)) => truthOfFloat (Binary64.ofScientific x)
  | literal (.text s) => truthOfText s
  | literal (.bytes bs) =>
    match textOfBytes? bs with
    | some s => truthOfText s
    | none => .error .truthText
  | _ => .error .notTruth

/-- A conversion that leaves null alone. -/
def orNull {α : Type} (convert : Given → Except Mismatch α) :
    Given → Except Mismatch (Option α)
  | literal .null => .ok none
  | x => (convert x).map some

end Given

end FilterCompiler
