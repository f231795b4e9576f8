/-! Decimal text of integers. An integer of more than `digitLimit` digits has no
text: printing one is refused rather than done slowly. -/

namespace FilterCompiler.Integer

def powerOfTwo (n : Nat) : Nat := Nat.pow 2 n

def powerOfTen (n : Nat) : Nat := Nat.pow 10 n

/-- The most digits an integer may be written with. -/
def digitLimit : Nat := 4300

/-- The least magnitude that needs more digits than the limit allows. -/
def textBound : Nat := powerOfTen digitLimit

/-- Decimal digits, the leading one not zero except for zero itself. -/
def digits (n : Nat) : List Char := Nat.toDigits 10 n

/-- Digits with a minus sign before those of a negative integer. -/
def chars (n : Int) : List Char :=
  if n < 0 then '-' :: digits n.natAbs else digits n.natAbs

/-- The decimal text, whatever its length. -/
def text (n : Int) : String := String.ofList (chars n)

/-- The decimal text, if the digit limit allows one. -/
def text? (n : Int) : Option String :=
  if n.natAbs < textBound then some (text n) else none

theorem text?_eq_none_iff {n : Int} : text? n = none ↔ textBound ≤ n.natAbs := by
  unfold text?
  split <;> simp <;> omega

def ofDigits (s : List Char) : Nat := Nat.ofDigitChars 10 s 0

theorem ofDigits_digits (n : Nat) : ofDigits (digits n) = n :=
  Nat.ofDigitChars_toDigits (by decide) (by decide)

/-- Separates digits into groups of three, counted from the right; the digits come reversed. -/
def groupReversed : List Char → List Char
  | a :: b :: c :: d :: rest => a :: b :: c :: ',' :: groupReversed (d :: rest)
  | short => short

/-- Decimal text with a comma between groups of three digits. -/
def grouped (n : Nat) : String :=
  String.ofList (groupReversed (digits n).reverse).reverse

/-- A sign, if one leads, and the rest. The flag tells a minus. -/
def takeSign : List Char → Bool × List Char
  | '-' :: rest => (true, rest)
  | '+' :: rest => (false, rest)
  | rest => (false, rest)

def signed (negative : Bool) (magnitude : Nat) : Int :=
  if negative then -(magnitude : Int) else magnitude

end FilterCompiler.Integer
