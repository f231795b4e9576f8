/-! Hexadecimal digits. -/

namespace FilterCompiler.Text.Hex

/-- Digits in lower case, filled up with zeros to a width. -/
def padded (width n : Nat) : List Char :=
  let ds := Nat.toDigits 16 n
  List.replicate (width - ds.length) '0' ++ ds

def value? (c : Char) : Option Nat :=
  if c.isDigit then some (c.toNat - 48)
  else if 'a' ≤ c ∧ c ≤ 'f' then some (c.toNat - 87)
  else if 'A' ≤ c ∧ c ≤ 'F' then some (c.toNat - 55)
  else none

def number? (s : List Char) : Option Nat :=
  s.foldlM (fun n c => (value? c).map (n * 16 + ·)) 0

end FilterCompiler.Text.Hex
