/-! Bytes from base 64. Characters outside the alphabet are passed over, and enough padding
ends the text. -/

namespace FilterCompiler.Text.Base64

def value? (c : Char) : Option Nat :=
  if c.isUpper then some (c.toNat - 65)
  else if c.isLower then some (c.toNat - 71)
  else if c.isDigit then some (c.toNat + 4)
  else if c == '+' then some 62
  else if c == '/' then some 63
  else none

/-- Reads on with `place` characters of a group of four read, whose bits that belong to no byte
yet are `left`, and `pads` marks of padding behind them. The bytes so far are reversed. A
group may not break off. -/
def read (place left pads : Nat) (acc : List UInt8) : List Char → Option (List UInt8)
  | [] => if place = 0 then some acc.reverse else none
  | '=' :: rest =>
    if 2 ≤ place then
      if 4 ≤ place + pads + 1 then some acc.reverse else read place left (pads + 1) acc rest
    else read place left pads acc rest
  | c :: rest =>
    match value? c with
    | none => read place left pads acc rest
    | some n =>
      match place with
      | 0 => read 1 n 0 acc rest
      | 1 => read 2 (n % 16) 0 ((left * 4 + n / 16).toUInt8 :: acc) rest
      | 2 => read 3 (n % 4) 0 ((left * 16 + n / 4).toUInt8 :: acc) rest
      | _ => read 0 0 0 ((left * 64 + n).toUInt8 :: acc) rest

def bytes? (s : List Char) : Option (List UInt8) := read 0 0 0 [] s

end FilterCompiler.Text.Base64
