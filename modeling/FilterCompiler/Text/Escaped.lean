import FilterCompiler.Text.Hex
import FilterCompiler.Text.Printable

/-! Text shown inside a message: between single marks, or between double ones when
it holds a single mark and no double one. The mark in use, the backslash and every
character that is not printable are written as escapes. -/

namespace FilterCompiler.Text.Escaped

/-- An escape of the shortest kind that holds the code point. -/
def codeEscape (n : Nat) : List Char :=
  if n < 0x100 then '\\' :: 'x' :: Hex.padded 2 n
  else if n < 0x10000 then '\\' :: 'u' :: Hex.padded 4 n
  else '\\' :: 'U' :: Hex.padded 8 n

/-- How a character is written between two marks. -/
def char (mark c : Char) : List Char :=
  if c = mark ∨ c = '\\' then ['\\', c]
  else if c = '\n' then ['\\', 'n']
  else if c = '\r' then ['\\', 'r']
  else if c = '\t' then ['\\', 't']
  else if isPrintable c then [c]
  else codeEscape c.toNat

/-- The mark that a text is put between. -/
def markFor (s : List Char) : Char :=
  if s.contains '\'' && !s.contains '"' then '"' else '\''

def text (s : String) : String :=
  let mark := markFor s.toList
  String.ofList (mark :: (s.toList.flatMap (char mark) ++ [mark]))

/-- A byte between marks: printable ASCII stands for itself. -/
def byte (mark : Char) (b : UInt8) : List Char :=
  let c := Char.ofNat b.toNat
  if c = mark ∨ c = '\\' then ['\\', c]
  else if c = '\n' then ['\\', 'n']
  else if c = '\r' then ['\\', 'r']
  else if c = '\t' then ['\\', 't']
  else if 0x20 ≤ b && b < 0x7f then [c]
  else '\\' :: 'x' :: Hex.padded 2 b.toNat

/-- A run of bytes between marks, with a leading `b`. -/
def bytes (bs : List UInt8) : String :=
  let mark := markFor (bs.map fun b => Char.ofNat b.toNat)
  String.ofList ('b' :: mark :: (bs.flatMap (byte mark) ++ [mark]))

end FilterCompiler.Text.Escaped
