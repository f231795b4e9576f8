import FilterCompiler.Number.Binary64
import FilterCompiler.Number.Decimal
import FilterCompiler.Text.Blank
import FilterCompiler.Text.Digit
import FilterCompiler.Text.Hex

/-! Numerals as people write them: blanks may stand around a number, its digits may be those
of any script, and an underscore may stand between two digits. The three readers agree on
plain numbers and differ at the edges: an integer may have a mark of its base in front, a
decimal may have underscores anywhere. -/

namespace FilterCompiler.Numeral

inductive Problem where
  | malformed
  | tooLong (digits : Nat)
deriving DecidableEq, Repr

/-- A text without the spaces around it, its digits those of ASCII. -/
def plain (s : List Char) : List Char := (Text.trim Text.isSpace s).map Text.plainDigit

/-- Whether each underscore in a run of digits and underscores stands between two digits. The
flag tells whether a digit stands just before. -/
def isSpaced : Bool → List Char → Bool
  | after, [] => after
  | after, c :: rest => if c == '_' then after && isSpaced false rest else isSpaced true rest

def digitIn? (base : Nat) (c : Char) : Option Nat := (Text.Hex.value? c).filter (· < base)

/-- What follows the mark of a base, if one leads; one underscore may follow the mark. -/
def behindMark (base : Nat) (s : List Char) : List Char :=
  match s with
  | '0' :: c :: rest =>
    if [(16, 'x'), (8, 'o'), (2, 'b')].contains (base, c.toLower) then
      match rest with
      | '_' :: rest => rest
      | rest => rest
    else s
  | s => s

def valueIn (base : Nat) (ds : List Char) : Nat :=
  ds.foldl (fun n c => n * base + (digitIn? base c).getD 0) 0

/-- Reads an integer in a base. In base ten the number of digits is limited, and that is
checked before what follows the digits is looked at. -/
def integer (base : Nat) (s : List Char) : Except Problem Int :=
  let (negative, s) := Integer.takeSign (plain s)
  let (run, rest) := (behindMark base s).span fun c => c == '_' || (digitIn? base c).isSome
  let ds := run.filter (· != '_')
  if !isSpaced false run then .error .malformed
  else if base = 10 ∧ Integer.digitLimit < ds.length then .error (.tooLong ds.length)
  else if !rest.isEmpty then .error .malformed
  else .ok (Integer.signed negative (valueIn base ds))

/-- Whether each underscore in a text stands between two digits. The flag tells whether a digit
stands just before. -/
def separatesDigits : Bool → List Char → Bool
  | _, [] => true
  | after, '_' :: rest => after && rest.head?.any Char.isDigit && separatesDigits false rest
  | _, c :: rest => separatesDigits c.isDigit rest

/-- Reads a floating point number; `mark` is given to a not-a-number. -/
def float? (mark : Nat) (s : List Char) : Option Binary64 :=
  let s := plain s
  if separatesDigits false s then Binary64.read? mark (s.filter (· != '_')) else none

/-- Reads a decimal; `mark` is given to a not-a-number. -/
def decimal? (mark : Nat) (s : List Char) : Option Decimal :=
  Decimal.read? mark (((Text.trimBlanks s).filter (· != '_')).map Text.plainDigit)

end FilterCompiler.Numeral
