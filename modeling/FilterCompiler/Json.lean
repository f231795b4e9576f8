import FilterCompiler.Number.Shortest
import FilterCompiler.Text.Hex

/-! JSON values and their text. Objects keep the order of their entries; of two entries
with one name the later value stands in the earlier place. -/

namespace FilterCompiler

inductive Json where
  | null
  | truth (value : Bool)
  | integer (value : Int)
  | float (value : Binary64)
  | text (value : String)
  | array (items : List Json)
  | object (entries : List (String × Json))
deriving Repr, Inhabited

namespace Json

def get? (name : String) : Json → Option Json
  | object entries => entries.lookup name
  | _ => none

/-- How a character stands inside a string. -/
def char (c : Char) : List Char :=
  if c = '"' ∨ c = '\\' then ['\\', c]
  else if c = '\n' then ['\\', 'n']
  else if c = '\r' then ['\\', 'r']
  else if c = '\t' then ['\\', 't']
  else if c.toNat < 0x20 then '\\' :: 'u' :: Text.Hex.padded 4 c.toNat
  else [c]

def stringText (s : String) : String :=
  String.ofList ('"' :: (s.toList.flatMap char ++ ['"']))

mutual

/-- The text of a value, without blanks. -/
def render : Json → String
  | null => "null"
  | truth b => if b then "true" else "false"
  | integer n => Integer.text n
  | float x => x.text
  | text s => stringText s
  | array items => "[" ++ ",".intercalate (renderItems [] items) ++ "]"
  | object entries => "\x7b" ++ ",".intercalate (renderEntries [] entries) ++ "\x7d"

/-- The texts of items behind those of `acc`, which holds them with the last one first. -/
def renderItems (acc : List String) : List Json → List String
  | [] => acc.reverse
  | x :: rest => renderItems (render x :: acc) rest

/-- The texts of entries behind those of `acc`, which holds them with the last one first. -/
def renderEntries (acc : List String) : List (String × Json) → List String
  | [] => acc.reverse
  | (name, x) :: rest => renderEntries ((stringText name ++ ":" ++ render x) :: acc) rest

end

mutual

/-- Whether all numbers in a value are finite. -/
def isFinite : Json → Bool
  | float (.finite ..) => true
  | float _ => false
  | array items => areFinite items
  | object entries => haveFinite entries
  | _ => true

def areFinite : List Json → Bool
  | [] => true
  | x :: rest => isFinite x && areFinite rest

/-- Whether all numbers in the values of entries are finite. -/
def haveFinite : List (String × Json) → Bool
  | [] => true
  | (_, x) :: rest => isFinite x && haveFinite rest

end

end Json

end FilterCompiler
