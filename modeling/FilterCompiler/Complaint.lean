/-! Complaints about given values: what does not fit, and where it stands. Values are
checked side by side, so a check collects every complaint there is to make. -/

namespace FilterCompiler

inductive Mismatch where
  | missing
  | notText
  | bytesNotText
  | notInteger
  | integerText
  | integerTextTooLong
  | fraction
  | notFinite
  | notTruth
  | truthText
  | negative
  | notRecord
  | notObject
  | notJson
deriving DecidableEq, Repr

def Mismatch.word : Mismatch → String
  | missing => "missing"
  | notText => "string_type"
  | bytesNotText => "string_unicode"
  | notInteger => "int_type"
  | integerText => "int_parsing"
  | integerTextTooLong => "int_parsing_size"
  | fraction => "int_from_float"
  | notFinite => "finite_number"
  | notTruth => "bool_type"
  | truthText => "bool_parsing"
  | negative => "greater_than_equal"
  | notRecord => "dict_type"
  | notObject => "model_attributes_type"
  | notJson => "json_invalid"

inductive Step where
  | name (name : String)
  | position (position : Nat)
deriving DecidableEq, Repr

structure Complaint where
  mismatch : Mismatch
  place : List Step
deriving DecidableEq, Repr

/-- A checked value, or the complaints about it. -/
abbrev Checked (α : Type) := Except (List Complaint) α

namespace Checked

variable {α β : Type}

/-- A check of one value at a place. -/
def located (place : List Step) : Except Mismatch α → Checked α
  | .ok x => .ok x
  | .error m => .error [⟨m, place⟩]

/-- Two checks side by side: the complaints of the first come first. -/
def and (f : Checked (α → β)) (x : Checked α) : Checked β :=
  match f, x with
  | .ok f, .ok x => .ok (f x)
  | .error e, .ok _ => .error e
  | .ok _, .error e => .error e
  | .error e, .error e' => .error (e ++ e')

end Checked

end FilterCompiler
