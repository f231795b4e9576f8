import FilterCompiler.Fault

/-! Why a text gives no data: it breaks the rules of the markup, or something in it has no
meaning. -/

namespace FilterCompiler.Markup

inductive Refusal where
  | malformed
  | faulty (f : Fault)
deriving DecidableEq, Repr

abbrev Reads (α : Type) := Except Refusal α

/-- A result that the text has to have. -/
def Reads.required {α : Type} : Option α → Reads α
  | some x => .ok x
  | none => .error .malformed

/-- A result, unless something has no meaning. -/
def Reads.meaningful {α : Type} : Except Fault α → Reads α
  | .ok x => .ok x
  | .error f => .error (.faulty f)

end FilterCompiler.Markup
