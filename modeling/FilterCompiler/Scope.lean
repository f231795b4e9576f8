import FilterCompiler.Fault
import FilterCompiler.Graph.Equality
import FilterCompiler.Graph.Text
import FilterCompiler.NameTable

/-! What one rendering may look up: the graph, the columns of the fields and the named
conditions. -/

namespace FilterCompiler

/-- The deepest nesting that is followed where nothing else is said. -/
def nestingLimit : Nat := 400

/-- Columns by field number. A number that occurs again replaces the column before it. -/
abbrev Fields := List (Operand × Option String)

namespace Fields

/-- The column under a number; numbers compare as values, whatever their kind. -/
def find? (g : Graph) (number : Operand) : Fields → Except Fault (Option String)
  | [] => .ok none
  | (key, column) :: rest =>
    match g.sameKey nestingLimit key number with
    | .error f => .error f
    | .ok true => .ok column
    | .ok false => find? g number rest

/-- Adds a column in place of the one under the same number, or at the end. -/
def insert (g : Graph) (number : Operand) (column : Option String) : Fields → Fields
  | [] => [(number, column)]
  | (key, old) :: rest =>
    match g.sameKey nestingLimit key number with
    | .ok true => (key, column) :: rest
    | _ => (key, old) :: insert g number column rest

end Fields

abbrev Definitions := NameTable Operand

/-- What a rendering looks things up in, and how many levels of conditions it follows. -/
structure Scope where
  graph : Graph
  fields : Fields := []
  definitions : Definitions := []
  room : Nat := nestingLimit

namespace Scope

/-- The text of an operand in a message or after a keyword. -/
def text (s : Scope) (x : Operand) : Rendered :=
  match s.graph.text? x with
  | some t => .ok t
  | none => .error .integerTooLong

/-- Refuses an operand that cannot be a key. -/
def checkKey (s : Scope) (x : Operand) : Except Fault Unit :=
  match s.graph.keyFault? nestingLimit x with
  | some f => .error f
  | none => .ok ()

/-- The column of a field number; a field without a column, or with an empty one, is
unknown. -/
def column (s : Scope) (number : Operand) : Rendered := do
  s.checkKey number
  match ← s.fields.find? s.graph number with
  | some name => if name = "" then unknown else return name
  | none => unknown
where
  unknown : Rendered := do throw (.unknownField number (← s.text number))

def resolve (s : Scope) (name : Operand) : Except Fault Operand := do
  s.checkKey name
  match name with
  | .lit (.text t) =>
    match s.definitions.find? t with
    | none | some (.lit .null) => undefinedName
    | some body => return body
  | _ => undefinedName
where
  undefinedName : Except Fault Operand := do throw (.undefinedName name (← s.text name))

end Scope

end FilterCompiler
