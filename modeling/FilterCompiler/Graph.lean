import FilterCompiler.Literal

/-! Condition graphs. A condition is built of numbered parts, and whatever refers to a
part names its number, so one part may stand in several places and, once a part is
replaced, even inside itself. Two places hold the same part exactly when they hold the
same number; a part with equal content under another number is a different one. -/

namespace FilterCompiler

/-- What stands in an argument place: a literal, or a part by its number. -/
inductive Operand where
  | lit (value : Literal)
  | part (number : Nat)
deriving DecidableEq, Repr, Inhabited

/-- A selection before it is rendered: what is listed, from where, on which condition and
how many rows of it. -/
structure Selection where
  list : Operand
  source : Operand
  condition : Operand
  limit : Operand
deriving DecidableEq, Repr, Inhabited

/-- One node of a condition. Its arguments may be anything; which of them can be rendered
is for the dialect to say. The values that something is compared with are one argument, a
tuple. A custom node carries the names of its kind, its tag and its
arguments. -/
inductive Node where
  | and (left right : Operand)
  | or (left right : Operand)
  | not (operand : Operand)
  | lessThan (left right : Operand)
  | greaterThan (left right : Operand)
  | equal (operand values : Operand)
  | notEqual (operand values : Operand)
  | isEmpty (value : Operand)
  | notEmpty (value : Operand)
  | reference (name : Operand)
  | field (number : Operand)
  | custom (kind tag : String) (arguments : List (String × Operand))
  | select (selection : Selection)
deriving DecidableEq, Repr, Inhabited

/-- A part of a graph: a node, or one of the collections that nested data is made of. An ordered
record differs from a plain one in that its order counts when it is compared. -/
inductive Part where
  | node (node : Node)
  | list (items : List Operand)
  | tuple (items : List Operand)
  | record (entries : List (Operand × Operand))
  | ordered (entries : List (Operand × Operand))
  | set (items : List Operand)
deriving DecidableEq, Repr, Inhabited

namespace Node

def kind : Node → String
  | and .. => "And"
  | or .. => "Or"
  | not _ => "Not"
  | lessThan .. => "LessThan"
  | greaterThan .. => "GreaterThan"
  | equal .. => "Equal"
  | notEqual .. => "NotEqual"
  | isEmpty _ => "IsEmpty"
  | notEmpty _ => "NotEmpty"
  | reference _ => "MacroRef"
  | field _ => "Field"
  | custom kind .. => kind
  | select _ => "SelectStatement"

/-- The tag that a node is written with; a selection has none. -/
def tag? : Node → Option String
  | and .. => some "and"
  | or .. => some "or"
  | not _ => some "not"
  | lessThan .. => some "<"
  | greaterThan .. => some ">"
  | equal .. => some "="
  | notEqual .. => some "!="
  | isEmpty _ => some "is-empty"
  | notEmpty _ => some "not-empty"
  | reference _ => some "macro"
  | field _ => some "field"
  | custom _ tag _ => some tag
  | select _ => none

def arguments : Node → List Operand
  | and l r | or l r | lessThan l r | greaterThan l r | equal l r | notEqual l r => [l, r]
  | not x | isEmpty x | notEmpty x | reference x | field x => [x]
  | custom _ _ named => named.map Prod.snd
  | select s => [s.list, s.source, s.condition, s.limit]

/-- Whether a node joins two conditions. -/
def isJunction : Node → Bool
  | and .. | or .. => true
  | _ => false

end Node

/-- Parts by number, in the order they were added. -/
structure Graph where
  parts : Array Part := #[]
deriving Inhabited

namespace Graph

def empty : Graph := {}

def get? (g : Graph) (number : Nat) : Option Part := g.parts[number]?

def add (g : Graph) (p : Part) : Operand × Graph :=
  (.part g.parts.size, ⟨g.parts.push p⟩)

def replace (g : Graph) (number : Nat) (p : Part) : Graph := ⟨g.parts.setIfInBounds number p⟩

theorem get?_add (g : Graph) (p : Part) (number : Nat) :
    (g.add p).2.get? number = if number = g.parts.size then some p else g.get? number := by
  simp only [get?, add, Array.getElem?_push]

theorem get?_replace_of_ne {g : Graph} {number other : Nat} {p : Part} (h : number ≠ other) :
    (g.replace number p).get? other = g.get? other := by
  simp [get?, replace, h]

def part? (g : Graph) : Operand → Option Part
  | .lit _ => none
  | .part number => g.get? number

def node? (g : Graph) (x : Operand) : Option Node :=
  match g.part? x with
  | some (.node n) => some n
  | _ => none

def items? (g : Graph) (x : Operand) : Option (List Operand) :=
  match g.part? x with
  | some (.list items) | some (.tuple items) => some items
  | _ => none

/-- The elements of an operand taken one by one: the items of a collection, the keys of a
record, the characters of a text and the numbers of bytes. -/
def elements? (g : Graph) (x : Operand) : Option (List Operand) :=
  match x, g.part? x with
  | .lit (.text s), _ => some (s.toList.map fun c => .lit (.text c.toString))
  | .lit (.bytes bs), _ => some (bs.map fun b => .lit (.integer b.toNat))
  | _, some (.list items) | _, some (.tuple items) | _, some (.set items) => some items
  | _, some (.record entries) | _, some (.ordered entries) => some (entries.map Prod.fst)
  | _, _ => none

def entries? (g : Graph) (x : Operand) : Option (List (Operand × Operand)) :=
  match g.part? x with
  | some (.record entries) | some (.ordered entries) => some entries
  | _ => none

def kind (g : Graph) : Operand → String
  | .lit v => v.kind
  | .part number =>
    match g.get? number with
    | some (.node n) => n.kind
    | some (.list _) => "list"
    | some (.tuple _) => "tuple"
    | some (.record _) => "dict"
    | some (.ordered _) => "ordereddict"
    | some (.set _) => "set"
    | none => Literal.kind .null

/-- The tag of a node, for all else the word for its kind. -/
def tag (g : Graph) (x : Operand) : String :=
  ((g.node? x).bind Node.tag?).getD (g.kind x)

/-- Whether an operand counts as present: empty collections do not. -/
def isPresent (g : Graph) : Operand → Bool
  | .lit v => v.isPresent
  | .part number =>
    match g.get? number with
    | some (.node _) => true
    | some (.list items) | some (.tuple items) | some (.set items) => !items.isEmpty
    | some (.record entries) | some (.ordered entries) => !entries.isEmpty
    | none => false

end Graph

end FilterCompiler
