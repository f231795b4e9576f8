import FilterCompiler.Scope
import Std.Data.HashMap

/-! Raw forms: conditions as nested lists whose first element is a tag. Reading one adds
nodes to the graph that holds it. A list that stands in several places is read once and
gives one node; a list that stands inside itself is refused. Values are literals or field
references, and a field reference that stands as a value gives a node of its own each
time. -/

namespace FilterCompiler.RawForm

/-- What reading goes along with: the graph so far, and the node of each list already
read, by the number of the list. -/
structure Memory where
  graph : Graph
  known : Std.HashMap Nat Operand := {}

abbrev Reading := StateT Memory (Except Fault)

/-- The reader of a custom tag. It gets the arguments, a reader of conditions and a reader
of values. -/
abbrev TagReader :=
  List Operand → (Operand → Reading Operand) → (Operand → Reading Operand) → Reading Operand

/-- Readers of custom tags by tag. A tag of the built-in ones is never looked up here. -/
abbrev Extensions := NameTable TagReader

def look {α : Type} (f : Memory → α) : Reading α := fun m => .ok (f m, m)

def refuse {α : Type} (problem : Problem) (place : Place) : Reading α :=
  throw (.malformed problem place.text)

def addPart (p : Part) : Reading Operand :=
  modifyGet fun ⟨graph, known⟩ =>
    let (x, graph) := graph.add p
    (x, ⟨graph, known⟩)

def addNode (n : Node) : Reading Operand := addPart (.node n)

/-- The node of a list already read. -/
def known? (m : Memory) : Operand → Option Operand
  | .part number => m.known[number]?
  | .lit _ => none

def remember (raw node : Operand) : Reading Unit :=
  match raw with
  | .part number => modify fun ⟨graph, known⟩ => ⟨graph, known.insert number node⟩
  | .lit _ => return

/-- Checks the count of a tag's arguments. -/
def wrongCount {α : Type} (tag : String) (expected : Nat) (arguments : List Operand)
    (place : Place) : Reading α :=
  refuse (.wrongCount tag expected arguments.length) place

def readField (arguments : List Operand) (place : Place) : Reading Operand :=
  match arguments with
  | [.lit (.integer n)] => addNode (.field (.lit (.integer n)))
  | [_] => refuse .numberNotInteger place
  | _ => wrongCount "field" 1 arguments place

/-- Whether a literal may stand in a raw form. -/
def isScalar : Literal → Bool
  | .null | .truth _ | .integer _ | .float _ | .text _ => true
  | _ => false

def readValue (place : Place) (raw : Operand) : Reading Operand := do
  let (items, kind) ← look fun m => (m.graph.items? raw, m.graph.kind raw)
  match raw, items with
  | .lit v, _ => if isScalar v then return raw else refuse (.notAValue kind) place
  | _, some (.lit (.text "field") :: arguments) => readField arguments place
  | _, _ => refuse (.notAValue kind) place

/-- The values behind the first, whose places count from `i`. -/
def readValues (place : Place) : Nat → List Operand → Reading (List Operand)
  | _, [] => return []
  | i, raw :: rest => do
    let x ← readValue (place ++ [.index i]) raw
    return x :: (← readValues place (i + 1) rest)

def readPair (make : Operand → Operand → Node) (tag : String)
    (condition : Nat → Operand → Reading Operand) (arguments : List Operand) (place : Place) :
    Reading Operand := do
  match arguments with
  | [l, r] =>
    let left ← condition 1 l
    let right ← condition 2 r
    addNode (make left right)
  | _ => wrongCount tag 2 arguments place

def readSingle (make : Operand → Node) (tag : String)
    (argument : Nat → Operand → Reading Operand) (arguments : List Operand) (place : Place) :
    Reading Operand := do
  match arguments with
  | [x] => addNode (make (← argument 1 x))
  | _ => wrongCount tag 1 arguments place

/-- A node of a value and the values it is compared with. -/
def readMembership (make : Operand → Operand → Node) (tag : String)
    (arguments : List Operand) (place : Place) : Reading Operand := do
  match arguments with
  | x :: y :: rest =>
    let operand ← readValue (place ++ [.index 1]) x
    let values ← readValues place 2 (y :: rest)
    addNode (make operand (← addPart (.tuple values)))
  | _ => refuse (.nothingToCompare tag) place

def readReference (arguments : List Operand) (place : Place) : Reading Operand :=
  match arguments with
  | [.lit (.text name)] => addNode (.reference (.lit (.text name)))
  | [_] => refuse .nameNotText place
  | _ => wrongCount "macro" 1 arguments place

/-- A node by its tag. `condition` reads a condition at a place. -/
def readTagged (ext : Extensions) (condition : Place → Operand → Reading Operand)
    (tag : String) (arguments : List Operand) (place : Place) : Reading Operand :=
  let child i raw := condition (place ++ [.index i]) raw
  let value i raw := readValue (place ++ [.index i]) raw
  match tag with
  | "and" => readPair .and tag child arguments place
  | "or" => readPair .or tag child arguments place
  | "not" => readSingle .not tag child arguments place
  | "<" => readPair .lessThan tag value arguments place
  | ">" => readPair .greaterThan tag value arguments place
  | "=" => readMembership .equal tag arguments place
  | "!=" => readMembership .notEqual tag arguments place
  | "is-empty" => readSingle .isEmpty tag value arguments place
  | "not-empty" => readSingle .notEmpty tag value arguments place
  | "macro" => readReference arguments place
  | "field" => readField arguments place
  | _ =>
    match ext.find? tag with
    | some reader =>
      reader arguments (condition (place ++ [.passedOn])) (readValue (place ++ [.passedOn]))
    | none => refuse (.unknownTag (Text.Escaped.text tag)) place

/-- The tag that a circular form is reported with. -/
def tagText (g : Graph) : Operand → String
  | .lit (.text t) => t
  | x => g.kind x

/-- A condition. `above` holds the lists around it, nearest first, and at most `room`
further levels are followed. -/
def readCondition (ext : Extensions) :
    Nat → List Operand → Place → Operand → Reading Operand
  | 0, _, _, _ => throw .nestedTooDeep
  | room + 1, above, place, raw => do
    match ← look fun m => m.graph.items? raw with
    | none | some [] => refuse .notAList place
    | some (tag :: arguments) =>
      if raw ∈ above then throw (.circular (← look fun m => tagText m.graph tag) none)
      else match ← look fun m => known? m raw with
        | some node => return node
        | none =>
          match tag with
          | .lit (.text t) =>
            let node ←
              readTagged ext (readCondition ext room (raw :: above)) t arguments place
            remember raw node
            return node
          | _ => refuse .tagNotText place

/-- Reads a raw form: its root node and the graph that holds it. -/
def read (ext : Extensions) (g : Graph) (raw : Operand) : Except Fault (Operand × Graph) := do
  let (root, memory) ← (readCondition ext nestingLimit [] [] raw).run ⟨g, {}⟩
  return (root, memory.graph)

end FilterCompiler.RawForm
