import FilterCompiler.Fault
import FilterCompiler.Graph.Text
import FilterCompiler.Json

/-! JSON values in a graph. Every array and object becomes a part of its own, so data that
came as JSON never share a part and never contain themselves. -/

namespace FilterCompiler.Graph

mutual

def addData (g : Graph) : Json → Operand × Graph
  | .null => (.lit .null, g)
  | .truth b => (.lit (.truth b), g)
  | .integer n => (.lit (.integer n), g)
  | .float x => (.lit (.float x), g)
  | .text s => (.lit (.text s), g)
  | .array items =>
    let (xs, g) := addItems [] g items
    g.add (.list xs)
  | .object entries =>
    let (es, g) := addEntries [] g entries
    g.add (.record es)

/-- Adds items behind those of `acc`, which holds them with the last one first. -/
def addItems (acc : List Operand) (g : Graph) : List Json → List Operand × Graph
  | [] => (acc.reverse, g)
  | x :: rest =>
    let (y, g) := addData g x
    addItems (y :: acc) g rest

/-- Adds entries behind those of `acc`, which holds them with the last one first. -/
def addEntries (acc : List (Operand × Operand)) (g : Graph) :
    List (String × Json) → List (Operand × Operand) × Graph
  | [] => (acc.reverse, g)
  | (name, x) :: rest =>
    let (y, g) := addData g x
    addEntries ((.lit (.text name), y) :: acc) g rest

end

def literalData : Literal → Except Fault Json
  | .null => .ok .null
  | .truth b => .ok (.truth b)
  | .integer n => .ok (.integer n)
  | .text s => .ok (.text s)
  | .float (.finite negative mantissa exponent) =>
    .ok (.float (.finite negative mantissa exponent))
  | .float _ => .error .unwritable
  | v => .error (.noData v.kind)

/-- An operand as a JSON value, followed to a depth. A node is an object of its arguments. -/
def toData (g : Graph) : Nat → Operand → Except Fault Json
  | _, .lit v => literalData v
  | 0, _ => .error .nestedTooDeep
  | depth + 1, x =>
    match g.part? x with
    | some (.list xs) | some (.tuple xs) =>
      Json.array <$> xs.mapM (toData g depth)
    | some (.record entries) | some (.ordered entries) =>
      Json.object <$> entries.mapM fun (k, v) =>
        return ((g.text? k).getD "", ← toData g depth v)
    | some (.node n) =>
      Json.object <$> n.named.mapM fun (name, v) => return (name, ← toData g depth v)
    | some (.set _) => .error (.noData (g.kind x))
    | none => .ok .null

end FilterCompiler.Graph
