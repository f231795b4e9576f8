import FilterCompiler.Scope
import FilterCompiler.Text.Quoted

/-! Dialects. A dialect is a record of four capabilities, each of which may fail: how a
statement, a column name, a value and a node of a condition are written. A capability gets
what it needs of the whole dialect as functions, so replacing one capability is felt at
every depth. Conditions are followed along a path of operands; an operand that is met
again on its own path is a circular dependency. -/

namespace FilterCompiler

/-- The capabilities that make up a dialect. The statement writer gets the function that
writes conditions, the value writer the one for columns, and the node writer the ones for
values and for the conditions below the node. -/
structure Dialect where
  statement : Scope → (Operand → Rendered) → Operand → Rendered
  column : String → Rendered
  value : Scope → (String → Rendered) → Operand → Rendered
  operator : Scope → (Operand → Rendered) → (Operand → Rendered) → Operand → Rendered

namespace Dialect

/-! ### Rendering with a dialect -/

def formatValue (d : Dialect) (s : Scope) (x : Operand) : Rendered := d.value s d.column x

/-- The name in a reference, if an operand is one. -/
def referenceName? (g : Graph) (x : Operand) : Option Operand :=
  match g.node? x with
  | some (.reference name) => some name
  | _ => none

/-- The fault of an operand met again on its own path. -/
def circularAt (g : Graph) (x : Operand) : Fault := .circular (g.tag x) (referenceName? g x)

/-- A condition in the dialect. `path` holds what stands above it, nearest first, and at
most `room` further levels are followed. -/
def express (d : Dialect) (s : Scope) : Nat → List Operand → Operand → Rendered
  | 0, _, _ => .error .nestedTooDeep
  | room + 1, path, x =>
    if x ∈ path then .error (circularAt s.graph x)
    else d.operator s (d.formatValue s) (d.express s room (x :: path)) x

/-- A node in the dialect, its own operand not counted as part of the path. -/
def formatOperator (d : Dialect) (s : Scope) (x : Operand) : Rendered :=
  d.operator s (d.formatValue s) (d.express s s.room []) x

def formatStatement (d : Dialect) (s : Scope) (x : Operand) : Rendered :=
  d.statement s (d.express s s.room []) x

/-! ### Capabilities that the built-in dialects share -/

/-- `FROM` and a source, if there is one. -/
def sourceClause (s : Scope) (source : Operand) : Except Fault (List String) := do
  if s.graph.isPresent source then return ["FROM " ++ (← s.text source)] else return []

/-- `WHERE` and a condition, if there is one. -/
def conditionClause (express : Operand → Rendered) (condition : Operand) :
    Except Fault (List String) := do
  if condition = .lit .null then return [] else return ["WHERE " ++ (← express condition)]

/-- A keyword and a limit, if there is one. -/
def limitClause (s : Scope) (keyword : String) (limit : Operand) :
    Except Fault (List String) := do
  if limit = .lit .null then return [] else return [keyword ++ " " ++ (← s.text limit)]

/-- The clauses before the list, the list, and the clauses after it. The list has to be a
text. -/
def assemble (s : Scope) (before : List String) (list : Operand) (after : List String) :
    Rendered :=
  match list with
  | .lit (.text t) => .ok (" ".intercalate (before ++ t :: after))
  | x => .error (.listedNotText before.length (s.graph.kind x))

/-- `SELECT list FROM source WHERE condition LIMIT n`, each clause only if it is given. -/
def selectLimit (s : Scope) (express : Operand → Rendered) (x : Operand) : Rendered := do
  match s.graph.node? x with
  | some (.select q) =>
    let source ← sourceClause s q.source
    let condition ← conditionClause express q.condition
    let limit ← limitClause s "LIMIT" q.limit
    assemble s ["SELECT"] q.list (source ++ condition ++ limit)
  | _ => throw (.unsupportedNode (s.graph.kind x))

/-- `SELECT TOP n list FROM source WHERE condition`, each clause only if it is given. -/
def selectTop (s : Scope) (express : Operand → Rendered) (x : Operand) : Rendered := do
  match s.graph.node? x with
  | some (.select q) =>
    let limit ← limitClause s "TOP" q.limit
    let source ← sourceClause s q.source
    let condition ← conditionClause express q.condition
    assemble s ("SELECT" :: limit) q.list (source ++ condition)
  | _ => throw (.unsupportedNode (s.graph.kind x))

def quoteColumn (name : String) : Rendered := .ok (Text.Quoted.quote '"' name)

def backtickColumn (name : String) : Rendered := .ok (Text.Quoted.quote '\x60' name)

/-- A field as its column and a literal of a common kind in its notation. -/
def commonValue (s : Scope) (column : String → Rendered) (x : Operand) : Rendered :=
  match x with
  | .lit .null => .ok "NULL"
  | .lit (.truth b) => .ok (if b then "TRUE" else "FALSE")
  | .lit (.text t) => .ok (Text.Quoted.quote '\'' t)
  | .lit (.integer _) | .lit (.float _) | .lit (.decimal _) => s.text x
  | _ =>
    match s.graph.node? x with
    | some (.field number) => do column (← s.column number)
    | _ => .error (.unsupportedValue (s.graph.kind x))

/-- One side of a junction: in parentheses when it is a junction itself. -/
def side (s : Scope) (express : Operand → Rendered) (x : Operand) : Rendered := do
  let text ← express x
  if (s.graph.node? x).any Node.isJunction then return "(" ++ text ++ ")" else return text

def junction (s : Scope) (express : Operand → Rendered) (keyword : String)
    (left right : Operand) : Rendered := do
  return (← side s express left) ++ keyword ++ (← side s express right)

/-- The values of a comparison one by one. -/
def valuesOf (s : Scope) (x : Operand) : Except Fault (List Operand) :=
  match s.graph.elements? x with
  | some values => .ok values
  | none => .error (.sizeless (s.graph.kind x))

/-- A comparison with one value is a plain one, or a null check; with several it is a
membership test. -/
def membership (s : Scope) (value : Operand → Rendered) (negated : Bool)
    (operand values : Operand) : Rendered := do
  let left ← value operand
  match ← valuesOf s values with
  | [.lit .null] => return left ++ (if negated then " IS NOT NULL" else " IS NULL")
  | [only] => return left ++ (if negated then " <> " else " = ") ++ (← value only)
  | values =>
    let items ← values.mapM value
    return left ++ (if negated then " NOT IN (" else " IN (") ++ ", ".intercalate items ++ ")"

def comparison (value : Operand → Rendered) (sign : String) (left right : Operand) :
    Rendered := do
  return (← value left) ++ sign ++ (← value right)

/-- A node of the built-in kinds. -/
def commonOperator (s : Scope) (value express : Operand → Rendered) (x : Operand) :
    Rendered := do
  match s.graph.node? x with
  | some (.and left right) => junction s express " AND " left right
  | some (.or left right) => junction s express " OR " left right
  | some (.not operand) => return "NOT (" ++ (← express operand) ++ ")"
  | some (.lessThan left right) => comparison value " < " left right
  | some (.greaterThan left right) => comparison value " > " left right
  | some (.equal operand values) => membership s value false operand values
  | some (.notEqual operand values) => membership s value true operand values
  | some (.isEmpty operand) => return (← value operand) ++ " IS NULL"
  | some (.notEmpty operand) => return (← value operand) ++ " IS NOT NULL"
  | some (.field _) => value x
  | some (.reference name) => express (← s.resolve name)
  | _ => throw (.unsupportedNode (s.graph.kind x))

/-! ### The built-in dialects -/

/-- The dialect that all others vary. -/
def common : Dialect := ⟨selectLimit, quoteColumn, commonValue, commonOperator⟩

def postgres : Dialect := common

def mysql : Dialect := { common with column := backtickColumn }

def sqlserver : Dialect := { common with statement := selectTop }

def builtin : NameTable Dialect :=
  [("postgres", postgres), ("mysql", mysql), ("sqlserver", sqlserver)]

end Dialect

end FilterCompiler
