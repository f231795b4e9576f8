import FilterCompiler.Dialect

/-! Capabilities that an application may put in place of the common ones. Each handles
one kind of column, value or node and leaves the rest to the common capability. -/

namespace FilterCompiler.Dialect

def bracketColumn (name : String) : Rendered := .ok (Text.Quoted.enclose '[' ']' name)

def timestampValue (s : Scope) (column : String → Rendered) (x : Operand) : Rendered :=
  match x with
  | .lit (.moment m) => .ok ("TIMESTAMP '" ++ m.text ++ "'")
  | _ => commonValue s column x

def bitValue (s : Scope) (column : String → Rendered) (x : Operand) : Rendered :=
  match x with
  | .lit (.truth b) => .ok (if b then "1" else "0")
  | _ => commonValue s column x

def patternNode (value pattern : Operand) : Node :=
  .custom "Like" "like" [("value", value), ("pattern", pattern)]

def pairNode (first second : Operand) : Node :=
  .custom "Both" "both" [("first", first), ("second", second)]

def patternOperator (s : Scope) (value express : Operand → Rendered) (x : Operand) :
    Rendered := do
  match s.graph.node? x with
  | some (.custom "Like" _ [(_, v), (_, pattern)]) =>
    return (← value v) ++ " LIKE " ++ (← value pattern)
  | some (.custom "Both" _ [(_, first), (_, second)]) =>
    return "BOTH(" ++ (← express first) ++ ", " ++ (← express second) ++ ")"
  | _ => commonOperator s value express x

def bangOperator (s : Scope) (value express : Operand → Rendered) (x : Operand) :
    Rendered := do
  match s.graph.node? x with
  | some (.not operand) => return "!(" ++ (← express operand) ++ ")"
  | _ => commonOperator s value express x

end FilterCompiler.Dialect
