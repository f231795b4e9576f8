import FilterCompiler.Graph

/-! Operands as messages show them. A literal on its own is shown plainly; a collection
shows its items between brackets and a node its arguments by name. A part inside itself
is shown by dots. There is no text when an integer in it is too long for one. -/

namespace FilterCompiler

namespace Node

def named : Node → List (String × Operand)
  | and l r | or l r | lessThan l r | greaterThan l r => [("left", l), ("right", r)]
  | not x => [("operand", x)]
  | equal x values | notEqual x values => [("operand", x), ("values", values)]
  | isEmpty x | notEmpty x => [("value", x)]
  | reference x => [("name", x)]
  | field x => [("number", x)]
  | custom _ _ named => named
  | select s => [("list", s.list), ("from_", s.source), ("where", s.condition), ("limit", s.limit)]

theorem named_values (n : Node) : n.named.map Prod.snd = n.arguments := by
  cases n <;> rfl

end Node

namespace Graph

def bracketed (opening closing : String) (items : List String) : String :=
  opening ++ ", ".intercalate items ++ closing

/-- A row between round brackets; a single item is followed by a comma. -/
def rowText : List String → String
  | [item] => "(" ++ item ++ ",)"
  | items => bracketed "(" ")" items

/-- A part whose arguments are shown by `inner`. -/
def partText? (inner : Operand → Option String) : Part → Option String
  | .list items => (bracketed "[" "]") <$> items.mapM inner
  | .tuple items => rowText <$> items.mapM inner
  | .record entries => (bracketed "\x7b" "\x7d") <$> entries.mapM fun (k, v) =>
      return (← inner k) ++ ": " ++ (← inner v)
  | .ordered entries => (bracketed "ordereddict([" "])") <$> entries.mapM fun (k, v) =>
      return rowText [← inner k, ← inner v]
  | .set items => (bracketed "\x7b" "\x7d") <$> items.mapM inner
  | .node n => do
    let arguments ← n.named.mapM fun (name, x) => return name ++ "=" ++ (← inner x)
    return n.kind ++ bracketed "(" ")" arguments

/-- What stands for a part inside itself. -/
def dots : Part → String
  | .list _ => "[...]"
  | .tuple _ => "(...)"
  | .record _ => "\x7b...\x7d"
  | .set _ => "set(...)"
  | .ordered _ | .node _ => "..."

/-- An operand inside another one; `shown` holds the parts around it, `room` bounds their
number. -/
def nested? (g : Graph) : Nat → List Nat → Operand → Option String
  | _, _, .lit v => v.nested?
  | 0, _, .part _ => some "..."
  | room + 1, shown, .part number =>
    match g.get? number with
    | none => Literal.nested? .null
    | some p =>
      if shown.contains number then some (dots p)
      else partText? (g.nested? room (number :: shown)) p

def text? (g : Graph) : Operand → Option String
  | .lit v => v.plain?
  | x => g.nested? (g.parts.size + 1) [] x

end Graph

end FilterCompiler
