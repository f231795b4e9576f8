import FilterCompiler.Sql.Statement

/-! A parser of SQL texts for the dialects that can be checked. Statements end at semicolons; a
comment behind a semicolon counts as a statement. Nothing that is proved of the service rests on
how it works. -/

namespace FilterCompiler.Sql

/-- The rules of the dialects, by the parser's names for them. -/
def rules : NameTable Rules :=
  [("postgres", .postgres), ("mysql", .mysql), ("tsql", .sqlserver)]

/-- Tokens between semicolons. A noted semicolon is a run of its own. -/
def runs (ts : List Token) : List (List Token) :=
  let (done, last) := ts.foldl (fun (done, run) t =>
    match t with
    | .semicolon true => ([t] :: run :: done, [])
    | .semicolon false => (run :: done, [])
    | t => (done, t :: run)) ([], [])
  (last :: done).reverse.map List.reverse

/-- The statement of a run; an empty run has none. -/
def statement? (r : Rules) (run : List Token) : Option (Option Statement) :=
  if run.isEmpty then some none else (Statement.read? r run).map some

/-- The text that stands for everything that can be wrong with an SQL text. -/
def unreadable : String := "Cannot read the SQL text"

def parse : Parser := fun target sql =>
  let found := do
    let r ← rules.find? target
    (runs (← Token.ofText? r sql)).mapM (statement? r)
  match found with
  | some statements => .ok statements
  | none => .error (.refused unreadable)

end FilterCompiler.Sql
