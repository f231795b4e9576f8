import FilterCompiler.Log
import FilterCompiler.Query
import FilterCompiler.Registry

/-! The compiler: a table, named conditions and a registry of dialects, bound once. It
turns a dialect's name, a field map and a query into a statement or into the first fault. A fault
from elsewhere has to be worded before it can be reported; one that cannot be worded leaves
the compiler as the fault that wording it ends in. -/

namespace FilterCompiler

structure Report where
  success : Bool
  data : Option String := none
  fault : Option Fault := none
deriving DecidableEq, Repr

/-- The statement of a success; the fault of a failure. -/
def Report.unwrap (r : Report) : Rendered :=
  match r.fault, r.data with
  | some f, _ => .error f
  | none, some sql => .ok sql
  | none, none => .error .emptyOutcome

/-- What one compilation comes to: it reports something, or a fault leaves it. -/
inductive Outcome where
  | reported (report : Report)
  | left (fault : Fault)
deriving DecidableEq, Repr

namespace Outcome

def ok (sql : String) : Outcome := .reported ⟨true, some sql, none⟩

def failed (f : Fault) : Outcome := .reported ⟨false, none, some f⟩

@[simp] theorem ok_inj {sql sql' : String} : ok sql = ok sql' ↔ sql = sql' := by simp [ok]

@[simp] theorem failed_inj {f f' : Fault} : failed f = failed f' ↔ f = f' := by simp [failed]

@[simp] theorem ok_ne_failed {sql : String} {f : Fault} : ok sql ≠ failed f := by
  simp [ok, failed]

@[simp] theorem failed_ne_ok {f : Fault} {sql : String} : failed f ≠ ok sql := ok_ne_failed.symm

@[simp] theorem left_ne_ok {f : Fault} {sql : String} : left f ≠ ok sql := by simp [ok]

@[simp] theorem left_ne_failed {f f' : Fault} : left f ≠ failed f' := by simp [failed]

end Outcome

structure Compiler where
  table : Operand := .lit .null
  definitions : Definitions := []
  registry : Registry Dialect := Registry.builtin
  room : Nat := nestingLimit

namespace Compiler

def dialects (c : Compiler) : List String := c.registry.available

/-- What a query is rendered from: everything of the compiler's table. -/
def selection (c : Compiler) (q : Query) : Selection :=
  ⟨.lit (.text "*"), c.table, q.condition, q.limit⟩

/-- The statement of a query without its semicolon. -/
def statement (c : Compiler) (g : Graph) (dialect : String) (fields : Fields) (q : Query) :
    Rendered := do
  let d ← c.registry.get dialect
  let (root, graph) := g.add (.node (.select (c.selection q)))
  d.formatStatement { graph, fields, definitions := c.definitions, room := c.room } root

/-- The outcome of a rendered statement, to which a semicolon is added. A fault is reported under
the dialect's name, unless it cannot be worded. -/
def outcome (dialect : String) : Rendered → Outcome
  | .ok sql => .ok (sql ++ ";")
  | .error f =>
    match f.wording with
    | .ok _ => .failed (f.within dialect)
    | .error failure => .left failure

def compile (c : Compiler) (g : Graph) (dialect : String) (fields : Fields) (q : Query) :
    Outcome :=
  outcome dialect (c.statement g dialect fields q)

/-- What compiling writes to the log: a statement without its semicolon, or the fault that is
reported. -/
def entry? (dialect : String) (statement : Rendered) : Option LogEntry :=
  match statement, outcome dialect statement with
  | .ok sql, _ => some ⟨.debug, "filterql.transpiler",
      "compiled query for dialect=" ++ dialect ++ ": " ++ sql⟩
  | .error _, .reported ⟨_, _, some f⟩ => some ⟨.warning, "filterql.transpiler",
      "compile failed (dialect=" ++ dialect ++ ", code=" ++ f.code?.getD "" ++ "): " ++ f.message⟩
  | .error _, _ => none

theorem outcome_eq_ok_iff {dialect : String} {r : Rendered} {sql : String} :
    outcome dialect r = .ok sql ↔ ∃ body, r = .ok body ∧ sql = body ++ ";" := by
  cases r with
  | ok body => simp [outcome, eq_comm]
  | error f => cases h : f.wording <;> simp [outcome, h]

end Compiler

end FilterCompiler
