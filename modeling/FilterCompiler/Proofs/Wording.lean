import FilterCompiler.Compiler
import FilterCompiler.Proofs.Plainness
import FilterCompiler.Proofs.Walk

/-! Faults that can be worded. A fault leaves the compiler only if it cannot be worded, and only
what an application puts in place of a capability fails in that way. Proved here: whatever goes
wrong while a built-in dialect writes a statement can be worded, so compiling for one always ends
in a report. -/

namespace FilterCompiler

namespace Dialect

variable {s : Scope} {express : Operand → Rendered}

theorem sourceClause_worded (source : Operand) :
    FailsOnly Fault.IsWorded (sourceClause s source) := by
  unfold sourceClause
  split
  · exact ((s.plain_text source).imp fun _ => Fault.isWorded_of_isPlain).bind fun _ => .ok _
  · exact .ok _

theorem conditionClause_worded (h : ∀ x, FailsOnly Fault.IsWorded (express x))
    (condition : Operand) : FailsOnly Fault.IsWorded (conditionClause express condition) := by
  unfold conditionClause
  split
  · exact .ok _
  · exact (h condition).bind fun _ => .ok _

theorem limitClause_worded (keyword : String) (limit : Operand) :
    FailsOnly Fault.IsWorded (limitClause s keyword limit) := by
  unfold limitClause
  split
  · exact .ok _
  · exact ((s.plain_text limit).imp fun _ => Fault.isWorded_of_isPlain).bind fun _ => .ok _

theorem assemble_worded (before : List String) (list : Operand) (after : List String) :
    FailsOnly Fault.IsWorded (assemble s before list after) := by
  unfold assemble
  split
  · exact .ok _
  · exact .error rfl

theorem selectLimit_worded (h : ∀ x, FailsOnly Fault.IsWorded (express x)) (x : Operand) :
    FailsOnly Fault.IsWorded (selectLimit s express x) := by
  unfold selectLimit
  split
  · exact (sourceClause_worded _).bind fun _ => (conditionClause_worded h _).bind fun _ =>
      (limitClause_worded _ _).bind fun _ => assemble_worded _ _ _
  · exact .error rfl

theorem selectTop_worded (h : ∀ x, FailsOnly Fault.IsWorded (express x)) (x : Operand) :
    FailsOnly Fault.IsWorded (selectTop s express x) := by
  unfold selectTop
  split
  · exact (limitClause_worded _ _).bind fun _ => (sourceClause_worded _).bind fun _ =>
      (conditionClause_worded h _).bind fun _ => assemble_worded _ _ _
  · exact .error rfl

end Dialect

namespace BuiltIn

variable (b : BuiltIn) (s : Scope)

theorem express_worded (room : Nat) (path : List Operand) (x : Operand) :
    FailsOnly Fault.IsWorded (b.dialect.express s room path x) := by
  intro e h
  rcases Scope.origin_of_express_eq_error h with rfl | ⟨y, _, _, rfl⟩ | ⟨y, _, hy⟩
  · rfl
  · rfl
  · exact Fault.isWorded_of_isPlain (s.plain_shape y e hy)

theorem formatStatement_worded (x : Operand) :
    FailsOnly Fault.IsWorded (b.dialect.formatStatement s x) := by
  have hexpress := b.express_worded s s.room []
  cases b with
  | sqlserver => exact Dialect.selectTop_worded hexpress x
  | postgres | mysql => exact Dialect.selectLimit_worded hexpress x

end BuiltIn

namespace Compiler

/-- The report of a rendered statement whose fault can be worded. -/
def told (dialect : String) : Rendered → Outcome
  | .ok sql => .ok (sql ++ ";")
  | .error f => .failed (f.within dialect)

theorem outcome_eq_told {dialect : String} {r : Rendered} (h : FailsOnly Fault.IsWorded r) :
    outcome dialect r = told dialect r := by
  cases r with
  | ok sql => rfl
  | error f => rw [outcome, h f rfl, told]

theorem told_eq_ok_iff {dialect : String} {r : Rendered} {sql : String} :
    told dialect r = .ok sql ↔ ∃ body, r = .ok body ∧ sql = body ++ ";" := by
  cases r <;> simp [told, eq_comm]

variable {c : Compiler} {g : Graph} {fields : Fields} {q : Query} {b : BuiltIn}

/-- What a query is rendered in: the graph with the selection at its end, and what the fields
and names stand for. -/
def scope (c : Compiler) (g : Graph) (fields : Fields) (q : Query) : Scope :=
  ⟨(g.add (.node (.select (c.selection q)))).2, fields, c.definitions, c.room⟩

theorem get_builtin (b : BuiltIn) : Registry.builtin.get b.name = .ok b.dialect := by
  cases b <;> rfl

/-- What is not known by its name fails by its name. -/
theorem compile_of_find?_eq_none {c : Compiler} {name : String}
    (h : c.registry.entries.find? name = none) (g : Graph) (fields : Fields) (q : Query) :
    c.compile g name fields q = .failed (.unknownDialect name c.registry.available) := by
  rw [compile, statement, Registry.get, h]
  rfl

/-- The outcome of a query for a dialect that is known. -/
theorem compile_eq_of_get {name : String} {d : Dialect} (h : c.registry.get name = .ok d) :
    c.compile g name fields q =
      outcome name (d.formatStatement (c.scope g fields q) (.part g.parts.size)) := by
  rw [compile, statement, h, ok_bind]
  rfl

/-- The outcome of a query under a name that stands for a built-in dialect. -/
theorem compile_eq_told_of_get {name : String} (h : c.registry.get name = .ok b.dialect) :
    c.compile g name fields q =
      told name (b.dialect.formatStatement (c.scope g fields q) (.part g.parts.size)) := by
  rw [compile_eq_of_get h, outcome_eq_told (b.formatStatement_worded _ _)]

/-- The outcome of a query for a built-in dialect. -/
theorem compile_eq (hc : c.registry = .builtin) :
    c.compile g b.name fields q =
      told b.name (b.dialect.formatStatement (c.scope g fields q) (.part g.parts.size)) :=
  compile_eq_told_of_get (hc ▸ get_builtin b)

end Compiler

end FilterCompiler
