import FilterCompiler.Proofs.Statement
import FilterCompiler.Proofs.Wording

/-! Compiling for a built-in dialect. The table and the limit never fail, if the one is absent or
a text and the other is absent or short enough, so what compiling comes to is a matter of the
condition alone. Proved here: an absent condition or one that stands for a formula gives the
statement that says so, and any other gives the fault of writing it. -/

namespace FilterCompiler

/-! ### The clauses as they are written -/

/-- The operand of a table. -/
def tableOperand : Option String → Operand
  | none => .lit .null
  | some t => .lit (.text t)

/-- The operand of a limit. -/
def limitOperand : Option Nat → Operand
  | none => .lit .null
  | some n => .lit (.integer n)

/-- The table that a statement names: an empty one is as good as none. -/
def namedTable (table : Option String) : Option String := table.filter (· ≠ "")

theorem namedTable_of_isIdentifier {table : Option String} (h : ∀ t ∈ table, IsIdentifier t) :
    namedTable table = table := by
  cases table with
  | none => rfl
  | some t => simp [namedTable, (h t rfl).1]

namespace Dialect

theorem sourceClause_eq (s : Scope) (mark : Char) (table : Option String) :
    sourceClause s (tableOperand table) =
      .ok ((namedTable table).toList.map fun t => (Clause.source t).write mark) := by
  cases table with
  | none => rfl
  | some t =>
    by_cases ht : t = ""
    · subst ht
      rfl
    · have hp : s.graph.isPresent (.lit (.text t)) = true := by
        simpa [Graph.isPresent, Literal.isPresent] using ht
      have hn : namedTable (some t) = some t := by simp [namedTable, ht]
      rw [tableOperand, sourceClause, if_pos hp, hn]
      rfl

theorem limitClause_eq (s : Scope) (mark : Char) (atHead : Bool) {limit : Option Nat}
    (h : ∀ n ∈ limit, n < Integer.textBound) :
    limitClause s (Clause.limitWord atHead) (limitOperand limit) =
      .ok (limit.toList.map fun n => (Clause.limit atHead n).write mark) := by
  cases limit with
  | none => rfl
  | some n =>
    have htext : s.text (.lit (.integer n)) = .ok (Integer.text n) := by
      have hn := h n rfl
      have hshown : Integer.text? n = some (Integer.text n) := by
        rw [Integer.text?, Int.natAbs_natCast, if_pos hn]
      simp only [Scope.text, Graph.text?, Literal.plain?, hshown]
    rw [limitOperand, limitClause, if_neg (by simp), htext]
    rfl

theorem conditionClause_of_ne {express : Operand → Rendered} {x : Operand}
    (h : x ≠ .lit .null) :
    conditionClause express x = (express x).map fun text => ["WHERE " ++ text] := by
  rw [conditionClause, if_neg h]
  cases express x <;> rfl

end Dialect

namespace BuiltIn

variable (b : BuiltIn)

/-- A statement whose table and limit can be written is written as its condition is. -/
theorem formatStatement_eq {s : Scope} {root : Operand} {q : Selection} {table : Option String}
    {limit : Option Nat} {r : Except Fault (Option Formula)}
    (hroot : s.graph.node? root = some (.select q)) (hlist : q.list = .lit (.text "*"))
    (hsource : q.source = tableOperand table)
    (hlimit : q.limit = limitOperand limit) (hbound : ∀ n ∈ limit, n < Integer.textBound)
    (hcondition : Dialect.conditionClause (b.dialect.express s s.room []) q.condition =
      r.map fun f => f.toList.map fun f => (Clause.condition f).write b.mark) :
    b.dialect.formatStatement s root =
      r.map fun f => Statement.write b ⟨namedTable table, f, limit⟩ := by
  have hsource' := Dialect.sourceClause_eq s b.mark table
  have hlimit' := Dialect.limitClause_eq s b.mark b.limitAtHead hbound
  rw [← hsource] at hsource'
  rw [← hlimit] at hlimit'
  have hassemble (before after : List String) :
      Dialect.assemble s before q.list after = .ok (" ".intercalate (before ++ "*" :: after)) := by
    rw [hlist]
    rfl
  cases b with
  | sqlserver =>
    change Dialect.limitClause s "TOP" q.limit = _ at hlimit'
    change Dialect.selectTop s _ root = _
    rw [Dialect.selectTop, hroot]
    dsimp only
    rw [hlimit', hsource', hcondition]
    cases r with
    | error e => rfl
    | ok f =>
      simp [hassemble, Statement.write, Statement.clauses, limitAtHead, Statement.limits,
        Statement.tail, Clause.write, Function.comp_def]
  | postgres | mysql =>
    change Dialect.limitClause s "LIMIT" q.limit = _ at hlimit'
    change Dialect.selectLimit s _ root = _
    rw [Dialect.selectLimit, hroot]
    dsimp only
    rw [hsource', hcondition, hlimit']
    cases r with
    | error e => rfl
    | ok f =>
      simp [hassemble, Statement.write, Statement.clauses, limitAtHead, Statement.limits,
        Statement.tail, Clause.write, Function.comp_def]

end BuiltIn

/-! ### Compiling -/

/-- Where a condition may be absent: it is, or it stands for a formula. -/
inductive Scope.Means (s : Scope) : Operand → Option Formula → Prop where
  | absent : Means s (.lit .null) none
  | formula {x : Operand} {f : Formula} (stands : s.Stands x f) : Means s x (some f)

theorem Scope.Means.wellShown {s : Scope} {x : Operand} {f : Option Formula} (h : s.Means x f) :
    ∀ f' ∈ f, ∀ t ∈ f'.terms, t.WellShown := by
  cases h with
  | absent => simp
  | formula stands => simpa using stands.wellShown

namespace Compiler

variable {c : Compiler} {g : Graph} {fields : Fields} {q : Query} {b : BuiltIn}
  {table : Option String} {limit : Option Nat}

theorem node?_scope : (c.scope g fields q).graph.node? (.part g.parts.size) =
    some (.select (c.selection q)) := by
  have h := g.get?_add (.node (.select (c.selection q))) g.parts.size
  rw [if_pos rfl] at h
  simp only [Graph.node?, Graph.part?, scope, h]

/-- What compiling comes to is a matter of the condition. -/
theorem compile_of_condition (hc : c.registry = .builtin) (htable : c.table = tableOperand table)
    (hlimit : q.limit = limitOperand limit) (hbound : ∀ n ∈ limit, n < Integer.textBound)
    {r : Except Fault (Option Formula)}
    (hcondition : Dialect.conditionClause
        (b.dialect.express (c.scope g fields q) c.room []) q.condition =
      r.map fun f => f.toList.map fun f => (Clause.condition f).write b.mark) :
    c.compile g b.name fields q =
      told b.name (r.map fun f => Statement.write b ⟨namedTable table, f, limit⟩) := by
  rw [compile_eq hc, b.formatStatement_eq node?_scope rfl htable hlimit hbound hcondition]

/-- A condition that is absent or stands for a formula is compiled, unless it is nested too
deep. -/
theorem compile_of_means (hc : c.registry = .builtin) (htable : c.table = tableOperand table)
    (hlimit : q.limit = limitOperand limit) (hbound : ∀ n ∈ limit, n < Integer.textBound)
    {f : Option Formula} (h : (c.scope g fields q).Means q.condition f) :
    c.compile g b.name fields q =
      if ∀ f' ∈ f, f'.depth ≤ c.room then
        .ok (Statement.write b ⟨namedTable table, f, limit⟩ ++ ";")
      else .failed (Fault.nestedTooDeep.within b.name) := by
  generalize hx : q.condition = x at h
  cases h with
  | absent =>
    rw [compile_of_condition hc htable hlimit hbound (r := .ok none), if_pos (by simp)]
    · rfl
    · rw [hx]
      rfl
  | @formula _ f stands =>
    have hexpress := stands.express b c.room [] (by simp)
    have hdepth : (∀ f' ∈ some f, f'.depth ≤ c.room) ↔ f.depth ≤ c.room := by simp
    rw [if_congr hdepth rfl rfl, compile_of_condition hc htable hlimit hbound
      (r := if f.depth ≤ c.room then .ok (some f) else .error .nestedTooDeep)]
    · split <;> rfl
    · rw [hx, Dialect.conditionClause_of_ne stands.ne_null, hexpress]
      split <;> rfl

/-- A fault of writing the condition is the fault of compiling. -/
theorem compile_of_error (hc : c.registry = .builtin) (htable : c.table = tableOperand table)
    (hlimit : q.limit = limitOperand limit) (hbound : ∀ n ∈ limit, n < Integer.textBound)
    (hx : q.condition ≠ .lit .null) {e : Fault}
    (h : b.dialect.express (c.scope g fields q) c.room [] q.condition = .error e) :
    c.compile g b.name fields q = .failed (e.within b.name) := by
  rw [compile_of_condition hc htable hlimit hbound (r := .error e)]
  · rfl
  · rw [Dialect.conditionClause_of_ne hx, h]
    rfl

/-- What compiles says the statement that it is compiled to. -/
theorem compile_eq_ok_iff_means (hc : c.registry = .builtin) (htable : c.table = tableOperand table)
    (hlimit : q.limit = limitOperand limit) (hbound : ∀ n ∈ limit, n < Integer.textBound)
    {sql : String} :
    c.compile g b.name fields q = .ok sql ↔
      ∃ f, (c.scope g fields q).Means q.condition f ∧ (∀ f' ∈ f, f'.depth ≤ c.room) ∧
        sql = Statement.write b ⟨namedTable table, f, limit⟩ ++ ";" := by
  have hok {t : String} : Outcome.ok t = .ok sql ↔ sql = t := Outcome.ok_inj.trans eq_comm
  constructor
  · intro h
    by_cases hx : q.condition = .lit .null
    · have hmeans : (c.scope g fields q).Means q.condition none := hx ▸ .absent
      rw [compile_of_means hc htable hlimit hbound hmeans, if_pos (by simp), hok] at h
      exact ⟨none, hmeans, by simp, h⟩
    · cases hexpress : b.dialect.express (c.scope g fields q) c.room [] q.condition with
      | error e =>
        rw [compile_of_error hc htable hlimit hbound hx hexpress] at h
        cases h
      | ok text =>
        obtain ⟨f, hf, hdepth, _⟩ := Scope.express_eq_ok_iff.1 hexpress
        rw [compile_of_means hc htable hlimit hbound (.formula hf), if_pos (by simpa), hok] at h
        exact ⟨some f, .formula hf, by simpa, h⟩
  · rintro ⟨f, hmeans, hdepth, rfl⟩
    rw [compile_of_means hc htable hlimit hbound hmeans, if_pos hdepth]

end Compiler

end FilterCompiler
