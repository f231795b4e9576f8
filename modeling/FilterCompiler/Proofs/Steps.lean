import FilterCompiler.Proofs.Expansion
import FilterCompiler.Proofs.Framing

/-! The order in which compiling fails. A dialect may be put together from the common
capabilities and others that fail as they like. What rendering does with it is laid out as a list
of steps, each of which fails by itself or not at all. Proved here: compiling succeeds exactly if
no step fails, and otherwise reports the fault of the first step that does, unless that fault
cannot be worded: then a fault leaves the compiler. A dialect that is not known is all that
matters. -/

namespace FilterCompiler

/-! ### Dialects that are put together -/

/-- How a dialect writes statements: with the limit behind or at the head, or in another way. -/
inductive StatementWriter where
  | common
  | atHead
  | other (write : Scope → (Operand → Rendered) → Operand → Rendered)

def StatementWriter.write : StatementWriter → Scope → (Operand → Rendered) → Operand → Rendered
  | common => Dialect.selectLimit
  | atHead => Dialect.selectTop
  | other write => write

/-- The capabilities of a dialect. Values and nodes are written in a way of their own where there
is one, and in the common way elsewhere. -/
structure Bundle where
  statement : StatementWriter
  column : String → Rendered
  value : Scope → (String → Rendered) → Operand → Option Rendered := fun _ _ _ => none
  operator : Scope → (Operand → Rendered) → (Operand → Rendered) → Operand → Option Rendered :=
    fun _ _ _ _ => none

def Bundle.dialect (b : Bundle) : Dialect where
  statement := b.statement.write
  column := b.column
  value s column x := (b.value s column x).getD (Dialect.commonValue s column x)
  operator s value express x :=
    (b.operator s value express x).getD (Dialect.commonOperator s value express x)

/-- Every dialect is put together so, if need be of nothing but its own capabilities. -/
theorem exists_bundle (d : Dialect) : ∃ b : Bundle, b.dialect = d :=
  ⟨⟨.other d.statement, d.column, fun s column x => some (d.value s column x),
    fun s value express x => some (d.operator s value express x)⟩, rfl⟩

example : Bundle.dialect ⟨.atHead, Dialect.quoteColumn, fun _ _ _ => none, fun _ _ _ _ => none⟩ =
    Dialect.sqlserver := rfl

/-! ### Faults -/

/-- The fault of what has failed. -/
def failure? {α : Type} : Except Fault α → Option Fault
  | .ok _ => none
  | .error e => some e

section failure

variable {α β : Type}

@[simp] theorem failure?_ok (a : α) : failure? (.ok a) = none := rfl

@[simp] theorem failure?_error (e : Fault) : failure? (.error e : Except Fault α) = some e := rfl

theorem failure?_eq_none_iff {r : Except Fault α} : failure? r = none ↔ ∃ a, r = .ok a := by
  cases r <;> simp

theorem failure?_eq_some_iff {r : Except Fault α} {e : Fault} :
    failure? r = some e ↔ r = .error e := by
  cases r <;> simp

@[simp] theorem failure?_map (r : Except Fault α) (f : α → β) :
    failure? (r.map f) = failure? r := by
  cases r <;> rfl

/-- Two computations in a row fail as the first one does, else as the second one. -/
theorem failure?_bind {r : Except Fault α} {f : α → Except Fault β} {second : Option Fault}
    (h : ∀ a, r = .ok a → failure? (f a) = second) :
    failure? (r >>= f) = (failure? r).or second := by
  cases r with
  | ok a => exact h a rfl
  | error e => rfl

theorem failure?_bind_of_none {r : Except Fault α} {f : α → Except Fault β}
    (h : ∀ a, failure? (f a) = none) : failure? (r >>= f) = failure? r := by
  cases r with
  | ok a => exact h a
  | error e => rfl

end failure

/-! ### Steps -/

/-- A step of rendering. A condition is looked for on its own path, the operands above it; names
and field numbers are looked up; all else is a matter of one capability. -/
inductive Bundle.Step where
  | statement (root : Operand)
  | source (x : Operand)
  | limit (x : Operand)
  | depth
  | path (above : List Operand) (x : Operand)
  | operator (room : Nat) (above : List Operand) (x : Operand)
  | kind (x : Operand)
  | name (x : Operand)
  | value (x : Operand)
  | literal (x : Operand)
  | number (x : Operand)
  | column (name : String)
  | values (x : Operand)

namespace Bundle

/-- The values of a comparison that are written one by one: all but a single NULL. -/
def compared : List Operand → List Operand
  | [.lit .null] => []
  | items => items

variable (b : Bundle) (s : Scope)

/-- The fault of a step, if it fails. -/
def fault? : Step → Option Fault
  | .statement root => failure? (b.dialect.formatStatement s root)
  | .source x | .limit x => failure? (s.text x)
  | .depth => some .nestedTooDeep
  | .path above x => if x ∈ above then some (Dialect.circularAt s.graph x) else none
  | .operator room above x =>
    failure? (b.dialect.operator s (b.dialect.formatValue s) (b.dialect.express s room above) x)
  | .kind x => some (.unsupportedNode (s.graph.kind x))
  | .name x => failure? (s.resolve x)
  | .value x => failure? (b.dialect.formatValue s x)
  | .literal (.lit .null) | .literal (.lit (.truth _)) | .literal (.lit (.text _)) => none
  | .literal (.lit (.integer n)) => failure? (s.text (.lit (.integer n)))
  | .literal (.lit (.float n)) => failure? (s.text (.lit (.float n)))
  | .literal (.lit (.decimal n)) => failure? (s.text (.lit (.decimal n)))
  | .literal x => some (.unsupportedValue (s.graph.kind x))
  | .number x => failure? (s.column x)
  | .column name => failure? (b.column name)
  | .values x => failure? (Dialect.valuesOf s x)

/-- The steps for a value: a field is looked up, and then its column is written. -/
def valueSteps (x : Operand) : List Step :=
  match b.value s b.column x with
  | some _ => [.value x]
  | none =>
    match s.graph.node? x with
    | some (.field number) =>
      .number number :: (s.column number).toOption.toList.map .column
    | _ => [.literal x]

/-- The steps for the values of a comparison. -/
def valuesSteps (x : Operand) : List Step :=
  .values x ::
    match Dialect.valuesOf s x with
    | .ok items => (compared items).flatMap (b.valueSteps s)
    | .error _ => []

/-- The steps for a node written in the common way, from left to right, with `steps` for the
conditions below it. A name is looked up, and then what it stands for is written. -/
def nodeSteps (steps : Operand → List Step) (x : Operand) : List Step :=
  match s.graph.node? x with
  | some (.and l r) | some (.or l r) => steps l ++ steps r
  | some (.not y) => steps y
  | some (.lessThan l r) | some (.greaterThan l r) => b.valueSteps s l ++ b.valueSteps s r
  | some (.equal y values) | some (.notEqual y values) =>
    b.valueSteps s y ++ b.valuesSteps s values
  | some (.isEmpty y) | some (.notEmpty y) => b.valueSteps s y
  | some (.field _) => b.valueSteps s x
  | some (.reference name) => .name name :: (s.resolve name).toOption.toList.flatMap steps
  | _ => [.kind x]

/-- The steps for a condition: first it is looked for on its own path. -/
def conditionSteps : Nat → List Operand → Operand → List Step
  | 0, _, _ => [.depth]
  | room + 1, above, x =>
    .path above x ::
      if x ∈ above then [] else
      match b.operator s (b.dialect.formatValue s) (b.dialect.express s room (x :: above)) x with
      | some _ => [.operator room (x :: above) x]
      | none => b.nodeSteps s (conditionSteps room (x :: above)) x

/-- The steps for a selection that is written from a root. -/
def statementSteps (q : Selection) (root : Operand) : List Step :=
  let source := if s.graph.isPresent q.source then [.source q.source] else []
  let condition := if q.condition = .lit .null then []
    else b.conditionSteps s s.room [] q.condition
  let limit := if q.limit = .lit .null then [] else [.limit q.limit]
  match b.statement with
  | .common => source ++ (condition ++ limit)
  | .atHead => limit ++ (source ++ condition)
  | .other _ => [.statement root]

/-- The fault of the first step that fails. -/
def firstFault? (steps : List Step) : Option Fault := steps.findSome? (b.fault? s)

variable {b s}

@[simp] theorem firstFault?_singleton (step : Step) :
    b.firstFault? s [step] = b.fault? s step := by
  rw [firstFault?, List.findSome?_cons]
  cases b.fault? s step <;> rfl

theorem firstFault?_cons (step : Step) (rest : List Step) :
    b.firstFault? s (step :: rest) = (b.fault? s step).or (b.firstFault? s rest) := by
  rw [firstFault?, List.findSome?_cons]
  cases b.fault? s step <;> rfl

theorem firstFault?_append (steps steps' : List Step) :
    b.firstFault? s (steps ++ steps') = (b.firstFault? s steps).or (b.firstFault? s steps') :=
  List.findSome?_append

theorem firstFault?_eq_none_iff {steps : List Step} :
    b.firstFault? s steps = none ↔ ∀ step ∈ steps, b.fault? s step = none :=
  List.findSome?_eq_none_iff

theorem firstFault?_eq_some {before after : List Step} {step : Step} {e : Fault}
    (hbefore : ∀ step ∈ before, b.fault? s step = none) (h : b.fault? s step = some e) :
    b.firstFault? s (before ++ step :: after) = some e := by
  rw [firstFault?_append, firstFault?_eq_none_iff.2 hbefore, firstFault?_cons, h]
  rfl

/-! ### What goes wrong in a step -/

theorem fault?_path_eq_some_iff {above : List Operand} {x : Operand} {e : Fault} :
    b.fault? s (.path above x) = some e ↔
      x ∈ above ∧ e = .circular (s.graph.tag x) (Dialect.referenceName? s.graph x) := by
  rw [fault?]
  split
  · next hx => simp [hx, Dialect.circularAt, eq_comm]
  · next hx => simp [hx]

theorem fault?_limit_eq_some_iff {x : Operand} {e : Fault} :
    b.fault? s (.limit x) = some e ↔ s.graph.text? x = none ∧ e = .integerTooLong := by
  rw [fault?, Scope.text]
  cases s.graph.text? x <;> simp [eq_comm]

theorem fault?_source_eq (x : Operand) : b.fault? s (.source x) = b.fault? s (.limit x) := rfl

/-- A field that can be looked up has a column that is not empty. -/
theorem fault?_number_eq_none_iff {x : Operand} :
    b.fault? s (.number x) = none ↔ s.checkKey x = .ok () ∧
      ∃ name, s.fields.find? s.graph x = .ok (some name) ∧ name ≠ "" := by
  rw [fault?, failure?_eq_none_iff]
  simp only [Scope.column_eq_ok_iff]
  exact ⟨fun ⟨name, hkey, h⟩ => ⟨hkey, name, h⟩, fun ⟨hkey, name, h⟩ => ⟨name, hkey, h⟩⟩

/-- A field without a column is unknown, if its number is short enough to be told. -/
theorem fault?_number_of_unknown {x : Operand} {found : Option String}
    (hkey : s.checkKey x = .ok ()) (hfind : s.fields.find? s.graph x = .ok found)
    (hfound : found.getD "" = "") :
    b.fault? s (.number x) =
      some ((s.graph.text? x).elim .integerTooLong (Fault.unknownField x)) := by
  have hcolumn : s.column x = Scope.column.unknown s x := by
    rw [Scope.column, hkey, ok_bind, hfind, ok_bind]
    cases found with
    | none => rfl
    | some name => exact if_pos hfound
  rw [fault?, hcolumn, Scope.column.unknown, Scope.text]
  cases s.graph.text? x <;> rfl

/-- A name that can be looked up is a text that stands for something. -/
theorem fault?_name_eq_none_iff {x : Operand} :
    b.fault? s (.name x) = none ↔ ∃ name body, x = .lit (.text name) ∧
      s.definitions.find? name = some body ∧ body ≠ .lit .null := by
  rw [fault?, failure?_eq_none_iff, exists_comm]
  simp only [Scope.resolve_eq_ok_iff]

theorem fault?_name_of_undefined {name : String}
    (h : ∀ body, s.definitions.find? name = some body → body = .lit .null) :
    b.fault? s (.name (.lit (.text name))) = some (.undefinedName (.lit (.text name)) name) := by
  have hresolve : s.resolve (.lit (.text name)) =
      Scope.resolve.undefinedName s (.lit (.text name)) := by
    have hkey : s.checkKey (.lit (.text name)) = .ok () := rfl
    rw [Scope.resolve, hkey, ok_bind]
    split
    · rfl
    · rfl
    · next body hnull hfound => exact absurd (h body hfound ▸ rfl) hnull
  rw [fault?, hresolve]
  rfl

/-- A step that is a matter of one capability. -/
def Step.isCapability : Step → Bool
  | statement _ | operator .. | value _ | column _ => true
  | _ => false

/-- Only what a capability fails with need not have words. -/
theorem isWorded_of_fault? {step : Step} {e : Fault} (h : b.fault? s step = some e)
    (hstep : step.isCapability = false) : e.IsWorded := by
  have hplain {α : Type} {r : Except Fault α} (hr : FailsPlainly r) (h : failure? r = some e) :
      e.IsWorded :=
    Fault.isWorded_of_isPlain (hr e (failure?_eq_some_iff.1 h))
  cases step with
  | source x | limit x => exact hplain (s.plain_text x) h
  | name x => exact hplain (s.plain_resolve x) h
  | number x => exact hplain (s.plain_column x) h
  | values x => exact hplain (s.plain_valuesOf x) h
  | path above x =>
    obtain ⟨-, rfl⟩ := fault?_path_eq_some_iff.1 h
    rfl
  | depth | kind x =>
    cases h
    rfl
  | literal x =>
    cases x with
    | part n =>
      cases h
      rfl
    | lit v =>
      cases v with
      | null | truth _ | text _ => cases h
      | integer n => exact hplain (s.plain_text (.lit (.integer n))) h
      | float n => exact hplain (s.plain_text (.lit (.float n))) h
      | decimal n => exact hplain (s.plain_text (.lit (.decimal n))) h
      | bytes _ | day _ | moment _ =>
        cases h
        rfl
  | statement root | operator room above x | value x | column name => cases hstep

/-! ### Rendering by steps -/

/-- What is not a field is written in one step. -/
theorem failure?_commonValue {x : Operand}
    (hx : ∀ number, s.graph.node? x ≠ some (.field number)) (column : String → Rendered) :
    failure? (Dialect.commonValue s column x) = b.fault? s (.literal x) := by
  cases x with
  | lit v => cases v <;> simp only [Dialect.commonValue, fault?] <;> rfl
  | part n =>
    simp only [Dialect.commonValue, fault?]
    rfl

theorem failure?_formatValue (x : Operand) :
    failure? (b.dialect.formatValue s x) = b.firstFault? s (b.valueSteps s x) := by
  have hvalue : b.dialect.formatValue s x =
      (b.value s b.column x).getD (Dialect.commonValue s b.column x) := rfl
  unfold valueSteps
  cases hown : b.value s b.column x with
  | some r =>
    rw [firstFault?_singleton]
    rfl
  | none =>
    rw [hvalue, hown, Option.getD_none]
    dsimp only
    split
    · next number hn =>
      cases x with
      | lit v => cases hn
      | part n =>
        rw [firstFault?_cons]
        simp only [Dialect.commonValue, hn]
        refine failure?_bind fun name hname => ?_
        rw [hname]
        exact (firstFault?_singleton (.column name)).symm
    · next hx => rw [failure?_commonValue hx, firstFault?_singleton]

theorem failure?_mapM (items : List Operand) :
    failure? (items.mapM (b.dialect.formatValue s)) =
      b.firstFault? s (items.flatMap (b.valueSteps s)) := by
  induction items with
  | nil => rfl
  | cons x rest ih =>
    rw [List.mapM_cons, List.flatMap_cons, firstFault?_append, ← failure?_formatValue, ← ih]
    refine failure?_bind fun text _ => ?_
    cases rest.mapM (b.dialect.formatValue s) <;> rfl

theorem failure?_comparison (sign : String) (l r : Operand) :
    failure? (Dialect.comparison (b.dialect.formatValue s) sign l r) =
      b.firstFault? s (b.valueSteps s l ++ b.valueSteps s r) := by
  rw [firstFault?_append, ← failure?_formatValue, ← failure?_formatValue]
  refine failure?_bind fun text _ => ?_
  cases b.dialect.formatValue s r <;> rfl

theorem failure?_membership (negated : Bool) (x values : Operand) :
    failure? (Dialect.membership s (b.dialect.formatValue s) negated x values) =
      b.firstFault? s (b.valueSteps s x ++ b.valuesSteps s values) := by
  rw [firstFault?_append, ← failure?_formatValue]
  refine failure?_bind fun left _ => ?_
  rw [valuesSteps, firstFault?_cons]
  refine failure?_bind fun items hitems => ?_
  rw [hitems, ← failure?_mapM]
  split
  · rfl
  · next only hnull =>
    rw [compared, List.mapM_cons]
    · cases b.dialect.formatValue s only <;> rfl
    · exact fun h => hnull (List.cons.inj h).1
  · next hnull _ =>
    rw [compared]
    · cases items.mapM (b.dialect.formatValue s) <;> rfl
    · exact hnull

/-- Two sides are written one after the other; their parentheses do not fail. -/
theorem failure?_junction (express : Operand → Rendered) (keyword : String) (l r : Operand) :
    failure? (Dialect.junction s express keyword l r) =
      (failure? (express l)).or (failure? (express r)) := by
  have hside (x : Operand) : failure? (Dialect.side s express x) = failure? (express x) := by
    rw [Dialect.side_eq, failure?_map]
  rw [← hside l, ← hside r]
  refine failure?_bind fun text _ => ?_
  cases Dialect.side s express r <;> rfl

theorem failure?_commonOperator (express : Operand → Rendered) (steps : Operand → List Step)
    (h : ∀ y, failure? (express y) = b.firstFault? s (steps y)) (x : Operand) :
    failure? (Dialect.commonOperator s (b.dialect.formatValue s) express x) =
      b.firstFault? s (b.nodeSteps s steps x) := by
  unfold Dialect.commonOperator nodeSteps
  cases s.graph.node? x with
  | none => rfl
  | some n =>
    cases n with
    | and l r | or l r => exact (failure?_junction _ _ l r).trans (by rw [h, h, firstFault?_append])
    | not y =>
      dsimp only
      rw [← h]
      cases express y <;> rfl
    | lessThan l r | greaterThan l r => exact failure?_comparison _ l r
    | equal y values | notEqual y values => exact failure?_membership _ y values
    | isEmpty y | notEmpty y =>
      dsimp only
      rw [← failure?_formatValue]
      cases b.dialect.formatValue s y <;> rfl
    | field number => exact failure?_formatValue x
    | reference name =>
      dsimp only
      rw [firstFault?_cons]
      refine failure?_bind fun body hbody => ?_
      rw [hbody, h]
      exact congrArg _ (List.append_nil _).symm
    | _ => rfl

/-- A condition fails as the first of its steps that does. -/
theorem failure?_express (room : Nat) (above : List Operand) (x : Operand) :
    failure? (b.dialect.express s room above x) =
      b.firstFault? s (b.conditionSteps s room above x) := by
  induction room generalizing above x with
  | zero => rfl
  | succ room ih =>
    rw [Dialect.express, conditionSteps, firstFault?_cons, fault?]
    by_cases hx : x ∈ above
    · rw [if_pos hx, if_pos hx, if_pos hx]
      rfl
    · rw [if_neg hx, if_neg hx, if_neg hx, Option.none_or]
      have hoperator : b.dialect.operator s (b.dialect.formatValue s)
          (b.dialect.express s room (x :: above)) x =
            (b.operator s (b.dialect.formatValue s) (b.dialect.express s room (x :: above)) x).getD
              (Dialect.commonOperator s (b.dialect.formatValue s)
                (b.dialect.express s room (x :: above)) x) := rfl
      cases hown : b.operator s (b.dialect.formatValue s)
          (b.dialect.express s room (x :: above)) x with
      | some r =>
        rw [firstFault?_singleton]
        rfl
      | none =>
        rw [hoperator, hown]
        exact failure?_commonOperator _ _ (fun y => ih (x :: above) y) x

theorem failure?_sourceClause (x : Operand) :
    failure? (Dialect.sourceClause s x) =
      b.firstFault? s (if s.graph.isPresent x then [.source x] else []) := by
  unfold Dialect.sourceClause
  split
  · rw [firstFault?_singleton, fault?]
    cases s.text x <;> rfl
  · rfl

theorem failure?_conditionClause (x : Operand) :
    failure? (Dialect.conditionClause (b.dialect.express s s.room []) x) =
      b.firstFault? s (if x = .lit .null then [] else b.conditionSteps s s.room [] x) := by
  unfold Dialect.conditionClause
  split
  · rfl
  · rw [← failure?_express]
    cases b.dialect.express s s.room [] x <;> rfl

theorem failure?_limitClause (keyword : String) (x : Operand) :
    failure? (Dialect.limitClause s keyword x) =
      b.firstFault? s (if x = .lit .null then [] else [.limit x]) := by
  unfold Dialect.limitClause
  split
  · rfl
  · rw [firstFault?_singleton, fault?]
    cases s.text x <;> rfl

/-- A statement that lists a text fails as the first of its steps that does. -/
theorem failure?_formatStatement {root : Operand} {q : Selection} {list : String}
    (hroot : s.graph.node? root = some (.select q)) (hlist : q.list = .lit (.text list)) :
    failure? (b.dialect.formatStatement s root) =
      b.firstFault? s (b.statementSteps s q root) := by
  have hassemble (before after : List String) :
      failure? (Dialect.assemble s before q.list after) = none := by
    rw [hlist]
    rfl
  have hstatement : b.dialect.formatStatement s root =
      b.statement.write s (b.dialect.express s s.room []) root := rfl
  rw [hstatement, statementSteps]
  cases hwriter : b.statement with
  | common =>
    rw [StatementWriter.write, Dialect.selectLimit, hroot]
    dsimp only
    rw [firstFault?_append, firstFault?_append, ← failure?_sourceClause,
      ← failure?_conditionClause, ← failure?_limitClause "LIMIT"]
    exact failure?_bind fun _ _ => failure?_bind fun _ _ =>
      failure?_bind_of_none fun _ => hassemble _ _
  | atHead =>
    rw [StatementWriter.write, Dialect.selectTop, hroot]
    dsimp only
    rw [firstFault?_append, firstFault?_append, ← failure?_sourceClause,
      ← failure?_conditionClause, ← failure?_limitClause "TOP"]
    exact failure?_bind fun _ _ => failure?_bind fun _ _ =>
      failure?_bind_of_none fun _ => hassemble _ _
  | other write =>
    rw [firstFault?_singleton, fault?, hstatement, hwriter]

end Bundle

/-! ### Compiling by steps -/

namespace Compiler

/-- The steps of compiling a query for a dialect. -/
def steps (c : Compiler) (b : Bundle) (g : Graph) (fields : Fields) (q : Query) :
    List Bundle.Step :=
  b.statementSteps (c.scope g fields q) (c.selection q) (.part g.parts.size)

theorem outcome_of_isOwn {dialect : String} {e : Fault} (h : e.isOwn = true) :
    outcome dialect (.error e) = .failed e := by
  rw [outcome, Fault.isWorded_of_isOwn h]
  exact congrArg Outcome.failed (Fault.within_of_isOwn h)

theorem outcome_of_category {dialect message category : String} {e : Fault}
    (hcategory : e.category? = some category) (h : e.wording = .ok message) :
    outcome dialect (.error e) = .failed
      (.dialectFailed ("Formatter for dialect '" ++ dialect ++ "' failed: " ++ message)
        (some category)) := by
  have hmessage : e.message = message := by
    cases e <;> cases h <;> rfl
  rw [outcome, h]
  dsimp only
  rw [Fault.within, hcategory, hmessage]

theorem outcome_of_unworded {dialect : String} {e failure : Fault}
    (h : e.wording = .error failure) : outcome dialect (.error e) = .left failure := by
  rw [outcome, h]

theorem outcome_cases (dialect : String) (r : Rendered) :
    (∃ sql, outcome dialect r = .ok sql) ∨
      (∃ e, e.isOwn = true ∧ outcome dialect r = .failed e) ∨
      ∃ e failure, r = .error e ∧ e.wording = .error failure ∧
        outcome dialect r = .left failure := by
  cases r with
  | ok sql => exact .inl ⟨_, rfl⟩
  | error e =>
    cases hwording : e.wording with
    | ok message => exact .inr (.inl ⟨_, e.isOwn_within dialect, by rw [outcome, hwording]⟩)
    | error failure =>
      exact .inr (.inr ⟨e, failure, rfl, hwording, outcome_of_unworded hwording⟩)

/-- Compiling reports a statement alone or a fault of its own alone, unless what went wrong cannot
be worded. A dialect that is not known is the fault, whatever is to be compiled and whatever the
known ones would do. One that is known gives the text of the statement and a semicolon exactly if
no step fails. If one does, the first of them gives the fault, as it is if it is one of compiling
and with its category as the cause if it comes from elsewhere; what wording it ends in leaves the
compiler, which takes a capability that fails in such a way. -/
theorem compile_steps (c : Compiler) (name : String) :
    (∀ g fields q, (∃ sql, c.compile g name fields q = .ok sql) ∨
      (∃ e, e.isOwn = true ∧ c.compile g name fields q = .failed e) ∨
      ∃ e failure, c.statement g name fields q = .error e ∧ e.wording = .error failure ∧
        c.compile g name fields q = .left failure) ∧
    (name ∉ c.registry.entries.names → ∀ c' : Compiler,
      c'.registry.entries.names = c.registry.entries.names → ∀ g fields q,
        c'.compile g name fields q = .failed (.unknownDialect name c.registry.available)) ∧
    ∀ (b : Bundle) (g : Graph) (fields : Fields) (q : Query),
      c.registry.get name = .ok b.dialect →
      ((∃ sql, c.compile g name fields q = .ok sql) ↔
        ∀ step ∈ c.steps b g fields q, b.fault? (c.scope g fields q) step = none) ∧
      (∀ sql, c.compile g name fields q = .ok sql ↔ ∃ body,
        b.dialect.formatStatement (c.scope g fields q) (.part g.parts.size) = .ok body ∧
          sql = body ++ ";") ∧
      ∀ before step after e, c.steps b g fields q = before ++ step :: after →
        (∀ step ∈ before, b.fault? (c.scope g fields q) step = none) →
        b.fault? (c.scope g fields q) step = some e →
        (e.isOwn = true → c.compile g name fields q = .failed e) ∧
        (∀ category message, e.category? = some category → e.wording = .ok message →
          c.compile g name fields q = .failed (.dialectFailed
            ("Formatter for dialect '" ++ name ++ "' failed: " ++ message) (some category))) ∧
        ∀ failure, e.wording = .error failure →
          step.isCapability = true ∧ c.compile g name fields q = .left failure := by
  refine ⟨fun g fields q => ?_, fun hname c' hc' g fields q => ?_, fun b g fields q hget => ?_⟩
  · exact outcome_cases name (c.statement g name fields q)
  · have hfind : c'.registry.entries.find? name = none :=
      Option.eq_none_iff_forall_ne_some.2 fun d hd =>
        hname (hc' ▸ NameTable.mem_names_of_find? hd)
    rw [compile_of_find?_eq_none hfind, Registry.available, Registry.available, hc']
  · have hfailure : failure? (b.dialect.formatStatement (c.scope g fields q)
        (.part g.parts.size)) = b.firstFault? (c.scope g fields q) (c.steps b g fields q) :=
      Bundle.failure?_formatStatement node?_scope rfl
    have hcompile (sql : String) : c.compile g name fields q = .ok sql ↔ ∃ body,
        b.dialect.formatStatement (c.scope g fields q) (.part g.parts.size) = .ok body ∧
          sql = body ++ ";" := by
      rw [compile_eq_of_get hget, outcome_eq_ok_iff]
    refine ⟨?_, hcompile, fun before step after e hsteps hbefore hstep => ?_⟩
    · rw [← Bundle.firstFault?_eq_none_iff, ← hfailure, failure?_eq_none_iff]
      simp only [hcompile]
      exact ⟨fun ⟨_, body, h, _⟩ => ⟨body, h⟩, fun ⟨body, h⟩ => ⟨_, body, h, rfl⟩⟩
    · rw [hsteps, Bundle.firstFault?_eq_some hbefore hstep, failure?_eq_some_iff] at hfailure
      rw [compile_eq_of_get hget, hfailure]
      refine ⟨outcome_of_isOwn, fun category message => outcome_of_category,
        fun failure hwording => ⟨?_, outcome_of_unworded hwording⟩⟩
      by_contra hcapability
      have hworded : e.IsWorded := Bundle.isWorded_of_fault? hstep (by simpa using hcapability)
      rw [Fault.IsWorded, hwording] at hworded
      cases hworded

/-- A dialect that refuses to write any column. -/
def refusing : Bundle where
  statement := .common
  column _ := .error (.raised "ValueError" "no columns")

/-- A field and a reference to a name that stands for nothing. -/
def twoFaults : Graph :=
  ⟨#[.node (.field (.lit (.integer 1))), .node (.reference (.lit (.text "gone"))),
    .node (.and (.part 0) (.part 1))]⟩

theorem twoFaults_steps :
    compile { registry := ⟨[("refusing", refusing.dialect)]⟩ } twoFaults "refusing"
      [(.lit (.integer 1), some "name")] ⟨.part 2, .lit .null⟩ =
        .failed (.dialectFailed "Formatter for dialect 'refusing' failed: no columns"
          (some "ValueError")) ∧
    compile { registry := ⟨[("other", refusing.dialect)]⟩ } twoFaults "refusing" []
      ⟨.part 2, .lit .null⟩ = .failed (.unknownDialect "refusing" ["other"]) := by
  have hsteps := (compile_steps { registry := ⟨[("refusing", refusing.dialect)]⟩ } "refusing").2.2
    refusing twoFaults [(.lit (.integer 1), some "name")] ⟨.part 2, .lit .null⟩ rfl
  have hfirst := (hsteps.2.2
    [.path [] (.part 2), .path [.part 2] (.part 0), .number (.lit (.integer 1))] (.column "name")
    [.path [.part 2] (.part 1), .name (.lit (.text "gone"))] _ rfl (by decide) rfl).2.1
      "ValueError" "no columns" rfl rfl
  have hunknown := (compile_steps { registry := ⟨[("other", refusing.dialect)]⟩ } "refusing").2.1
    (by decide) _ rfl twoFaults [] ⟨.part 2, .lit .null⟩
  have havailable : Registry.available ⟨[("other", refusing.dialect)]⟩ = ["other"] := by
    simp [Registry.available, NameTable.names]
  rw [havailable] at hunknown
  exact ⟨hfirst, hunknown⟩

/-- A dialect whose values fail with what cannot be worded. -/
def wordless : Bundle where
  statement := .common
  column := Dialect.quoteColumn
  value _ _ _ := some (.error (.unworded "KeyError" .integerTooLong))

def loneField (n : Int) : Graph := ⟨#[.node (.field (.lit (.integer n)))]⟩

/-- A field that is not known is not reported as such if its number is too long to be told. -/
theorem compile_loneField {n : Int} (hn : Integer.text? n = none) :
    compile {} (loneField n) "postgres" [] ⟨.part 0, .lit .null⟩ =
      .failed (.dialectFailed
        ("Formatter for dialect 'postgres' failed: " ++ Fault.integerTooLong.message)
        (some "ValueError")) := by
  let b : Bundle := { statement := .common, column := Dialect.quoteColumn }
  have hstatement (s : Scope) (room : Nat) (hroom : s.room = room + 1)
      (hroot : s.graph.node? (.part 1) = some (.select (selection {} ⟨.part 0, .lit .null⟩)))
      (hfield : s.graph.node? (.part 0) = some (.field (.lit (.integer n))))
      (hfields : s.fields = []) :
      b.dialect.formatStatement s (.part 1) = .error .integerTooLong := by
    have htext : s.graph.text? (.lit (.integer n)) = none := by
      rw [Graph.text?, Literal.plain?, hn]
    have hnumber : b.fault? s (.number (.lit (.integer n))) = some .integerTooLong := by
      rw [Bundle.fault?_number_of_unknown rfl (by rw [hfields]; rfl) rfl, htext]
      rfl
    have hpath : ∀ step ∈ [Bundle.Step.path [] (.part 0)], b.fault? s step = none := by
      simp [Bundle.fault?]
    have hsteps : b.statementSteps s (selection {} ⟨.part 0, .lit .null⟩) (.part 1) =
        [.path [] (.part 0)] ++ .number (.lit (.integer n)) ::
          (s.column (.lit (.integer n))).toOption.toList.map .column := by
      simp [b, selection, Bundle.statementSteps, Bundle.conditionSteps, Bundle.nodeSteps,
        Bundle.valueSteps, hroom, hfield, Graph.isPresent, Literal.isPresent]
    rw [← failure?_eq_some_iff, Bundle.failure?_formatStatement hroot rfl, hsteps]
    exact Bundle.firstFault?_eq_some hpath hnumber
  rw [compile_eq_of_get rfl]
  exact (congrArg _ (hstatement _ 399 rfl rfl rfl rfl)).trans (outcome_of_category rfl rfl)

/-- A fault may leave the compiler, and a field that is not known need not be reported as such. -/
theorem wordless_leaves :
    compile { registry := ⟨[("wordless", wordless.dialect)]⟩ } (loneField 1) "wordless" []
      ⟨.part 0, .lit .null⟩ = .left .integerTooLong ∧
    compile {} (loneField (Integer.powerOfTen 5000)) "postgres" [] ⟨.part 0, .lit .null⟩ =
      .failed (.dialectFailed
        ("Formatter for dialect 'postgres' failed: " ++ Fault.integerTooLong.message)
        (some "ValueError")) ∧
    ¬ ∀ (c : Compiler) (g : Graph) (name : String) (fields : Fields) (q : Query),
      ∃ report, c.compile g name fields q = .reported report := by
  have hleft : compile { registry := ⟨[("wordless", wordless.dialect)]⟩ } (loneField 1) "wordless"
      [] ⟨.part 0, .lit .null⟩ = .left .integerTooLong := rfl
  have htext : Integer.text? (Integer.powerOfTen 5000) = none := by
    rw [Integer.text?_eq_none_iff, Int.natAbs_natCast]
    exact (Integer.powerOfTen_lt (by decide)).le
  refine ⟨hleft, compile_loneField htext, fun hreported => ?_⟩
  obtain ⟨report, h⟩ := hreported _ _ _ _ _
  rw [hleft] at h
  cases h

end Compiler

end FilterCompiler
