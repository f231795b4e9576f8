import FilterCompiler.Dialect
import FilterCompiler.Proofs.Faults

/-! Formulas: conditions with nothing left to look up. Fields have become columns, numbers
their digits, and references the formulas they stand for, still marked as references because
a reference is never put in parentheses. What an operand of a graph stands for is a matter of
the scope alone; how it is written is a matter of the mark around column names alone. Proved
here: the operator of a built-in dialect first settles the shape of a node, without looking
below it, and then writes that shape. -/

namespace FilterCompiler

/-- A value of a condition as it is written. -/
inductive Term where
  | null
  | truth (value : Bool)
  | text (content : String)
  | number (shown : String)
  | column (name : String)
deriving DecidableEq, Repr

/-- What stands between two compared values. -/
inductive Sign where
  | less | greater | equal | unequal
deriving DecidableEq, Repr

/-- A condition that holds no other one. -/
inductive Predicate where
  | compare (sign : Sign) (left right : Term)
  | among (negated : Bool) (operand : Term) (values : List Term)
  | isNull (negated : Bool) (operand : Term)
  | column (name : String)
deriving DecidableEq, Repr

/-- What joins two conditions. -/
inductive Connective where
  | and | or
deriving DecidableEq, Repr

inductive Formula where
  | atom (predicate : Predicate)
  | join (connective : Connective) (left right : Formula)
  | not (operand : Formula)
  | named (body : Formula)
deriving DecidableEq, Repr

/-! ### Text -/

def Term.write (mark : Char) : Term → String
  | .null => "NULL"
  | .truth b => if b then "TRUE" else "FALSE"
  | .text t => Text.Quoted.quote '\'' t
  | .number shown => shown
  | .column name => Text.Quoted.quote mark name

def Sign.write : Sign → String
  | .less => " < "
  | .greater => " > "
  | .equal => " = "
  | .unequal => " <> "

def Connective.write : Connective → String
  | .and => " AND "
  | .or => " OR "

def Predicate.write (mark : Char) : Predicate → String
  | .compare sign l r => l.write mark ++ sign.write ++ r.write mark
  | .among negated x values =>
    x.write mark ++ (if negated then " NOT IN (" else " IN (") ++
      ", ".intercalate (values.map (Term.write mark)) ++ ")"
  | .isNull negated x => x.write mark ++ (if negated then " IS NOT NULL" else " IS NULL")
  | .column name => Text.Quoted.quote mark name

namespace Formula

def isJunction : Formula → Bool
  | join .. => true
  | _ => false

/-- How many conditions are nested, references counted. -/
def depth : Formula → Nat
  | atom _ => 1
  | join _ l r => max l.depth r.depth + 1
  | not f | named f => f.depth + 1

/-- A text in parentheses if need be. -/
def enclosed (needed : Bool) (text : String) : String :=
  if needed then "(" ++ text ++ ")" else text

def write (mark : Char) : Formula → String
  | atom p => p.write mark
  | join k l r =>
    enclosed l.isJunction (l.write mark) ++ k.write ++ enclosed r.isJunction (r.write mark)
  | not f => "NOT (" ++ f.write mark ++ ")"
  | named f => f.write mark

theorem depth_pos (f : Formula) : 0 < f.depth := by
  cases f <;> simp [depth]

end Formula

/-- Comparison with one value is a null check or an equality, with any other number of values
a membership test. -/
def Predicate.membership (negated : Bool) (x : Term) : List Term → Predicate
  | [.null] => .isNull negated x
  | [only] => .compare (if negated then .unequal else .equal) x only
  | values => .among negated x values

/-! ### The built-in dialects -/

inductive BuiltIn where
  | postgres | mysql | sqlserver
deriving DecidableEq, Repr

namespace BuiltIn

def name : BuiltIn → String
  | postgres => "postgres"
  | mysql => "mysql"
  | sqlserver => "sqlserver"

def dialect : BuiltIn → Dialect
  | postgres => Dialect.postgres
  | mysql => Dialect.mysql
  | sqlserver => Dialect.sqlserver

/-- The mark around column names. -/
def mark : BuiltIn → Char
  | mysql => '\x60'
  | _ => '"'

theorem column_eq (b : BuiltIn) (name : String) :
    b.dialect.column name = .ok (Text.Quoted.quote b.mark name) := by
  cases b <;> rfl

theorem operator_eq (b : BuiltIn) : b.dialect.operator = Dialect.commonOperator := by
  cases b <;> rfl

end BuiltIn

/-! ### Shapes -/

/-- A node as it is without what stands below it. -/
inductive Shape where
  | atom (predicate : Predicate)
  | join (connective : Connective) (left right : Operand)
  | not (operand : Operand)
  | follow (body : Operand)
deriving DecidableEq

namespace Scope

/-- The term of a literal; some kinds have none. -/
def literalTerm (s : Scope) (v : Literal) : Except Fault Term :=
  match v with
  | .null => .ok .null
  | .truth b => .ok (.truth b)
  | .text t => .ok (.text t)
  | .integer _ | .float _ | .decimal _ => (s.text (.lit v)).map .number
  | v => .error (.unsupportedValue v.kind)

/-- The term of an operand as a value. -/
def term (s : Scope) : Operand → Except Fault Term
  | .lit v => s.literalTerm v
  | x =>
    match s.graph.node? x with
    | some (.field number) => (s.column number).map .column
    | _ => .error (.unsupportedValue (s.graph.kind x))

/-- The predicate that compares an operand with values. -/
def membership (s : Scope) (negated : Bool) (operand values : Operand) :
    Except Fault Predicate := do
  let x ← s.term operand
  return .membership negated x (← (← Dialect.valuesOf s values).mapM s.term)

/-- The shape of a node. Everything at the node itself that can fail does so here. -/
def shape (s : Scope) (x : Operand) : Except Fault Shape := do
  match s.graph.node? x with
  | some (.and l r) => return .join .and l r
  | some (.or l r) => return .join .or l r
  | some (.not y) => return .not y
  | some (.lessThan l r) => return .atom (.compare .less (← s.term l) (← s.term r))
  | some (.greaterThan l r) => return .atom (.compare .greater (← s.term l) (← s.term r))
  | some (.equal y values) => return .atom (← s.membership false y values)
  | some (.notEqual y values) => return .atom (← s.membership true y values)
  | some (.isEmpty y) => return .atom (.isNull false (← s.term y))
  | some (.notEmpty y) => return .atom (.isNull true (← s.term y))
  | some (.field number) => return .atom (.column (← s.column number))
  | some (.reference name) => return .follow (← s.resolve name)
  | _ => throw (.unsupportedNode (s.graph.kind x))

end Scope

/-- A shape in writing; `express` writes the conditions below it. -/
def Shape.write (mark : Char) (s : Scope) (express : Operand → Rendered) : Shape → Rendered
  | .atom p => .ok (p.write mark)
  | .join k l r => Dialect.junction s express k.write l r
  | .not y => (express y).map fun text => "NOT (" ++ text ++ ")"
  | .follow body => express body

/-! ### What a built-in dialect writes -/

namespace Scope

variable {s : Scope}

/-- The text of a literal is no matter of the graph. -/
theorem text_lit (s : Scope) (v : Literal) :
    s.text (.lit v) = match v.plain? with
      | some t => .ok t
      | none => .error .integerTooLong := rfl

theorem eq_null_of_term {x : Operand} (h : s.term x = .ok .null) : x = .lit .null := by
  cases x with
  | lit v => cases v <;> simp_all [term, literalTerm, map_eq_ok_iff]
  | part number =>
    simp only [term] at h
    split at h <;> simp [map_eq_ok_iff] at h

theorem term_of_field {x number : Operand} (h : s.graph.node? x = some (.field number)) :
    s.term x = (s.column number).map .column := by
  cases x with
  | lit v => simp [Graph.node?, Graph.part?] at h
  | part n => simp only [term, h]

end Scope

namespace BuiltIn

variable (b : BuiltIn) (s : Scope)

theorem formatValue_eq (x : Operand) :
    b.dialect.formatValue s x = (s.term x).map (Term.write b.mark) := by
  have hv : b.dialect.formatValue s x = Dialect.commonValue s b.dialect.column x := by
    cases b <;> rfl
  rw [hv]
  have hnumber (r : Rendered) : r = (r.map Term.number).map (Term.write b.mark) := by
    cases r <;> rfl
  cases x with
  | lit v =>
    cases v with
    | integer n => exact hnumber _
    | float n => exact hnumber _
    | decimal n => exact hnumber _
    | _ => rfl
  | part number =>
    simp only [Dialect.commonValue, Scope.term]
    cases hn : s.graph.node? (.part number) with
    | none => rfl
    | some n =>
      cases n with
      | field name =>
        dsimp only
        cases s.column name <;> simp [column_eq, Term.write]
      | _ => rfl

theorem mapM_formatValue (xs : List Operand) :
    xs.mapM (b.dialect.formatValue s) = (xs.mapM s.term).map (List.map (Term.write b.mark)) := by
  induction xs with
  | nil => rfl
  | cons x rest ih =>
    rw [List.mapM_cons, List.mapM_cons, ih, formatValue_eq]
    cases s.term x with
    | error f => rfl
    | ok t => cases rest.mapM s.term <;> rfl

theorem membership_eq (negated : Bool) (x values : Operand) :
    Dialect.membership s (b.dialect.formatValue s) negated x values =
      (s.membership negated x values).map (Predicate.write b.mark) := by
  unfold Dialect.membership Scope.membership
  rw [formatValue_eq]
  cases s.term x with
  | error f => rfl
  | ok t =>
    cases Dialect.valuesOf s values with
    | error f => rfl
    | ok vs =>
      simp only [map_ok, ok_bind, pure_eq_ok]
      split
      · rfl
      · next only hnull =>
        rw [formatValue_eq, List.mapM_cons]
        cases hu : s.term only with
        | error f => rfl
        | ok u =>
          have hne : u ≠ .null := fun h => hnull (Scope.eq_null_of_term (h ▸ hu))
          simp only [List.mapM_nil, map_ok, ok_bind, pure_eq_ok, Except.ok.injEq]
          rw [Predicate.membership.eq_def]
          cases u <;> first | exact absurd rfl hne | cases negated <;> rfl
      · next hnull honly =>
        rw [mapM_formatValue]
        cases hu : vs.mapM s.term with
        | error f => rfl
        | ok us =>
          have hlength : us.length = vs.length := (mapM_eq_ok_iff.1 hu).length_eq.symm
          match vs, us, hlength with
          | [], [], _ => rfl
          | _ :: _ :: _, u :: _ :: _, _ => cases u <;> rfl
          | [v], _, _ => exact absurd rfl (honly v)

theorem operator_eq_shape (express : Operand → Rendered) (x : Operand) :
    b.dialect.operator s (b.dialect.formatValue s) express x =
      s.shape x >>= Shape.write b.mark s express := by
  rw [operator_eq]
  unfold Dialect.commonOperator Scope.shape
  cases hn : s.graph.node? x with
  | none => rfl
  | some n =>
    cases n with
    | not y => simp only [ok_bind, pure_eq_ok, Shape.write]; cases express y <;> rfl
    | lessThan l r | greaterThan l r =>
      simp only [Dialect.comparison, formatValue_eq]
      cases s.term l with
      | error f => rfl
      | ok t => cases s.term r <;> rfl
    | equal y values | notEqual y values =>
      simp only [membership_eq]
      cases s.membership _ y values <;> rfl
    | isEmpty y | notEmpty y =>
      simp only [formatValue_eq]
      cases s.term y <;> rfl
    | reference name =>
      dsimp only
      cases s.resolve name <;> rfl
    | field number =>
      simp only [formatValue_eq, Scope.term_of_field hn]
      cases s.column number <;> rfl
    | _ => rfl

end BuiltIn

end FilterCompiler
