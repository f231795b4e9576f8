import FilterCompiler.Proofs.Walk

/-! Conditions as trees. An operand of a graph holds a condition when it unfolds to it, however
much of the graph the condition shares with itself. Proved here: an operand holds one condition
at most, adding parts to the graph changes none, and an operand that holds a condition whose
fields have columns, whose literals can be written and whose references stand for formulas stands
for the condition with all of these put in. -/

namespace FilterCompiler

/-- A value of a condition: a field by its number, or a literal. -/
inductive Value where
  | field (number : Int)
  | literal (value : Literal)
deriving DecidableEq, Repr

inductive Condition where
  | join (connective : Connective) (left right : Condition)
  | not (operand : Condition)
  | ordering (greater : Bool) (left right : Value)
  | equality (negated : Bool) (operand : Value) (values : List Value)
  | nullCheck (negated : Bool) (value : Value)
  | field (number : Int)
  | reference (name : String)
deriving Repr

/-! ### What stands in a condition -/

namespace Value

def fields : Value → List Int
  | field n => [n]
  | literal _ => []

def literals : Value → List Literal
  | field _ => []
  | literal v => [v]

end Value

namespace Condition

/-- The numbers of the fields in a condition. -/
def fields : Condition → List Int
  | join _ c d => c.fields ++ d.fields
  | not c => c.fields
  | ordering _ u v => u.fields ++ v.fields
  | equality _ u vs => u.fields ++ vs.flatMap Value.fields
  | nullCheck _ u => u.fields
  | field n => [n]
  | reference _ => []

def literals : Condition → List Literal
  | join _ c d => c.literals ++ d.literals
  | not c => c.literals
  | ordering _ u v => u.literals ++ v.literals
  | equality _ u vs => u.literals ++ vs.flatMap Value.literals
  | nullCheck _ u => u.literals
  | field _ | reference _ => []

/-- The names that a condition refers to. -/
def references : Condition → List String
  | join _ c d => c.references ++ d.references
  | not c => c.references
  | reference name => [name]
  | _ => []

end Condition

/-! ### Conditions in a graph -/

def Connective.node : Connective → Operand → Operand → Node
  | and => .and
  | or => .or

namespace Node

def ordering (greater : Bool) : Operand → Operand → Node :=
  if greater then .greaterThan else .lessThan

def equality (negated : Bool) : Operand → Operand → Node :=
  if negated then .notEqual else .equal

def nullCheck (negated : Bool) : Operand → Node :=
  if negated then .notEmpty else .isEmpty

/-- A node by what kinds of conditions have in common. -/
inductive Outline where
  | join (connective : Connective) (left right : Operand)
  | not (operand : Operand)
  | ordering (greater : Bool) (left right : Operand)
  | equality (negated : Bool) (operand values : Operand)
  | nullCheck (negated : Bool) (value : Operand)
  | field (number : Operand)
  | reference (name : Operand)
  | other

def outline : Node → Outline
  | .and l r => .join .and l r
  | .or l r => .join .or l r
  | .not y => .not y
  | .lessThan l r => .ordering false l r
  | .greaterThan l r => .ordering true l r
  | .equal y values => .equality false y values
  | .notEqual y values => .equality true y values
  | .isEmpty y => .nullCheck false y
  | .notEmpty y => .nullCheck true y
  | .field n => .field n
  | .reference name => .reference name
  | _ => .other

@[simp] theorem outline_connective (k : Connective) (l r : Operand) :
    (k.node l r).outline = .join k l r := by cases k <;> rfl

@[simp] theorem outline_not (y : Operand) : (Node.not y).outline = .not y := rfl

@[simp] theorem outline_ordering (greater : Bool) (l r : Operand) :
    (ordering greater l r).outline = .ordering greater l r := by cases greater <;> rfl

@[simp] theorem outline_equality (negated : Bool) (y values : Operand) :
    (equality negated y values).outline = .equality negated y values := by cases negated <;> rfl

@[simp] theorem outline_nullCheck (negated : Bool) (y : Operand) :
    (nullCheck negated y).outline = .nullCheck negated y := by cases negated <;> rfl

@[simp] theorem outline_field (n : Operand) : (Node.field n).outline = .field n := rfl

@[simp] theorem outline_reference (name : Operand) :
    (Node.reference name).outline = .reference name := rfl

/-- Cases of a node by what kinds of conditions have in common. -/
@[elab_as_elim]
theorem casesOutline {motive : Node → Prop}
    (join : ∀ (k : Connective) (l r : Operand), motive (k.node l r))
    (not : ∀ y, motive (.not y)) (ordering : ∀ greater l r, motive (.ordering greater l r))
    (equality : ∀ negated y values, motive (.equality negated y values))
    (nullCheck : ∀ negated y, motive (.nullCheck negated y))
    (field : ∀ number, motive (.field number)) (reference : ∀ name, motive (.reference name))
    (custom : ∀ kind tag arguments, motive (.custom kind tag arguments))
    (select : ∀ q, motive (.select q)) : ∀ n, motive n
  | .and l r => join .and l r
  | .or l r => join .or l r
  | .not y => not y
  | .lessThan l r => ordering false l r
  | .greaterThan l r => ordering true l r
  | .equal y values => equality false y values
  | .notEqual y values => equality true y values
  | .isEmpty y => nullCheck false y
  | .notEmpty y => nullCheck true y
  | .field number => field number
  | .reference name => reference name
  | .custom kind tag arguments => custom kind tag arguments
  | .select q => select q

end Node

namespace Graph

/-- An operand is a value of a condition. -/
inductive HoldsValue (g : Graph) : Operand → Value → Prop where
  | field {x : Operand} {n : Int} (node : g.node? x = some (.field (.lit (.integer n)))) :
      HoldsValue g x (.field n)
  | literal (v : Literal) : HoldsValue g (.lit v) (.literal v)

/-- An operand unfolds to a condition. -/
inductive Holds (g : Graph) : Operand → Condition → Prop where
  | join {x l r : Operand} {k : Connective} {c d : Condition}
      (node : g.node? x = some (k.node l r)) (left : Holds g l c) (right : Holds g r d) :
      Holds g x (.join k c d)
  | not {x y : Operand} {c : Condition} (node : g.node? x = some (.not y))
      (operand : Holds g y c) : Holds g x (.not c)
  | ordering {x l r : Operand} {greater : Bool} {u v : Value}
      (node : g.node? x = some (.ordering greater l r)) (left : g.HoldsValue l u)
      (right : g.HoldsValue r v) : Holds g x (.ordering greater u v)
  | equality {x y values : Operand} {negated : Bool} {items : List Operand} {u : Value}
      {vs : List Value} (node : g.node? x = some (.equality negated y values))
      (operand : g.HoldsValue y u) (elements : g.elements? values = some items)
      (compared : List.Forall₂ g.HoldsValue items vs) : Holds g x (.equality negated u vs)
  | nullCheck {x y : Operand} {negated : Bool} {u : Value}
      (node : g.node? x = some (.nullCheck negated y)) (value : g.HoldsValue y u) :
      Holds g x (.nullCheck negated u)
  | field {x : Operand} {n : Int} (node : g.node? x = some (.field (.lit (.integer n)))) :
      Holds g x (.field n)
  | reference {x : Operand} {name : String}
      (node : g.node? x = some (.reference (.lit (.text name)))) : Holds g x (.reference name)

variable {g g' : Graph} {x : Operand}

theorem not_holds_lit {v : Literal} {c : Condition} : ¬ g.Holds (.lit v) c := by
  rintro (node | node | node | node | node | node | node) <;> cases node

theorem HoldsValue.unique {u v : Value} (hu : g.HoldsValue x u) (hv : g.HoldsValue x v) :
    u = v := by
  cases hu with
  | field node =>
    cases hv with
    | field node' =>
      rw [node] at node'
      cases node'
      rfl
    | literal v => cases node
  | literal v =>
    cases hv with
    | field node => cases node
    | literal _ => rfl

theorem HoldsValue.unique_all {xs : List Operand} {us vs : List Value}
    (hu : List.Forall₂ g.HoldsValue xs us) (hv : List.Forall₂ g.HoldsValue xs vs) : us = vs := by
  induction hu generalizing vs with
  | nil => cases hv; rfl
  | cons h _ ih =>
    cases hv with
    | cons h' hrest => rw [h.unique h', ih hrest]

theorem outline_of_node {m n : Node} (hm : g.node? x = some m) (hn : g.node? x = some n) :
    m.outline = n.outline := by
  rw [hm] at hn
  rw [Option.some.inj hn]

/-- An operand unfolds to one condition at most. -/
theorem Holds.unique {c d : Condition} (hc : g.Holds x c) (hd : g.Holds x d) : c = d := by
  induction hc generalizing d with
  | join node left right ihl ihr =>
    cases hd with
    | join node' left' right' =>
      have := outline_of_node node node'
      simp only [Node.outline_connective, Node.Outline.join.injEq] at this
      obtain ⟨rfl, rfl, rfl⟩ := this
      rw [ihl left', ihr right']
    | _ node' => simpa using outline_of_node node node'
  | not node operand ih =>
    cases hd with
    | not node' operand' =>
      have := outline_of_node node node'
      simp only [Node.outline_not, Node.Outline.not.injEq] at this
      subst this
      rw [ih operand']
    | _ node' => simpa using outline_of_node node node'
  | ordering node left right =>
    cases hd with
    | ordering node' left' right' =>
      have := outline_of_node node node'
      simp only [Node.outline_ordering, Node.Outline.ordering.injEq] at this
      obtain ⟨rfl, rfl, rfl⟩ := this
      rw [left.unique left', right.unique right']
    | _ node' => simpa using outline_of_node node node'
  | equality node operand elements compared =>
    cases hd with
    | equality node' operand' elements' compared' =>
      have := outline_of_node node node'
      simp only [Node.outline_equality, Node.Outline.equality.injEq] at this
      obtain ⟨rfl, rfl, rfl⟩ := this
      rw [elements] at elements'
      cases elements'
      rw [operand.unique operand', HoldsValue.unique_all compared compared']
    | _ node' => simpa using outline_of_node node node'
  | nullCheck node value =>
    cases hd with
    | nullCheck node' value' =>
      have := outline_of_node node node'
      simp only [Node.outline_nullCheck, Node.Outline.nullCheck.injEq] at this
      obtain ⟨rfl, rfl⟩ := this
      rw [value.unique value']
    | _ node' => simpa using outline_of_node node node'
  | field node =>
    cases hd with
    | field node' =>
      have := outline_of_node node node'
      simp only [Node.outline_field, Node.Outline.field.injEq, Operand.lit.injEq,
        Literal.integer.injEq] at this
      rw [this]
    | _ node' => simpa using outline_of_node node node'
  | reference node =>
    cases hd with
    | reference node' =>
      have := outline_of_node node node'
      simp only [Node.outline_reference, Node.Outline.reference.injEq, Operand.lit.injEq,
        Literal.text.injEq] at this
      rw [this]
    | _ node' => simpa using outline_of_node node node'

/-- A graph that has the parts of another and perhaps more. -/
def Extends (g g' : Graph) : Prop := ∀ n p, g.get? n = some p → g'.get? n = some p

theorem Extends.refl (g : Graph) : g.Extends g := fun _ _ h => h

theorem Extends.trans {g'' : Graph} (h : g.Extends g') (h' : g'.Extends g'') : g.Extends g'' :=
  fun n p hp => h' n p (h n p hp)

theorem extends_add (g : Graph) (p : Part) : g.Extends (g.add p).2 := by
  intro n q hq
  rw [get?_add, if_neg]
  · exact hq
  · rintro rfl
    simp [get?] at hq

namespace Extends

variable (h : g.Extends g')

include h

theorem part? {p : Part} (hp : g.part? x = some p) : g'.part? x = some p := by
  cases x with
  | lit v => cases hp
  | part n => exact h n p hp

theorem node? {n : Node} (hn : g.node? x = some n) : g'.node? x = some n := by
  unfold Graph.node? at hn
  split at hn
  · next hp =>
    simp only [Graph.node?, h.part? hp]
    exact hn
  · cases hn

theorem elements? {items : List Operand} (hx : g.elements? x = some items) :
    g'.elements? x = some items := by
  cases x with
  | lit v => cases v <;> exact hx
  | part n =>
    cases hp : g.part? (.part n) with
    | none => simp [Graph.elements?, hp] at hx
    | some p =>
      simp only [Graph.elements?, hp] at hx
      simp only [Graph.elements?, h.part? hp]
      exact hx

theorem holdsValue {u : Value} (hu : g.HoldsValue x u) : g'.HoldsValue x u := by
  cases hu with
  | field node => exact .field (h.node? node)
  | literal v => exact .literal v

/-- What an operand holds stays when parts are added. -/
theorem holds {c : Condition} (hc : g.Holds x c) : g'.Holds x c := by
  induction hc with
  | join node _ _ ihl ihr => exact .join (h.node? node) ihl ihr
  | not node _ ih => exact .not (h.node? node) ih
  | ordering node left right =>
    exact .ordering (h.node? node) (h.holdsValue left) (h.holdsValue right)
  | equality node operand elements compared =>
    exact .equality (h.node? node) (h.holdsValue operand) (h.elements? elements)
      (compared.imp fun _ _ => h.holdsValue)
  | nullCheck node value => exact .nullCheck (h.node? node) (h.holdsValue value)
  | field node => exact .field (h.node? node)
  | reference node => exact .reference (h.node? node)

end Extends

end Graph

end FilterCompiler
