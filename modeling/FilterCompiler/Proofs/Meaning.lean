import FilterCompiler.Proofs.Condition

/-! What conditions mean. With a column for each field and a formula for each name, a condition
is a formula node for node; only a comparison with one value has a form of its own. Proved here:
an operand stands for the formula of the condition that it holds, if its fields have columns, its
literals are of the common kinds and its names stand for formulas. -/

namespace FilterCompiler

theorem Integer.powerOfTen_lt {m n : Nat} (h : m < n) : powerOfTen m < powerOfTen n :=
  Nat.pow_lt_pow_right (by decide) h

/-- A number of one digit has a text. -/
theorem Integer.lt_textBound {n : Nat} (h : n ≤ powerOfTen 1) : n < textBound :=
  Nat.lt_of_le_of_lt h (powerOfTen_lt (by decide))

/-! ### Literals and values -/

namespace Literal

/-- Whether every built-in dialect can write a literal: it is of a common kind, and no integer
that is too long. -/
def IsCommon : Literal → Prop
  | integer n => n.natAbs < Integer.textBound
  | bytes _ | day _ | moment _ => False
  | _ => True

/-- The term of a literal of a common kind. -/
def term : Literal → Term
  | truth b => .truth b
  | text t => .text t
  | integer n => .number (Integer.text n)
  | float x => .number x.text
  | decimal x => .number x.text
  | null | bytes _ | day _ | moment _ => .null

end Literal

def Value.term (column : Int → String) : Value → Term
  | field n => .column (column n)
  | literal v => v.term

/-- A condition with columns for its fields and formulas for the names in it. -/
def Condition.formula (column : Int → String) (body : String → Formula) : Condition → Formula
  | join k c d => .join k (c.formula column body) (d.formula column body)
  | not c => .not (c.formula column body)
  | ordering greater u v =>
    .atom (.compare (if greater then .greater else .less) (u.term column) (v.term column))
  | equality negated u vs =>
    .atom (.membership negated (u.term column) (vs.map (Value.term column)))
  | nullCheck negated u => .atom (.isNull negated (u.term column))
  | field n => .atom (.column (column n))
  | reference name => .named (body name)

/-! ### Lookups -/

namespace Graph

/-- Whether a literal is the same key as another operand is no matter of the graph. -/
theorem sameKey_lit (g g' : Graph) (depth : Nat) (key : Operand) (v : Literal) :
    g.sameKey depth key (.lit v) = g'.sameKey depth key (.lit v) := by
  unfold sameKey orIdentical
  split
  · rfl
  · cases depth with
    | zero => rfl
    | succ depth => cases key <;> rfl

end Graph

theorem Fields.find?_lit (g g' : Graph) (v : Literal) (fields : Fields) :
    fields.find? g (.lit v) = fields.find? g' (.lit v) := by
  induction fields with
  | nil => rfl
  | cons e rest ih =>
    obtain ⟨key, column⟩ := e
    rw [Fields.find?, Fields.find?, ih, g.sameKey_lit g']

namespace Scope

/-- A name that is defined is a text in the table. -/
theorem resolve_eq_ok_iff {s : Scope} {name body : Operand} :
    s.resolve name = .ok body ↔
      ∃ t, name = .lit (.text t) ∧ s.definitions.find? t = some body ∧ body ≠ .lit .null := by
  have hundefined (name : Operand) : resolve.undefinedName s name ≠ .ok body := by
    unfold resolve.undefinedName
    cases s.text name <;> simp
  constructor
  · intro h
    unfold resolve at h
    rw [bind_eq_ok_iff] at h
    obtain ⟨_, -, h⟩ := h
    split at h
    · next t =>
      split at h
      · exact absurd h (hundefined _)
      · exact absurd h (hundefined _)
      · next found hnull hfound =>
        obtain rfl : found = body := Except.ok.inj h
        exact ⟨t, rfl, hfound, hnull⟩
    · exact absurd h (hundefined _)
  · rintro ⟨t, rfl, hfound, hnull⟩
    have hkey : s.checkKey (.lit (.text t)) = .ok () := rfl
    rw [resolve, hkey, ok_bind, hfound]
    split
    · contradiction
    · next heq => exact absurd (Option.some.inj heq) hnull
    · next heq => exact congrArg _ (Option.some.inj heq).symm

/-- A field has the column of its number, if that can be a key and the column is not empty. -/
theorem column_eq_ok_iff {s : Scope} {number : Operand} {name : String} :
    s.column number = .ok name ↔
      s.checkKey number = .ok () ∧ s.fields.find? s.graph number = .ok (some name) ∧
        name ≠ "" := by
  have hunknown : column.unknown s number ≠ .ok name := by
    unfold column.unknown
    cases s.text number <;> simp
  constructor
  · intro h
    obtain ⟨_, hkey, h⟩ := bind_eq_ok_iff.1 h
    obtain ⟨found, hfind, h⟩ := bind_eq_ok_iff.1 h
    cases found with
    | none => exact absurd h hunknown
    | some other =>
      dsimp only at h
      split at h
      · exact absurd h hunknown
      · next hne =>
        cases h
        exact ⟨hkey, hfind, hne⟩
  · rintro ⟨hkey, hfind, hne⟩
    rw [column, hkey, ok_bind, hfind, ok_bind]
    dsimp only
    rw [if_neg hne]
    rfl

variable {s : Scope} {x : Operand} {column : Int → String}

theorem literalTerm_of_isCommon {v : Literal} (h : v.IsCommon) : s.literalTerm v = .ok v.term := by
  have number {v : Literal} {shown : String} (h : v.plain? = some shown) :
      (s.text (.lit v)).map Term.number = .ok (.number shown) := by
    rw [text_lit, h]
    rfl
  cases v with
  | null | truth _ | text _ => rfl
  | bytes _ | day _ | moment _ => exact h.elim
  | integer n =>
    have hn : Integer.text? n = some (Integer.text n) := by
      rw [Integer.text?, if_pos (show n.natAbs < Integer.textBound from h)]
    simp only [literalTerm, Literal.term]
    exact number (v := .integer n) (by rw [Literal.plain?, hn])
  | float n =>
    simp only [literalTerm, Literal.term]
    exact number (v := .float n) rfl
  | decimal n =>
    simp only [literalTerm, Literal.term]
    exact number (v := .decimal n) rfl

/-- A value is written as its term. -/
theorem term_of_holdsValue {u : Value} (h : s.graph.HoldsValue x u)
    (hfields : ∀ n ∈ u.fields, s.column (.lit (.integer n)) = .ok (column n))
    (hliterals : ∀ v ∈ u.literals, v.IsCommon) : s.term x = .ok (u.term column) := by
  cases h with
  | @field _ n node =>
    rw [term_of_field node, hfields n (by simp [Value.fields])]
    rfl
  | literal v => exact literalTerm_of_isCommon (hliterals v (by simp [Value.literals]))

theorem mapM_of_holdsValue {items : List Operand} {us : List Value}
    (h : List.Forall₂ s.graph.HoldsValue items us)
    (hfields : ∀ n ∈ us.flatMap Value.fields, s.column (.lit (.integer n)) = .ok (column n))
    (hliterals : ∀ v ∈ us.flatMap Value.literals, v.IsCommon) :
    items.mapM s.term = .ok (us.map (Value.term column)) := by
  rw [mapM_eq_ok_iff]
  induction h with
  | nil => exact .nil
  | cons hx _ ih =>
    simp only [List.flatMap_cons, List.mem_append] at hfields hliterals
    exact .cons (term_of_holdsValue hx (fun n hn => hfields n (.inl hn))
        fun v hv => hliterals v (.inl hv))
      (ih (fun n hn => hfields n (.inr hn)) fun v hv => hliterals v (.inr hv))

/-! ### The shapes of conditions -/

variable {l r y values number name : Operand}

theorem membership_of_elements {negated : Bool} {items : List Operand}
    (h : s.graph.elements? values = some items) :
    s.membership negated y values =
      s.term y >>= fun t => (items.mapM s.term).map (.membership negated t) := by
  simp only [membership, Dialect.valuesOf, h, ok_bind]
  cases items.mapM s.term <;> rfl

theorem shape_join {k : Connective} (h : s.graph.node? x = some (k.node l r)) :
    s.shape x = .ok (.join k l r) := by
  cases k <;> simp only [shape, h] <;> rfl

theorem shape_not (h : s.graph.node? x = some (.not y)) : s.shape x = .ok (.not y) := by
  simp only [shape, h]
  rfl

theorem shape_ordering {greater : Bool} (h : s.graph.node? x = some (.ordering greater l r)) :
    s.shape x = s.term l >>= fun t => (s.term r).map fun u =>
      .atom (.compare (if greater then .greater else .less) t u) := by
  cases greater
  · simp only [shape, show s.graph.node? x = some (.lessThan l r) from h]
    cases s.term r <;> rfl
  · simp only [shape, show s.graph.node? x = some (.greaterThan l r) from h]
    cases s.term r <;> rfl

theorem shape_equality {negated : Bool} (h : s.graph.node? x = some (.equality negated y values)) :
    s.shape x = (s.membership negated y values).map .atom := by
  cases negated
  · simp only [shape, show s.graph.node? x = some (.equal y values) from h]
    cases s.membership false y values <;> rfl
  · simp only [shape, show s.graph.node? x = some (.notEqual y values) from h]
    cases s.membership true y values <;> rfl

theorem shape_nullCheck {negated : Bool} (h : s.graph.node? x = some (.nullCheck negated y)) :
    s.shape x = (s.term y).map fun t => .atom (.isNull negated t) := by
  cases negated
  · simp only [shape, show s.graph.node? x = some (.isEmpty y) from h]
    cases s.term y <;> rfl
  · simp only [shape, show s.graph.node? x = some (.notEmpty y) from h]
    cases s.term y <;> rfl

theorem shape_field (h : s.graph.node? x = some (.field number)) :
    s.shape x = (s.column number).map fun name => .atom (.column name) := by
  simp only [shape, h]
  cases s.column number <;> rfl

theorem shape_reference (h : s.graph.node? x = some (.reference name)) :
    s.shape x = (s.resolve name).map .follow := by
  simp only [shape, h]
  cases s.resolve name <;> rfl

end Scope

namespace Graph

/-- An operand stands for the formula of the condition that it holds. -/
theorem Holds.stands {s : Scope} {x : Operand} {c : Condition} (h : s.graph.Holds x c)
    {column : Int → String} {body : String → Formula}
    (hfields : ∀ n ∈ c.fields, s.column (.lit (.integer n)) = .ok (column n))
    (hliterals : ∀ v ∈ c.literals, v.IsCommon)
    (hreferences : ∀ name ∈ c.references,
      ∃ y, s.resolve (.lit (.text name)) = .ok y ∧ s.Stands y (body name)) :
    s.Stands x (c.formula column body) := by
  induction h with
  | join node _ _ ihl ihr =>
    simp only [Condition.fields, Condition.literals, Condition.references, List.mem_append]
      at hfields hliterals hreferences
    exact .join (Scope.shape_join node)
      (ihl (fun n hn => hfields n (.inl hn)) (fun v hv => hliterals v (.inl hv))
        fun name hname => hreferences name (.inl hname))
      (ihr (fun n hn => hfields n (.inr hn)) (fun v hv => hliterals v (.inr hv))
        fun name hname => hreferences name (.inr hname))
  | not node _ ih => exact .not (Scope.shape_not node) (ih hfields hliterals hreferences)
  | ordering node left right =>
    simp only [Condition.fields, Condition.literals, List.mem_append] at hfields hliterals
    refine .atom ?_
    rw [Scope.shape_ordering node, Scope.term_of_holdsValue left (fun n hn => hfields n (.inl hn))
      fun v hv => hliterals v (.inl hv), Scope.term_of_holdsValue right
      (fun n hn => hfields n (.inr hn)) fun v hv => hliterals v (.inr hv)]
    rfl
  | equality node operand elements compared =>
    simp only [Condition.fields, Condition.literals, List.mem_append] at hfields hliterals
    have hy := Scope.term_of_holdsValue operand (fun n hn => hfields n (.inl hn))
      fun v hv => hliterals v (.inl hv)
    have hitems := Scope.mapM_of_holdsValue compared (fun n hn => hfields n (.inr hn))
      fun v hv => hliterals v (.inr hv)
    refine .atom ?_
    rw [Scope.shape_equality node, Scope.membership_of_elements elements, hy, ok_bind, hitems]
    rfl
  | nullCheck node value =>
    refine .atom ?_
    rw [Scope.shape_nullCheck node, Scope.term_of_holdsValue value hfields hliterals]
    rfl
  | field node =>
    refine .atom ?_
    rw [Scope.shape_field node, hfields _ (by simp [Condition.fields])]
    rfl
  | @reference x name node =>
    obtain ⟨y, hy, hstands⟩ := hreferences name (by simp [Condition.references])
    refine .named (y := y) ?_ hstands
    rw [Scope.shape_reference node, hy]
    rfl

end Graph

end FilterCompiler
