import FilterCompiler.Proofs.Condition

/-! Truth values. A comparison with NULL is neither true nor false, so a condition has one of three
values; AND takes the lesser of two, OR the greater. What a condition comes to when its predicates
are given truth values, by the texts they are written with, is said of the graph itself, a
reference having the value of what it stands for. Proved here: the formula that an operand stands
for has the value of the operand. -/

namespace FilterCompiler

inductive Truth where
  | no | unknown | yes
deriving DecidableEq, Repr

namespace Truth

def not : Truth → Truth
  | no => yes
  | unknown => unknown
  | yes => no

def and : Truth → Truth → Truth
  | no, _ | _, no => no
  | yes, yes => yes
  | _, _ => unknown

def or : Truth → Truth → Truth
  | yes, _ | _, yes => yes
  | no, no => no
  | _, _ => unknown

theorem and_assoc (a b c : Truth) : (a.and b).and c = a.and (b.and c) := by
  cases a <;> cases b <;> cases c <;> rfl

instance : Std.Associative and := ⟨and_assoc⟩

theorem or_assoc (a b c : Truth) : (a.or b).or c = a.or (b.or c) := by
  cases a <;> cases b <;> cases c <;> rfl

theorem or_eq_yes_iff {a b : Truth} : a.or b = yes ↔ a = yes ∨ b = yes := by
  cases a <;> cases b <;> decide

theorem or_eq_no_iff {a b : Truth} : a.or b = no ↔ a = no ∧ b = no := by
  cases a <;> cases b <;> decide

theorem not_eq_yes_iff {a : Truth} : a.not = yes ↔ a = no := by
  cases a <;> decide

end Truth

/-- What a connective makes of two truth values. -/
def Connective.truth : Connective → Truth → Truth → Truth
  | and => Truth.and
  | or => Truth.or

/-- The value of a formula whose predicates have values by their texts. -/
def Formula.truth (mark : Char) (σ : String → Truth) : Formula → Truth
  | atom p => σ (p.write mark)
  | join k f g => k.truth (f.truth mark σ) (g.truth mark σ)
  | not f => (f.truth mark σ).not
  | named f => f.truth mark σ

/-- Whether a node is a condition that holds no other one. -/
def Node.isPredicate : Node → Bool
  | lessThan .. | greaterThan .. | equal .. | notEqual .. | isEmpty _ | notEmpty _ | field _ => true
  | _ => false

namespace Scope

/-- The value of a condition in a graph, with every reference replaced by what its name stands
for. A predicate has the value that is given to its text in the dialect. -/
inductive Evaluates (s : Scope) (d : Dialect) (σ : String → Truth) : Operand → Truth → Prop where
  | predicate {x : Operand} {n : Node} {text : String} (node : s.graph.node? x = some n)
      (kind : n.isPredicate = true) (written : d.formatOperator s x = .ok text) :
      Evaluates s d σ x (σ text)
  | join {x l r : Operand} {k : Connective} {a b : Truth}
      (node : s.graph.node? x = some (k.node l r)) (left : Evaluates s d σ l a)
      (right : Evaluates s d σ r b) : Evaluates s d σ x (k.truth a b)
  | not {x y : Operand} {a : Truth} (node : s.graph.node? x = some (.not y))
      (operand : Evaluates s d σ y a) : Evaluates s d σ x a.not
  | reference {x name body : Operand} {a : Truth}
      (node : s.graph.node? x = some (.reference name)) (found : s.resolve name = .ok body)
      (value : Evaluates s d σ body a) : Evaluates s d σ x a

end Scope

/-! ### Shapes and the nodes they are of -/

/-- A node may have a shape. -/
def Node.Fits (s : Scope) (n : Node) : Shape → Prop
  | .atom _ => n.isPredicate = true
  | .join k l r => n = k.node l r
  | .not y => n = .not y
  | .follow body => ∃ name, n = .reference name ∧ s.resolve name = .ok body

namespace Scope

variable {s : Scope} {x : Operand}

theorem exists_node_of_shape {shape : Shape} (h : s.shape x = .ok shape) :
    ∃ n, s.graph.node? x = some n ∧ n.Fits s shape := by
  unfold Scope.shape at h
  cases hn : s.graph.node? x with
  | none => simp [hn] at h
  | some n =>
    refine ⟨n, rfl, ?_⟩
    cases n <;> simp only [hn, bind_eq_ok_iff, pure_eq_ok, throw_eq_error, Except.ok.injEq,
      reduceCtorEq] at h
    case and | or | not => subst h; rfl
    case lessThan | greaterThan => obtain ⟨_, _, _, _, rfl⟩ := h; rfl
    case equal | notEqual | isEmpty | notEmpty | field => obtain ⟨_, _, rfl⟩ := h; rfl
    case reference name => obtain ⟨body, hbody, rfl⟩ := h; exact ⟨name, rfl, hbody⟩

theorem fits_of_shape {shape : Shape} (h : s.shape x = .ok shape) {n : Node}
    (hn : s.graph.node? x = some n) : n.Fits s shape := by
  obtain ⟨m, hm, hfits⟩ := exists_node_of_shape h
  rw [hm] at hn
  exact Option.some.inj hn ▸ hfits

/-- What a predicate is written as. -/
theorem formatOperator_of_shape (b : BuiltIn) {p : Predicate} (h : s.shape x = .ok (.atom p)) :
    b.dialect.formatOperator s x = .ok (p.write b.mark) := by
  rw [Dialect.formatOperator, b.operator_eq_shape, h]
  rfl

theorem Stands.evaluates {f : Formula} (h : s.Stands x f) (b : BuiltIn) (σ : String → Truth) :
    s.Evaluates b.dialect σ x (f.truth b.mark σ) := by
  induction h with
  | atom shape =>
    obtain ⟨n, hn, hkind⟩ := exists_node_of_shape shape
    exact .predicate hn hkind (formatOperator_of_shape b shape)
  | join shape _ _ ihl ihr =>
    obtain ⟨n, hn, rfl⟩ := exists_node_of_shape shape
    exact .join hn ihl ihr
  | not shape _ ih =>
    obtain ⟨n, hn, rfl⟩ := exists_node_of_shape shape
    exact .not hn ih
  | named shape _ ih =>
    obtain ⟨n, hn, name, rfl, hbody⟩ := exists_node_of_shape shape
    exact .reference hn hbody ih

/-- The formula of a condition has its value. -/
theorem Evaluates.truth_eq {b : BuiltIn} {σ : String → Truth} {v : Truth}
    (h : s.Evaluates b.dialect σ x v) {f : Formula} (hf : s.Stands x f) :
    f.truth b.mark σ = v := by
  induction h generalizing f with
  | predicate node kind written =>
    cases hf with
    | atom shape =>
      rw [formatOperator_of_shape b shape] at written
      cases written
      rfl
    | @join _ _ _ k _ _ shape =>
      obtain rfl := fits_of_shape shape node
      cases k <;> cases kind
    | not shape =>
      obtain rfl := fits_of_shape shape node
      cases kind
    | named shape =>
      obtain ⟨_, rfl, _⟩ := fits_of_shape shape node
      cases kind
  | @join x l r k _ _ node _ _ ihl ihr =>
    cases hf with
    | atom shape =>
      have hkind : (k.node l r).isPredicate = true := fits_of_shape shape node
      cases k <;> cases hkind
    | @join _ l' r' k' _ _ shape left right =>
      have := congrArg Node.outline (fits_of_shape shape node)
      simp only [Node.outline_connective, Node.Outline.join.injEq] at this
      obtain ⟨rfl, rfl, rfl⟩ := this
      rw [Formula.truth, ihl left, ihr right]
    | not shape => simpa using congrArg Node.outline (fits_of_shape shape node)
    | named shape =>
      obtain ⟨_, h, _⟩ := fits_of_shape shape node
      simpa using congrArg Node.outline h
  | not node _ ih =>
    cases hf with
    | not shape operand =>
      cases fits_of_shape shape node
      rw [Formula.truth, ih operand]
    | atom shape => cases fits_of_shape shape node
    | join shape => simpa using congrArg Node.outline (fits_of_shape shape node)
    | named shape =>
      obtain ⟨_, h, _⟩ := fits_of_shape shape node
      cases h
  | reference node found _ ih =>
    cases hf with
    | named shape body =>
      obtain ⟨_, h, hbody⟩ := fits_of_shape shape node
      cases h
      rw [hbody] at found
      cases found
      rw [Formula.truth, ih body]
    | atom shape | not shape => cases fits_of_shape shape node
    | join shape => simpa using congrArg Node.outline (fits_of_shape shape node)

/-- A condition has exactly the value of its formula. -/
theorem Stands.evaluates_iff {f : Formula} (h : s.Stands x f) (b : BuiltIn)
    (σ : String → Truth) {v : Truth} :
    s.Evaluates b.dialect σ x v ↔ f.truth b.mark σ = v :=
  ⟨fun hv => hv.truth_eq h, fun hv => hv ▸ h.evaluates b σ⟩

end Scope

end FilterCompiler
