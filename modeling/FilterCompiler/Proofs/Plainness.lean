import FilterCompiler.Proofs.Formula

/-! Kinds of faults. A computation fails only in ways of some kind if each of its steps does.
Looking something up fails plainly: it never reports a circular dependency, and what it reports
can be worded. Proved here: so does settling the shape of a node. -/

namespace FilterCompiler

/-- A computation whose faults are all of a kind. -/
def FailsOnly {α : Type} (kind : Fault → Prop) (r : Except Fault α) : Prop :=
  ∀ e, r = .error e → kind e

namespace FailsOnly

variable {α β : Type} {kind kind' : Fault → Prop}

theorem ok (a : α) : FailsOnly kind (.ok a) := fun _ h => by cases h

theorem error {e : Fault} (h : kind e) : FailsOnly kind (.error e : Except Fault α) :=
  fun _ he => by cases he; exact h

theorem bind {r : Except Fault α} {f : α → Except Fault β} (hr : FailsOnly kind r)
    (hf : ∀ a, FailsOnly kind (f a)) : FailsOnly kind (r >>= f) := by
  cases r with
  | ok a => exact hf a
  | error e => exact .error (hr e rfl)

theorem map {r : Except Fault α} (hr : FailsOnly kind r) (f : α → β) :
    FailsOnly kind (r.map f) := by
  cases r with
  | ok a => exact ok _
  | error e => exact .error (hr e rfl)

theorem mapM {f : α → Except Fault β} (hf : ∀ a, FailsOnly kind (f a)) (xs : List α) :
    FailsOnly kind (xs.mapM f) := by
  intro e h
  obtain ⟨x, _, hx⟩ := exists_of_mapM_eq_error h
  exact hf x e hx

theorem imp {r : Except Fault α} (hr : FailsOnly kind r) (h : ∀ e, kind e → kind' e) :
    FailsOnly kind' r :=
  fun e he => h e (hr e he)

end FailsOnly

/-- Whether a fault is neither a circular dependency nor one that cannot be worded. -/
def Fault.isPlain : Fault → Bool
  | circular .. | unworded .. => false
  | _ => true

theorem Fault.isWorded_of_isPlain {f : Fault} (h : f.isPlain = true) : f.IsWorded := by
  cases f <;> first | rfl | cases h

/-- A computation all of whose faults are plain. -/
abbrev FailsPlainly {α : Type} (r : Except Fault α) : Prop := FailsOnly (·.isPlain = true) r

namespace Graph

/-- A comparison all of whose faults are plain. -/
def Comparison.Plain (same : Comparison) : Prop := ∀ x y, FailsPlainly (same x y)

variable {same : Comparison}

theorem Comparison.Plain.sameAll (h : same.Plain) (xs ys : List Operand) :
    FailsPlainly (sameAll same xs ys) := by
  induction xs generalizing ys with
  | nil => cases ys <;> exact .ok _
  | cons x xs ih =>
    cases ys with
    | nil => exact .ok _
    | cons y ys =>
      refine (h x y).bind fun a => ?_
      split
      · exact ih ys
      · exact .ok _

theorem Comparison.Plain.lookup? (h : same.Plain) (key : Operand)
    (entries : List (Operand × Operand)) : FailsPlainly (lookup? same key entries) := by
  induction entries with
  | nil => exact .ok _
  | cons e rest ih =>
    refine (h _ _).bind fun a => ?_
    split
    · exact .ok _
    · exact ih

theorem Comparison.Plain.sameRecord (h : same.Plain) (xs ys : List (Operand × Operand)) :
    FailsPlainly (sameRecord same xs ys) := by
  have hentries (zs : List (Operand × Operand)) : FailsPlainly (sameEntries same ys zs) := by
    induction zs with
    | nil => exact .ok _
    | cons e rest ih =>
      refine (h.lookup? e.1 ys).bind fun found => ?_
      cases found with
      | none => exact .ok _
      | some w =>
        refine (h e.2 w).bind fun a => ?_
        split
        · exact ih
        · exact .ok _
  unfold Graph.sameRecord
  split
  · exact hentries xs
  · exact .ok _

theorem Comparison.Plain.samePart (h : same.Plain) (p q : Part) :
    FailsPlainly (samePart same p q) := by
  unfold Graph.samePart
  split
  · split
    · exact h.sameAll _ _
    · exact .ok _
  · split
    · exact h.sameAll _ _
    · exact .ok _
  · exact h.sameAll _ _
  · exact h.sameRecord _ _
  · exact h.sameRecord _ _
  · exact h.sameRecord _ _
  · refine (h.sameRecord _ _).bind fun a => ?_
    split
    · exact h.sameAll _ _
    · exact .ok _
  · exact h.sameRecord _ _
  · exact .ok _

theorem Comparison.Plain.orIdentical (h : same.Plain) : Plain (orIdentical same) := by
  intro x y
  unfold Graph.orIdentical
  split
  · exact .ok _
  · exact h x y

theorem plain_same (g : Graph) (depth : Nat) : Comparison.Plain (g.same depth) := by
  induction depth with
  | zero => intro x y; exact .error rfl
  | succ depth ih =>
    intro x y
    unfold Graph.same
    split
    · unfold Literal.compare
      split
      · exact .error rfl
      · exact .ok _
    · split
      · exact ih.orIdentical.samePart _ _
      · exact .ok _
    · exact .ok _

theorem isPlain_of_keyFault? {g : Graph} {depth : Nat} {x : Operand} {f : Fault}
    (h : g.keyFault? depth x = some f) : f.isPlain = true := by
  induction depth generalizing x with
  | zero =>
    cases h
    rfl
  | succ depth ih =>
    unfold keyFault? at h
    split at h
    · split at h <;> cases h
      rfl
    · cases h
    · obtain ⟨_, y, _, _, hy, _⟩ := List.findSome?_eq_some_iff.1 h
      exact ih hy
    · obtain ⟨_, y, _, _, hy, _⟩ := List.findSome?_eq_some_iff.1 h
      exact ih hy
    · cases h
      rfl

end Graph

namespace Scope

variable (s : Scope)

theorem plain_text (x : Operand) : FailsPlainly (s.text x) := by
  unfold text
  split
  · exact .ok _
  · exact .error rfl

theorem plain_checkKey (x : Operand) : FailsPlainly (s.checkKey x) := by
  unfold checkKey
  split
  · next f hf => intro e h; cases h; exact s.graph.isPlain_of_keyFault? hf
  · exact .ok _

theorem plain_find? (number : Operand) (fields : Fields) :
    FailsPlainly (fields.find? s.graph number) := by
  induction fields with
  | nil => exact .ok _
  | cons e rest ih =>
    have hkey := (s.graph.plain_same nestingLimit).orIdentical e.1 number
    unfold Fields.find? Graph.sameKey
    split
    · next f hf => intro e h; cases h; exact hkey f hf
    · exact .ok _
    · exact ih

theorem plain_column (number : Operand) : FailsPlainly (s.column number) := by
  have hunknown : FailsPlainly (column.unknown s number) :=
    (s.plain_text number).bind fun _ => .error rfl
  refine (s.plain_checkKey number).bind fun _ =>
    (s.plain_find? number s.fields).bind fun found => ?_
  cases found with
  | none => exact hunknown
  | some name =>
    dsimp only
    split
    · exact hunknown
    · exact .ok _

theorem plain_resolve (name : Operand) : FailsPlainly (s.resolve name) := by
  have hundefined : FailsPlainly (resolve.undefinedName s name) :=
    (s.plain_text name).bind fun _ => .error rfl
  refine (s.plain_checkKey name).bind fun _ => ?_
  split
  · split
    · exact hundefined
    · exact hundefined
    · exact .ok _
  · exact hundefined

theorem plain_term (x : Operand) : FailsPlainly (s.term x) := by
  cases x with
  | lit v =>
    cases v with
    | null => exact .ok _
    | truth b => exact .ok _
    | text t => exact .ok _
    | integer n => exact (s.plain_text (.lit (.integer n))).map Term.number
    | float n => exact (s.plain_text (.lit (.float n))).map Term.number
    | decimal n => exact (s.plain_text (.lit (.decimal n))).map Term.number
    | _ => exact .error rfl
  | part n =>
    simp only [term]
    split
    · exact (s.plain_column _).map _
    · exact .error rfl

theorem plain_valuesOf (x : Operand) : FailsPlainly (Dialect.valuesOf s x) := by
  unfold Dialect.valuesOf
  split
  · exact .ok _
  · exact .error rfl

theorem plain_membership (negated : Bool) (x values : Operand) :
    FailsPlainly (s.membership negated x values) :=
  (s.plain_term x).bind fun _ => (s.plain_valuesOf values).bind fun vs =>
    (FailsOnly.mapM s.plain_term vs).bind fun _ => .ok _

/-- A node by itself fails plainly. -/
theorem plain_shape (x : Operand) : FailsPlainly (s.shape x) := by
  unfold shape
  split
  · exact .ok _
  · exact .ok _
  · exact .ok _
  · exact (s.plain_term _).bind fun _ => (s.plain_term _).bind fun _ => .ok _
  · exact (s.plain_term _).bind fun _ => (s.plain_term _).bind fun _ => .ok _
  · exact (s.plain_membership _ _ _).bind fun _ => .ok _
  · exact (s.plain_membership _ _ _).bind fun _ => .ok _
  · exact (s.plain_term _).bind fun _ => .ok _
  · exact (s.plain_term _).bind fun _ => .ok _
  · exact (s.plain_column _).bind fun _ => .ok _
  · exact (s.plain_resolve _).bind fun _ => .ok _
  · exact .error rfl

end Scope

end FilterCompiler
