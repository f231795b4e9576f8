import FilterCompiler.Dialect.Extension
import FilterCompiler.Proofs.Framing
import FilterCompiler.Proofs.Lookups

/-! Built-in dialects with capabilities of an application's own. Custom nodes are written by
templates, which have values and conditions written by the whole dialect, and some values that no
built-in dialect can write are written too; all else is left to the built-in dialect. Proved here:
where nothing of the application's own is reached, the two write the same, and what is written
below a path is written the same with more room and with less above it. -/

namespace FilterCompiler

/-! ### The common capabilities at one node -/

namespace Dialect

variable {s : Scope} {x : Operand} {value value' express express' : Operand → Rendered}

theorem membership_congr {negated : Bool} {y values : Operand}
    (h : ∀ v ∈ y :: (s.graph.elements? values).getD [], value v = value' v) :
    membership s value negated y values = membership s value' negated y values := by
  rw [List.forall_mem_cons] at h
  unfold membership valuesOf
  rw [h.1]
  cases helements : s.graph.elements? values with
  | none => rfl
  | some items =>
    rw [helements] at h
    have hitems : items.mapM value = items.mapM value' := mapM_congr h.2
    simp only [ok_bind]
    split
    · rfl
    · next only _ => rw [h.2 only (by simp)]
    · rw [hitems]

/-- A comparison that is written goes through some values, and has written all but a single
NULL. -/
theorem exists_of_membership_eq_ok {negated : Bool} {y values : Operand} {text : String}
    (h : membership s value negated y values = .ok text) :
    ∃ left items, value y = .ok left ∧ s.graph.elements? values = some items ∧
      ∀ z ∈ items, z = .lit .null ∨ ∃ shown, value z = .ok shown := by
  obtain ⟨left, hleft, h⟩ := bind_eq_ok_iff.1 h
  obtain ⟨items, hitems, h⟩ := bind_eq_ok_iff.1 h
  have helements : s.graph.elements? values = some items := by
    unfold valuesOf at hitems
    split at hitems
    · next helements => rw [helements, Except.ok.inj hitems]
    · cases hitems
  refine ⟨left, items, hleft, helements, fun z hz => ?_⟩
  split at h
  · exact .inl (List.mem_singleton.1 hz)
  · obtain ⟨shown, hshown, _⟩ := bind_eq_ok_iff.1 h
    exact .inr ⟨shown, List.mem_singleton.1 hz ▸ hshown⟩
  · obtain ⟨texts, htexts, _⟩ := bind_eq_ok_iff.1 h
    obtain ⟨shown, _, hshown⟩ := exists_of_forall₂ (mapM_eq_ok_iff.1 htexts) hz
    exact .inr ⟨shown, hshown⟩

section

variable {l r y values name : Operand}

theorem commonOperator_join {k : Connective} (h : s.graph.node? x = some (k.node l r)) :
    commonOperator s value express x = junction s express k.write l r := by
  unfold commonOperator
  rw [h]
  cases k <;> rfl

theorem commonOperator_not (h : s.graph.node? x = some (.not y)) :
    commonOperator s value express x =
      express y >>= fun text => .ok ("NOT (" ++ text ++ ")") := by
  unfold commonOperator
  rw [h]
  rfl

theorem commonOperator_ordering {greater : Bool}
    (h : s.graph.node? x = some (.ordering greater l r)) :
    commonOperator s value express x =
      comparison value (if greater then Sign.greater else .less).write l r := by
  unfold commonOperator
  rw [h]
  cases greater <;> rfl

theorem commonOperator_equality {negated : Bool}
    (h : s.graph.node? x = some (.equality negated y values)) :
    commonOperator s value express x = membership s value negated y values := by
  unfold commonOperator
  rw [h]
  cases negated <;> rfl

theorem commonOperator_nullCheck {negated : Bool}
    (h : s.graph.node? x = some (.nullCheck negated y)) :
    commonOperator s value express x =
      value y >>= fun text =>
        .ok (text ++ if negated then " IS NOT NULL" else " IS NULL") := by
  unfold commonOperator
  rw [h]
  cases negated <;> rfl

theorem commonOperator_field {number : Operand} (h : s.graph.node? x = some (.field number)) :
    commonOperator s value express x = value x := by
  unfold commonOperator
  rw [h]

theorem commonOperator_reference (h : s.graph.node? x = some (.reference name)) :
    commonOperator s value express x = s.resolve name >>= express := by
  unfold commonOperator
  rw [h]

end

/-- What the common operator writes depends on the values at the node and the conditions right
below it. -/
theorem commonOperator_congr (hvalue : ∀ v ∈ s.graph.valuesAt x, value v = value' v)
    (hexpress : ∀ y ∈ s.below x, express y = express' y) :
    commonOperator s value express x = commonOperator s value' express' x := by
  unfold Graph.valuesAt at hvalue
  unfold Scope.below at hexpress
  unfold commonOperator
  cases hn : s.graph.node? x with
  | none => rfl
  | some n =>
    rw [hn] at hvalue hexpress
    cases n with
    | and l r | or l r =>
      simp only [junction, side_eq]
      rw [hexpress l (by simp), hexpress r (by simp)]
    | not y =>
      dsimp only
      rw [hexpress y (by simp)]
    | lessThan l r | greaterThan l r =>
      simp only [comparison]
      rw [hvalue l (by simp), hvalue r (by simp)]
    | equal y values | notEqual y values => exact membership_congr hvalue
    | isEmpty y | notEmpty y =>
      dsimp only
      rw [hvalue y (by simp)]
    | field number => exact hvalue x (by simp)
    | reference name =>
      dsimp only at hexpress ⊢
      cases hbody : s.resolve name with
      | error e => rfl
      | ok body =>
        rw [hbody] at hexpress
        exact hexpress body (by simp [Except.toOption])
    | _ => rfl

/-- Nothing right below a node that is written has failed. -/
theorem exists_of_commonOperator_eq_ok {text : String}
    (h : commonOperator s value express x = .ok text) :
    ∀ y ∈ s.below x, ∃ text, express y = .ok text := by
  unfold commonOperator at h
  unfold Scope.below
  cases hn : s.graph.node? x with
  | none => simp
  | some n =>
    rw [hn] at h
    cases n with
    | and l r | or l r =>
      simp only [junction, side_eq, bind_eq_ok_iff, map_eq_ok_iff] at h
      obtain ⟨_, ⟨a, ha, _⟩, _, ⟨b, hb, _⟩, _⟩ := h
      simp [ha, hb]
    | not y =>
      obtain ⟨a, ha, _⟩ := bind_eq_ok_iff.1 h
      simp [ha]
    | reference name =>
      obtain ⟨body, hbody, h⟩ := bind_eq_ok_iff.1 h
      simpa [hbody, Except.toOption] using ⟨text, h⟩
    | _ => simp

end Dialect

/-- What a statement says depends on how its condition is written. -/
theorem BuiltIn.statement_congr (b : BuiltIn) {s : Scope} {root : Operand} {q : Selection}
    {express express' : Operand → Rendered} (hroot : s.graph.node? root = some (.select q))
    (h : express q.condition = express' q.condition) :
    b.dialect.statement s express root = b.dialect.statement s express' root := by
  have hcondition : Dialect.conditionClause express q.condition =
      Dialect.conditionClause express' q.condition := by
    rw [Dialect.conditionClause, Dialect.conditionClause, h]
  cases b with
  | sqlserver =>
    change Dialect.selectTop s express root = Dialect.selectTop s express' root
    simp only [Dialect.selectTop, hroot, hcondition]
  | postgres | mysql =>
    change Dialect.selectLimit s express root = Dialect.selectLimit s express' root
    simp only [Dialect.selectLimit, hroot, hcondition]

/-! ### Overrides -/

/-- How a custom node is written: it has values and conditions written, and what comes next may
depend on what they were written as. -/
inductive Template where
  | give (written : Rendered)
  | value (x : Operand) (next : String → Template)
  | condition (x : Operand) (next : String → Template)

def Template.run (value express : Operand → Rendered) : Template → Rendered
  | give written => written
  | .value x next => value x >>= fun text => (next text).run value express
  | condition x next => express x >>= fun text => (next text).run value express

namespace Graph

/-- An operand that every built-in dialect has a notation for. -/
def IsCommonValue (g : Graph) : Operand → Prop
  | .lit (.bytes _) | .lit (.day _) | .lit (.moment _) => False
  | .lit _ => True
  | x => ∃ number, g.node? x = some (.field number)

def IsCustom (g : Graph) (x : Operand) : Prop :=
  ∃ kind tag arguments, g.node? x = some (.custom kind tag arguments)

theorem isCommonValue_of_field {g : Graph} {x number : Operand}
    (h : g.node? x = some (.field number)) : g.IsCommonValue x := by
  cases x with
  | lit v => cases h
  | part n => exact ⟨number, h⟩

end Graph

/-- A built-in dialect with templates for custom nodes and with a notation for values that it has
none for. -/
structure Override where
  base : BuiltIn
  value : Scope → Operand → Option Rendered
  operator : Scope → Operand → Option Template
  value_eq_none : ∀ {s x}, s.graph.IsCommonValue x → value s x = none
  operator_eq_none : ∀ {s x}, ¬ s.graph.IsCustom x → operator s x = none

namespace Override

variable (o : Override)

def dialect : Dialect where
  statement := o.base.dialect.statement
  column := o.base.dialect.column
  value s column x := (o.value s x).getD (o.base.dialect.value s column x)
  operator s value express x :=
    ((o.operator s x).map (Template.run value express)).getD
      (o.base.dialect.operator s value express x)

/-- Nothing of the override's own is written right at an operand. -/
def LeavesAt (s : Scope) (x : Operand) : Prop :=
  o.operator s x = none ∧ ∀ v ∈ s.graph.valuesAt x, o.value s v = none

variable {o} {s : Scope} {x : Operand}

theorem isCustom_of_isSome (h : (o.operator s x).isSome) : s.graph.IsCustom x := by
  by_contra hcustom
  rw [o.operator_eq_none hcustom] at h
  cases h

theorem formatValue_of_none (h : o.value s x = none) :
    o.dialect.formatValue s x = o.base.dialect.formatValue s x := by
  change (o.value s x).getD _ = _
  rw [h]
  rfl

theorem formatValue_null (o : Override) (s : Scope) :
    o.dialect.formatValue s (.lit .null) = .ok "NULL" := by
  have hcommon : s.graph.IsCommonValue (.lit .null) := trivial
  rw [formatValue_of_none (o.value_eq_none hcommon), BuiltIn.formatValue_eq]
  rfl

theorem operator_of_none (value express : Operand → Rendered) (h : o.operator s x = none) :
    o.dialect.operator s value express x = Dialect.commonOperator s value express x := by
  change ((o.operator s x).map _).getD _ = _
  rw [h, BuiltIn.operator_eq]
  rfl

theorem operator_of_some (value express : Operand → Rendered) {template : Template}
    (h : o.operator s x = some template) :
    o.dialect.operator s value express x = template.run value express := by
  change ((o.operator s x).map _).getD _ = _
  rw [h]
  rfl

theorem exists_operator_of_express {room : Nat} {path : List Operand} {text : String}
    (h : o.dialect.express s room path x = .ok text) :
    ∃ below, room = below + 1 ∧ o.dialect.operator s (o.dialect.formatValue s)
      (o.dialect.express s below (x :: path)) x = .ok text := by
  cases room with
  | zero => cases h
  | succ below =>
    rw [Dialect.express] at h
    split at h
    · cases h
    · exact ⟨below, rfl, h⟩

/-- A node that is not custom is written by the common operator. -/
theorem exists_commonOperator_of_express {n : Node} (hn : s.graph.node? x = some n)
    (hcustom : ∀ kind tag arguments, n ≠ .custom kind tag arguments) {room : Nat}
    {path : List Operand} {text : String} (h : o.dialect.express s room path x = .ok text) :
    ∃ below, room = below + 1 ∧ Dialect.commonOperator s (o.dialect.formatValue s)
      (o.dialect.express s below (x :: path)) x = .ok text := by
  obtain ⟨below, hroom, h⟩ := exists_operator_of_express h
  have hnone : o.operator s x = none := by
    apply o.operator_eq_none
    rintro ⟨kind, tag, arguments, hcustom'⟩
    rw [hn] at hcustom'
    exact hcustom kind tag arguments (Option.some.inj hcustom')
  rw [operator_of_none _ _ hnone] at h
  exact ⟨below, hroom, h⟩

/-- Where nothing of the override's own is reached, it writes what the built-in dialect does. -/
theorem express_eq_base (h : ∀ y, s.Reaches x y → o.LeavesAt s y) (room : Nat)
    (path : List Operand) :
    o.dialect.express s room path x = o.base.dialect.express s room path x := by
  induction room generalizing path x with
  | zero => rfl
  | succ room ih =>
    obtain ⟨hoperator, hvalues⟩ := h x .refl
    have hnode : Dialect.commonOperator s (o.dialect.formatValue s)
          (o.dialect.express s room (x :: path)) x =
        Dialect.commonOperator s (o.base.dialect.formatValue s)
          (o.base.dialect.express s room (x :: path)) x :=
      Dialect.commonOperator_congr (fun v hv => formatValue_of_none (hvalues v hv))
        fun y hxy => ih (fun z hyz => h z (.head hxy hyz)) (x :: path)
    rw [Dialect.express, Dialect.express, operator_of_none _ _ hoperator, hnode,
      BuiltIn.operator_eq]

theorem formatStatement_eq_base {root : Operand} {q : Selection}
    (hroot : s.graph.node? root = some (.select q))
    (h : ∀ y, s.Reaches q.condition y → o.LeavesAt s y) :
    o.dialect.formatStatement s root = o.base.dialect.formatStatement s root :=
  o.base.statement_congr hroot (express_eq_base h _ _)

/-! ### Room and paths -/

theorem run_mono {value express express' : Operand → Rendered}
    (h : ∀ y text, express y = .ok text → express' y = .ok text) {text : String} :
    ∀ {template : Template}, template.run value express = .ok text →
      template.run value express' = .ok text
  | .give written, hrun => hrun
  | .value x next, hrun => by
    obtain ⟨shown, hx, hrun⟩ := bind_eq_ok_iff.1 hrun
    exact bind_eq_ok_iff.2 ⟨shown, hx, run_mono h hrun⟩
  | .condition x next, hrun => by
    obtain ⟨shown, hx, hrun⟩ := bind_eq_ok_iff.1 hrun
    exact bind_eq_ok_iff.2 ⟨shown, h x shown hx, run_mono h hrun⟩

theorem operator_mono {value express express' : Operand → Rendered}
    (h : ∀ y text, express y = .ok text → express' y = .ok text) {text : String}
    (hx : o.dialect.operator s value express x = .ok text) :
    o.dialect.operator s value express' x = .ok text := by
  cases ho : o.operator s x with
  | some template =>
    rw [operator_of_some _ _ ho] at hx ⊢
    exact run_mono h hx
  | none =>
    rw [operator_of_none _ _ ho] at hx ⊢
    rw [← hx]
    refine Dialect.commonOperator_congr (fun _ _ => rfl) fun y hy => ?_
    obtain ⟨shown, hshown⟩ := Dialect.exists_of_commonOperator_eq_ok hx y hy
    rw [hshown, h y shown hshown]

/-- What is written at all is written the same with more room and with less above it. -/
theorem express_mono {room room' : Nat} {path path' : List Operand} {text : String}
    (hroom : room ≤ room') (hpath : path' ⊆ path)
    (h : o.dialect.express s room path x = .ok text) :
    o.dialect.express s room' path' x = .ok text := by
  induction room generalizing room' path path' x text with
  | zero => cases h
  | succ room ih =>
    obtain ⟨larger, rfl⟩ : ∃ larger, room' = larger + 1 := ⟨room' - 1, by omega⟩
    rw [Dialect.express] at h ⊢
    split at h
    · cases h
    · next hx =>
      rw [if_neg fun hx' => hx (hpath hx')]
      exact operator_mono (fun y shown hy =>
        ih (by omega) (List.cons_subset_cons x hpath) hy) h

/-- A node that is written is written the same where nothing stands above it. -/
theorem formatOperator_of_operator {room : Nat} {path : List Operand} {text : String}
    (hroom : room ≤ s.room)
    (h : o.dialect.operator s (o.dialect.formatValue s) (o.dialect.express s room path) x =
      .ok text) : o.dialect.formatOperator s x = .ok text :=
  operator_mono (fun _ _ hy => express_mono hroom (List.nil_subset _) hy) h

/-! ### Patterns and timestamps -/

/-- How a moment is written. -/
def timestamp : Operand → Option Rendered
  | .lit (.moment m) => some (.ok ("TIMESTAMP '" ++ m.text ++ "'"))
  | _ => none

theorem timestamp_eq_none {x : Operand} (h : ∀ m, x ≠ .lit (.moment m)) : timestamp x = none := by
  unfold timestamp
  split
  · exact absurd rfl (h _)
  · rfl

/-- How a pattern or a pair of conditions is written. -/
def patternTemplate : Node → Option Template
  | .custom "Like" _ [(_, v), (_, pattern)] =>
    some (.value v fun a => .value pattern fun b => .give (.ok (a ++ " LIKE " ++ b)))
  | .custom "Both" _ [(_, first), (_, second)] =>
    some (.condition first fun a => .condition second fun b =>
      .give (.ok ("BOTH(" ++ a ++ ", " ++ b ++ ")")))
  | _ => none

theorem patternTemplate_eq_none {n : Node}
    (hlike : ∀ tag p v p' pattern, n ≠ .custom "Like" tag [(p, v), (p', pattern)])
    (hboth : ∀ tag p first p' second, n ≠ .custom "Both" tag [(p, first), (p', second)]) :
    patternTemplate n = none := by
  unfold patternTemplate
  split
  · exact absurd rfl (hlike _ _ _ _ _)
  · exact absurd rfl (hboth _ _ _ _ _)
  · rfl

/-- A built-in dialect that also writes patterns, pairs of conditions and moments. -/
def patterns (base : BuiltIn) : Override where
  base := base
  value _ x := timestamp x
  operator s x := (s.graph.node? x).bind patternTemplate
  value_eq_none h := timestamp_eq_none fun m hm => by
    subst hm
    exact h
  operator_eq_none {s x} h := by
    cases hx : s.graph.node? x with
    | none => rfl
    | some n =>
      have hcustom : ∀ kind tag arguments, n ≠ .custom kind tag arguments := by
        rintro kind tag arguments rfl
        exact h ⟨kind, tag, arguments, hx⟩
      exact patternTemplate_eq_none (fun _ _ _ _ _ => hcustom _ _ _) fun _ _ _ _ _ =>
        hcustom _ _ _

theorem timestampValue_eq (s : Scope) (column : String → Rendered) (x : Operand) :
    Dialect.timestampValue s column x =
      (timestamp x).getD (Dialect.commonValue s column x) := by
  unfold Dialect.timestampValue
  split
  · rfl
  · next hmoment =>
    rw [timestamp_eq_none fun m hm => hmoment m hm]
    rfl

theorem patternOperator_eq (s : Scope) (value express : Operand → Rendered) (x : Operand) :
    Dialect.patternOperator s value express x =
      (((s.graph.node? x).bind patternTemplate).map (Template.run value express)).getD
        (Dialect.commonOperator s value express x) := by
  unfold Dialect.patternOperator
  split
  · next hx =>
    rw [hx]
    rfl
  · next hx =>
    rw [hx]
    rfl
  · next hlike hboth =>
    cases hx : s.graph.node? x with
    | none => rfl
    | some n =>
      have hnone : patternTemplate n = none := patternTemplate_eq_none
        (fun tag p v p' pattern h => hlike tag p v p' pattern (hx.trans (congrArg some h)))
        fun tag p first p' second h => hboth tag p first p' second (hx.trans (congrArg some h))
      rw [Option.bind_some, hnone]
      rfl

/-- The capabilities that write patterns, pairs of conditions and timestamps are overrides. -/
theorem dialect_patterns (b : BuiltIn) :
    (patterns b).dialect = { b.dialect with
      value := Dialect.timestampValue, operator := Dialect.patternOperator } := by
  have hvalue : (patterns b).dialect.value = Dialect.timestampValue := by
    funext s column x
    change ((patterns b).value s x).getD (b.dialect.value s column x) = _
    have hbase : b.dialect.value = Dialect.commonValue := by cases b <;> rfl
    rw [hbase, timestampValue_eq]
    rfl
  have hoperator : (patterns b).dialect.operator = Dialect.patternOperator := by
    funext s value express x
    change (((patterns b).operator s x).map (Template.run value express)).getD
      (b.dialect.operator s value express x) = _
    rw [BuiltIn.operator_eq, patternOperator_eq]
    rfl
  rw [← hvalue, ← hoperator]
  rfl

end Override

end FilterCompiler
