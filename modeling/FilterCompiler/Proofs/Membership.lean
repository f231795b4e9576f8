import FilterCompiler.Proofs.Precedence

/-! Membership and its single tests. On a row of a table a condition has one of three truth values,
and a comparison with NULL is unknown. Proved here, for what the built-in dialects write and however
the values of a database compare: a test for several values can be written exactly if the tests for
one of them can. It is true where one of them that is not for NULL is, and an exclusion is true
where all of them are, if none is for NULL. So NULL counts as a value to test for only where it is
the only one. -/

namespace FilterCompiler

/-! ### Conditions on a row -/

/-- What the terms of a condition come to on a row, and how the values of a database compare. NULL
comes to no value, and other terms may come to none. -/
structure Valuation where
  Value : Type
  value? : Term → Option Value
  value?_null : value? .null = none
  equal : Value → Value → Bool
  less : Value → Value → Bool
  holds : Value → Bool

def Truth.ofBool (b : Bool) : Truth := if b then yes else no

namespace Valuation

variable (ν : Valuation)

/-- A comparison of two values; without both of them it is unknown. -/
def compare (test : ν.Value → ν.Value → Bool) (l r : Term) : Truth :=
  match ν.value? l, ν.value? r with
  | some u, some v => .ofBool (test u v)
  | _, _ => .unknown

def test : Sign → ν.Value → ν.Value → Bool
  | .less => ν.less
  | .greater => fun u v => ν.less v u
  | .equal => ν.equal
  | .unequal => fun u v => !ν.equal u v

/-- Whether a value is one of several: the OR of the comparisons with each. -/
def among (x : Term) (values : List Term) : Truth :=
  values.foldr (fun v found => (ν.compare ν.equal x v).or found) .no

def predicate : Predicate → Truth
  | .compare sign l r => ν.compare (ν.test sign) l r
  | .among negated x values => if negated then (ν.among x values).not else ν.among x values
  | .isNull negated x => .ofBool ((ν.value? x).isSome == negated)
  | .column name =>
    match ν.value? (.column name) with
    | some v => .ofBool (ν.holds v)
    | none => .unknown

def formula : Formula → Truth
  | .atom p => ν.predicate p
  | .join k f g => k.truth (formula f) (formula g)
  | .not f => (formula f).not
  | .named f => formula f

end Valuation

namespace Scope

/-- A condition can be written. -/
def IsWritten (s : Scope) (b : BuiltIn) (x : Operand) : Prop :=
  ∃ text, b.dialect.express s nestingLimit [] x = .ok text

/-- What is written for a condition is true on a row, as it is read. -/
def IsTrue (s : Scope) (b : BuiltIn) (ν : Valuation) (x : Operand) : Prop :=
  ∃ text f, b.dialect.express s nestingLimit [] x = .ok text ∧
    Reader.formula? b.mark text = some f ∧ ν.formula f = .yes

/-- A node compares an operand with values, one after the other. -/
def Compares (s : Scope) (negated : Bool) (y : Operand) (vs : List Operand) (x : Operand) : Prop :=
  ∃ values, s.graph.node? x = some (.equality negated y values) ∧
    s.graph.elements? values = some vs

end Scope

/-! ### Tests for one value and for several -/

namespace Predicate

variable {t u : Term} {ts : List Term}

theorem membership_singleton (negated : Bool) (h : u ≠ .null) :
    membership negated t [u] = .compare (if negated then .unequal else .equal) t u := by
  cases u <;> first | contradiction | rfl

theorem membership_of_length_ne (negated : Bool) (h : ts.length ≠ 1) :
    membership negated t ts = .among negated t ts := by
  match ts with
  | [] => rfl
  | [u] => contradiction
  | .null :: _ :: _ => rfl
  | .truth _ :: _ :: _ | .text _ :: _ :: _ | .number _ :: _ :: _ | .column _ :: _ :: _ => rfl

end Predicate

namespace Valuation

variable {ν : Valuation} {t u : Term} {ts : List Term}

theorem compare_null (test : ν.Value → ν.Value → Bool) : ν.compare test t .null = .unknown := by
  unfold compare
  rw [ν.value?_null]
  split <;> simp_all

theorem compare_unequal : ν.compare (ν.test .unequal) t u = (ν.compare ν.equal t u).not := by
  unfold compare
  split
  · next v w _ _ =>
    simp only [test]
    cases ν.equal v w <;> rfl
  · rfl

theorem among_eq_yes_iff : ν.among t ts = .yes ↔ ∃ u ∈ ts, ν.compare ν.equal t u = .yes := by
  induction ts with
  | nil => simp [among]
  | cons u ts ih =>
    have hcons : ν.among t (u :: ts) = (ν.compare ν.equal t u).or (ν.among t ts) := rfl
    rw [hcons, Truth.or_eq_yes_iff, ih, List.exists_mem_cons_iff]

theorem among_eq_no_iff : ν.among t ts = .no ↔ ∀ u ∈ ts, ν.compare ν.equal t u = .no := by
  induction ts with
  | nil => simp [among]
  | cons u ts ih =>
    have hcons : ν.among t (u :: ts) = (ν.compare ν.equal t u).or (ν.among t ts) := rfl
    rw [hcons, Truth.or_eq_no_iff, ih, List.forall_mem_cons]

/-- A comparison with a value is true just where the test for that value is, and never for NULL. -/
theorem compare_equal_eq_yes_iff :
    ν.compare ν.equal t u = .yes ↔ u ≠ .null ∧ ν.predicate (.membership false t [u]) = .yes := by
  by_cases hu : u = .null
  · simp [hu, compare_null]
  · rw [Predicate.membership_singleton false hu]
    simp [hu, predicate, test]

theorem compare_equal_eq_no_iff :
    ν.compare ν.equal t u = .no ↔ u ≠ .null ∧ ν.predicate (.membership true t [u]) = .yes := by
  by_cases hu : u = .null
  · simp [hu, compare_null]
  · rw [Predicate.membership_singleton true hu, predicate, if_pos rfl, compare_unequal,
      Truth.not_eq_yes_iff]
    simp [hu]

theorem membership_eq_yes_iff :
    ν.predicate (.membership false t ts) = .yes ↔
      ∃ u ∈ ts, (ts.length = 1 ∨ u ≠ .null) ∧ ν.predicate (.membership false t [u]) = .yes := by
  by_cases hlength : ts.length = 1
  · obtain ⟨u, rfl⟩ := List.length_eq_one_iff.1 hlength
    simp
  · rw [Predicate.membership_of_length_ne false hlength]
    simp [predicate, among_eq_yes_iff, compare_equal_eq_yes_iff, hlength]

theorem exclusion_eq_yes_iff :
    ν.predicate (.membership true t ts) = .yes ↔
      (ts.length = 1 ∨ .null ∉ ts) ∧ ∀ u ∈ ts, ν.predicate (.membership true t [u]) = .yes := by
  by_cases hlength : ts.length = 1
  · obtain ⟨u, rfl⟩ := List.length_eq_one_iff.1 hlength
    simp
  · rw [Predicate.membership_of_length_ne true hlength]
    have hamong : ν.predicate (.among true t ts) = (ν.among t ts).not := rfl
    simp only [hamong, Truth.not_eq_yes_iff, among_eq_no_iff, compare_equal_eq_no_iff, hlength,
      false_or]
    grind

end Valuation

/-! ### Comparisons in a graph -/

namespace Scope

variable {s : Scope} {b : BuiltIn} {ν : Valuation} {negated : Bool} {x y v : Operand}
  {vs : List Operand}

/-- A comparison has the shape of a predicate of the terms that it compares. -/
theorem Compares.shape_eq_ok_iff (h : s.Compares negated y vs x) {shape : Shape} :
    s.shape x = .ok shape ↔ ∃ t ts, s.term y = .ok t ∧ vs.mapM s.term = .ok ts ∧
      shape = .atom (.membership negated t ts) := by
  obtain ⟨values, hnode, helements⟩ := h
  have hshape : s.shape x = s.membership negated y values >>= fun p => pure (.atom p) := by
    unfold Scope.shape
    rw [hnode]
    cases negated <;> rfl
  have hvalues : Dialect.valuesOf s values = .ok vs := by rw [Dialect.valuesOf, helements]
  simp only [hshape, membership, hvalues, bind_eq_ok_iff, ok_bind, pure_eq_ok, Except.ok.injEq]
  constructor
  · rintro ⟨p, ⟨t, ht, ts, hts, rfl⟩, rfl⟩
    exact ⟨t, ts, ht, hts, rfl⟩
  · rintro ⟨t, ts, ht, hts, rfl⟩
    exact ⟨_, ⟨t, ht, ts, hts, rfl⟩, rfl⟩

/-- What is written for a comparison is the predicate, and is read as it. -/
theorem Compares.express_eq_ok_iff (h : s.Compares negated y vs x) {text : String} :
    b.dialect.express s nestingLimit [] x = .ok text ↔ ∃ t ts, s.term y = .ok t ∧
      vs.mapM s.term = .ok ts ∧ text = (Predicate.membership negated t ts).write b.mark := by
  rw [Scope.express_eq_ok_iff]
  constructor
  · rintro ⟨f, hf, _, rfl⟩
    cases hf with
    | atom shape =>
      obtain ⟨t, ts, ht, hts, hshape⟩ := h.shape_eq_ok_iff.1 shape
      cases hshape
      exact ⟨t, ts, ht, hts, rfl⟩
    | join shape | not shape | named shape =>
      obtain ⟨_, _, _, _, hshape⟩ := h.shape_eq_ok_iff.1 shape
      cases hshape
  · rintro ⟨t, ts, ht, hts, rfl⟩
    exact ⟨.atom _, .atom (h.shape_eq_ok_iff.2 ⟨t, ts, ht, hts, rfl⟩),
      by rw [Formula.depth]; decide, rfl⟩

theorem Compares.isWritten_iff (h : s.Compares negated y vs x) :
    s.IsWritten b x ↔ ∃ t ts, s.term y = .ok t ∧ vs.mapM s.term = .ok ts := by
  simp only [IsWritten, h.express_eq_ok_iff]
  exact ⟨fun ⟨_, t, ts, ht, hts, _⟩ => ⟨t, ts, ht, hts⟩, fun ⟨t, ts, ht, hts⟩ =>
    ⟨_, t, ts, ht, hts, rfl⟩⟩

/-- A comparison is true on a row if the predicate is that it is written as. -/
theorem Compares.isTrue_iff (h : s.Compares negated y vs x) {t : Term} {ts : List Term}
    (ht : s.term y = .ok t) (hts : vs.mapM s.term = .ok ts) :
    s.IsTrue b ν x ↔ ν.predicate (.membership negated t ts) = .yes := by
  have hshape := h.shape_eq_ok_iff.2 ⟨t, ts, ht, hts, rfl⟩
  have hread := Reader.formula?_write b (.atom _) (Stands.wellShown (.atom hshape))
  simp only [IsTrue, h.express_eq_ok_iff]
  constructor
  · rintro ⟨_, f, ⟨t', ts', ht', hts', rfl⟩, hf, hyes⟩
    cases ht.symm.trans ht'
    cases hts.symm.trans hts'
    cases hread.symm.trans hf
    exact hyes
  · exact fun hyes => ⟨_, _, ⟨t, ts, ht, hts, rfl⟩, hread, hyes⟩

theorem mapM_term_singleton {u : Term} (hu : s.term v = .ok u) : [v].mapM s.term = .ok [u] := by
  rw [List.mapM_cons, hu]
  rfl

theorem eq_null_iff_of_term {u : Term} (hu : s.term v = .ok u) : u = .null ↔ v = .lit .null := by
  constructor
  · rintro rfl
    exact eq_null_of_term hu
  · rintro rfl
    cases hu
    rfl

/-- A test for several values can be written exactly if the tests for one of them can. -/
theorem isWritten_iff_forall (hvs : vs ≠ []) {z : Operand → Operand}
    (hx : s.Compares negated y vs x) (hz : ∀ v ∈ vs, s.Compares negated y [v] (z v)) :
    s.IsWritten b x ↔ ∀ v ∈ vs, s.IsWritten b (z v) := by
  rw [hx.isWritten_iff]
  constructor
  · rintro ⟨t, ts, ht, hts⟩ v hv
    obtain ⟨u, hu⟩ := exists_mapM_eq_ok_iff.1 ⟨ts, hts⟩ v hv
    exact (hz v hv).isWritten_iff.2 ⟨t, [u], ht, mapM_term_singleton hu⟩
  · intro h
    have hterms (v : Operand) (hv : v ∈ vs) : ∃ u, s.term v = .ok u := by
      obtain ⟨_, us, _, hus⟩ := (hz v hv).isWritten_iff.1 (h v hv)
      exact exists_mapM_eq_ok_iff.1 ⟨us, hus⟩ v (List.mem_singleton_self v)
    obtain ⟨v, hv⟩ := List.exists_mem_of_ne_nil vs hvs
    obtain ⟨t, _, ht, _⟩ := (hz v hv).isWritten_iff.1 (h v hv)
    obtain ⟨ts, hts⟩ := exists_mapM_eq_ok_iff.2 hterms
    exact ⟨t, ts, ht, hts⟩

theorem isTrue_membership_iff {z : Operand → Operand} (hx : s.Compares false y vs x)
    (hz : ∀ v ∈ vs, s.Compares false y [v] (z v)) (hwritten : s.IsWritten b x) :
    s.IsTrue b ν x ↔
      ∃ v ∈ vs, (vs.length = 1 ∨ v ≠ .lit .null) ∧ s.IsTrue b ν (z v) := by
  obtain ⟨t, ts, ht, hts⟩ := hx.isWritten_iff.1 hwritten
  have hall := mapM_eq_ok_iff.1 hts
  rw [hx.isTrue_iff ht hts, Valuation.membership_eq_yes_iff, ← hall.length_eq]
  constructor
  · rintro ⟨u, hu, hcounts, hyes⟩
    obtain ⟨v, hv, hterm⟩ := exists_of_forall₂ hall.flip hu
    rw [Ne, eq_null_iff_of_term hterm] at hcounts
    exact ⟨v, hv, hcounts, ((hz v hv).isTrue_iff ht (mapM_term_singleton hterm)).2 hyes⟩
  · rintro ⟨v, hv, hcounts, hyes⟩
    obtain ⟨u, hu, hterm⟩ := exists_of_forall₂ hall hv
    rw [Ne, ← eq_null_iff_of_term hterm] at hcounts
    exact ⟨u, hu, hcounts, ((hz v hv).isTrue_iff ht (mapM_term_singleton hterm)).1 hyes⟩

theorem isTrue_exclusion_iff {z : Operand → Operand} (hx : s.Compares true y vs x)
    (hz : ∀ v ∈ vs, s.Compares true y [v] (z v)) (hwritten : s.IsWritten b x) :
    s.IsTrue b ν x ↔
      (vs.length = 1 ∨ .lit .null ∉ vs) ∧ ∀ v ∈ vs, s.IsTrue b ν (z v) := by
  obtain ⟨t, ts, ht, hts⟩ := hx.isWritten_iff.1 hwritten
  have hall := mapM_eq_ok_iff.1 hts
  have hnull : .null ∈ ts ↔ .lit .null ∈ vs := by
    constructor
    · intro hu
      obtain ⟨v, hv, hterm⟩ := exists_of_forall₂ hall.flip hu
      exact eq_null_of_term hterm ▸ hv
    · intro hv
      obtain ⟨u, hu, hterm⟩ := exists_of_forall₂ hall hv
      exact (eq_null_iff_of_term hterm).2 rfl ▸ hu
  rw [hx.isTrue_iff ht hts, Valuation.exclusion_eq_yes_iff, ← hall.length_eq, hnull]
  refine and_congr_right fun _ => ⟨fun h v hv => ?_, fun h u hu => ?_⟩
  · obtain ⟨u, hu, hterm⟩ := exists_of_forall₂ hall hv
    exact ((hz v hv).isTrue_iff ht (mapM_term_singleton hterm)).2 (h u hu)
  · obtain ⟨v, hv, hterm⟩ := exists_of_forall₂ hall.flip hu
    exact ((hz v hv).isTrue_iff ht (mapM_term_singleton hterm)).1 (h v hv)

/-- Tests for values against the tests for one of them, in any graph that holds them: all can be
written or not all of either. On a row a membership is true where a test is that is not for NULL or
is the only one, and an exclusion where all tests are and NULL is not one of several values. -/
theorem several_true_iff (b : BuiltIn) (ν : Valuation) (hvs : vs ≠ []) {x : Bool → Operand}
    {z : Bool → Operand → Operand} (hx : ∀ negated, s.Compares negated y vs (x negated))
    (hz : ∀ negated, ∀ v ∈ vs, s.Compares negated y [v] (z negated v)) :
    (∀ negated, s.IsWritten b (x negated) ↔ ∀ v ∈ vs, s.IsWritten b (z negated v)) ∧
      (s.IsWritten b (x false) → (s.IsTrue b ν (x false) ↔
        ∃ v ∈ vs, (vs.length = 1 ∨ v ≠ .lit .null) ∧ s.IsTrue b ν (z false v))) ∧
      (s.IsWritten b (x true) → (s.IsTrue b ν (x true) ↔
        (vs.length = 1 ∨ .lit .null ∉ vs) ∧ ∀ v ∈ vs, s.IsTrue b ν (z true v))) :=
  ⟨fun negated => isWritten_iff_forall hvs (hx negated) (hz negated),
    isTrue_membership_iff (hx false) (hz false), isTrue_exclusion_iff (hx true) (hz true)⟩

/-- Tests whether a name is Ada or NULL, or neither, and the tests for each of them. -/
def names : Scope :=
  { graph := ⟨#[.node (.field (.lit (.integer 2))),
      .tuple [.lit (.text "Ada"), .lit .null], .tuple [.lit (.text "Ada")], .tuple [.lit .null],
      .node (.equal (.part 0) (.part 1)), .node (.notEqual (.part 0) (.part 1)),
      .node (.equal (.part 0) (.part 2)), .node (.notEqual (.part 0) (.part 2)),
      .node (.equal (.part 0) (.part 3)), .node (.notEqual (.part 0) (.part 3))]⟩
    fields := [(.lit (.integer 2), some "name")] }

/-- What the name is compared with. -/
def adaOrNull : List Operand := [.lit (.text "Ada"), .lit .null]

/-- The test for both of them. -/
def bothTest (negated : Bool) : Operand := if negated then .part 5 else .part 4

/-- The test for one of them. -/
def oneTest (negated : Bool) (v : Operand) : Operand :=
  if v = .lit .null then if negated then .part 9 else .part 8
  else if negated then .part 7 else .part 6

/-- A row with a name or without one. -/
def named (name : Option String) : Valuation where
  Value := String
  value?
    | .text t => some t
    | .column _ => name
    | _ => none
  value?_null := rfl
  equal u v := u == v
  less _ _ := false
  holds _ := false

theorem compares_bothTest (negated : Bool) :
    names.Compares negated (.part 0) adaOrNull (bothTest negated) :=
  ⟨.part 1, by cases negated <;> rfl, rfl⟩

theorem compares_oneTest (negated : Bool) :
    ∀ v ∈ adaOrNull, names.Compares negated (.part 0) [v] (oneTest negated v) := by
  intro v hv
  rcases List.mem_pair.1 hv with rfl | rfl
  · exact ⟨.part 2, by cases negated <;> rfl, rfl⟩
  · exact ⟨.part 3, by cases negated <;> rfl, rfl⟩

theorem term_name : names.term (.part 0) = .ok (.column "name") := rfl

theorem mapM_adaOrNull : adaOrNull.mapM names.term = .ok [.text "Ada", .null] := rfl

theorem names_several_true_iff :
    adaOrNull ≠ [] ∧
      (names.IsTrue .postgres (named (some "Ada")) (bothTest false) ↔
        ∃ v ∈ adaOrNull, (adaOrNull.length = 1 ∨ v ≠ .lit .null) ∧
          names.IsTrue .postgres (named (some "Ada")) (oneTest false v)) := by
  have hne : adaOrNull ≠ [] := by simp [adaOrNull]
  obtain ⟨_, htrue, _⟩ := several_true_iff .postgres (named (some "Ada")) hne compares_bothTest
    compares_oneTest
  exact ⟨hne, htrue ((compares_bothTest false).isWritten_iff.2
    ⟨_, _, term_name, mapM_adaOrNull⟩)⟩

/-- NULL among several values tests for nothing. Without a name the test for NULL alone is true and
the test for both is not; and for another name than Ada the tests that it is not the one and not the
other are true, and the test that it is neither is not. -/
theorem null_among_several :
    ¬ (names.IsTrue .postgres (named none) (bothTest false) ↔
        ∃ v ∈ adaOrNull, names.IsTrue .postgres (named none) (oneTest false v)) ∧
      ¬ (names.IsTrue .postgres (named (some "Eve")) (bothTest true) ↔
        ∀ v ∈ adaOrNull, names.IsTrue .postgres (named (some "Eve")) (oneTest true v)) := by
  have hnull : Operand.lit .null ∈ adaOrNull := by simp [adaOrNull]
  constructor
  · have hone : names.IsTrue .postgres (named none) (oneTest false (.lit .null)) := by
      rw [(compares_oneTest false _ hnull).isTrue_iff term_name rfl]
      decide
    have hboth : ¬ names.IsTrue .postgres (named none) (bothTest false) := by
      rw [(compares_bothTest false).isTrue_iff term_name mapM_adaOrNull]
      decide
    exact fun h => hboth (h.2 ⟨_, hnull, hone⟩)
  · have hone (v : Operand) (hv : v ∈ adaOrNull) :
        names.IsTrue .postgres (named (some "Eve")) (oneTest true v) := by
      have hcompares := compares_oneTest true v hv
      rcases List.mem_pair.1 hv with rfl | rfl
      · rw [hcompares.isTrue_iff term_name rfl]
        decide
      · rw [hcompares.isTrue_iff term_name rfl]
        decide
    have hboth : ¬ names.IsTrue .postgres (named (some "Eve")) (bothTest true) := by
      rw [(compares_bothTest true).isTrue_iff term_name mapM_adaOrNull]
      decide
    exact fun h => hboth (h.2 hone)

end Scope

end FilterCompiler
