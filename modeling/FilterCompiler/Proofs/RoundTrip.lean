import FilterCompiler.Proofs.Compilation
import FilterCompiler.Proofs.Meaning

/-! A compiled statement says what the query said. Proved here: for every built-in dialect, every
table with a plain name or none, every limit that can be written or none, and every condition
whose fields have columns, compiling succeeds unless the condition is nested deeper than is
followed, and a reader of statements gets the table, the limit and the condition back from the
text. -/

namespace FilterCompiler

namespace Graph

/-- Where a condition may be absent: it is, or an operand holds it. -/
inductive HoldsOptional (g : Graph) : Operand → Option Condition → Prop where
  | absent : HoldsOptional g (.lit .null) none
  | present {x : Operand} {c : Condition} (holds : g.Holds x c) : HoldsOptional g x (some c)

end Graph

theorem Condition.isUnnamed_formula {c : Condition} (h : c.references = [])
    (column : Int → String) (body : String → Formula) :
    (c.formula column body).isUnnamed = true := by
  induction c with
  | join k c d ihc ihd =>
    rw [references, List.append_eq_nil_iff] at h
    rw [formula, Formula.isUnnamed, ihc h.1, ihd h.2]
    rfl
  | not c ih => exact ih h
  | reference name => cases h
  | _ => rfl

namespace Compiler

variable {c : Compiler} {g : Graph} {fields : Fields} {q : Query} {table : Option String}
  {limit : Option Nat} {tree : Option Condition} {column : Int → String}

/-- A query without references whose fields have columns is compiled to a text that is read back
as the query, its fields being columns and its numbers their digits, unless it is nested deeper
than the compiler follows. -/
theorem compile_reads_back (b : BuiltIn) (body : String → Formula)
    (hregistry : c.registry = .builtin)
    (htable : c.table = tableOperand table) (hname : ∀ t ∈ table, IsIdentifier t ∧ t ∉ reserved)
    (hlimit : q.limit = limitOperand limit) (hbound : ∀ n ∈ limit, n < Integer.textBound)
    (htree : g.HoldsOptional q.condition tree)
    (hdepth : ∀ t ∈ tree, (t.formula column body).depth ≤ c.room)
    (hfields : ∀ t ∈ tree, ∀ n ∈ t.fields,
      fields.find? g (.lit (.integer n)) = .ok (some (column n)) ∧ column n ≠ "")
    (hliterals : ∀ t ∈ tree, ∀ v ∈ t.literals, v.IsCommon)
    (hreferences : ∀ t ∈ tree, t.references = []) :
    ∃ sql, c.compile g b.name fields q = .ok sql ∧
      Reader.read? b.mark sql = some ⟨table, tree.map (Condition.formula column body), limit⟩ := by
  have hmeans : (c.scope g fields q).Means q.condition
      (tree.map (Condition.formula column body)) := by
    generalize q.condition = x at htree
    cases htree with
    | absent => exact .absent
    | @present x t holds =>
      refine .formula (((g.extends_add _).holds holds).stands (fun n hn => ?_) (hliterals t rfl) ?_)
      · obtain ⟨hfind, hne⟩ := hfields t rfl n hn
        exact Scope.column_eq_ok_iff.2 ⟨rfl, (Fields.find?_lit _ g _ _).trans hfind, hne⟩
      · simp [hreferences t rfl]
  have hidentifier : ∀ t ∈ table, IsIdentifier t := fun t ht => (hname t ht).1
  rw [compile_of_means hregistry htable hlimit hbound hmeans,
    namedTable_of_isIdentifier hidentifier, if_pos (by simpa using hdepth)]
  refine ⟨_, rfl, Statement.read?_write b ⟨hidentifier, hmeans.wellShown⟩
    (fun t ht => (hname t ht).2) fun f hf => ?_⟩
  obtain ⟨t, ht, rfl⟩ := Option.map_eq_some_iff.1 hf
  exact Condition.isUnnamed_formula (hreferences t ht) column body

/-- Two comparisons of one field, the second one denied along with a null check. -/
def sharedField : Graph :=
  ⟨#[.node (.field (.lit (.integer 1))), .tuple [.lit (.text "it's; AND (")],
    .node (.equal (.part 0) (.part 1)), .node (.lessThan (.part 0) (.lit (.integer 5))),
    .node (.isEmpty (.part 0)), .node (.or (.part 3) (.part 4)), .node (.not (.part 5)),
    .node (.and (.part 2) (.part 6))]⟩

def sharedFieldTree : Condition :=
  .join .and (.equality false (.field 1) [.literal (.text "it's; AND (")])
    (.not (.join .or (.ordering false (.field 1) (.literal (.integer 5)))
      (.nullCheck false (.field 1))))

theorem holds_sharedField : sharedField.Holds (.part 7) sharedFieldTree := by
  have hfield : sharedField.HoldsValue (.part 0) (.field 1) := .field rfl
  have hequal : sharedField.node? (.part 2) = some (.equality false (.part 0) (.part 1)) := rfl
  have hless : sharedField.node? (.part 3) = some (.ordering false (.part 0) (.lit (.integer 5))) :=
    rfl
  have hnull : sharedField.node? (.part 4) = some (.nullCheck false (.part 0)) := rfl
  have hor : sharedField.node? (.part 5) = some (Connective.or.node (.part 3) (.part 4)) := rfl
  have hand : sharedField.node? (.part 7) = some (Connective.and.node (.part 2) (.part 6)) := rfl
  exact .join hand (.equality hequal hfield rfl (.cons (.literal _) .nil))
    (.not rfl (.join hor (.ordering hless hfield (.literal _)) (.nullCheck hnull hfield)))

theorem sharedField_reads_back :
    ∃ sql, compile { table := .lit (.text "orders") } sharedField "mysql"
        [(.lit (.integer 1), some "a\x60b")] ⟨.part 7, .lit (.integer 10)⟩ = .ok sql ∧
      Reader.read? '\x60' sql = some ⟨some "orders",
        some (.join .and (.atom (.compare .equal (.column "a\x60b") (.text "it's; AND (")))
          (.not (.join .or (.atom (.compare .less (.column "a\x60b") (.number "5")))
            (.atom (.isNull false (.column "a\x60b")))))), some 10⟩ := by
  have htable : Operand.lit (.text "orders") = tableOperand (some "orders") := rfl
  have hname : ∀ t ∈ some "orders", IsIdentifier t ∧ t ∉ reserved := by
    rintro _ ⟨⟩
    exact ⟨isIdentifier_of_all (by decide) (by decide), by decide⟩
  have hlimit : Operand.lit (.integer 10) = limitOperand (some 10) := rfl
  have hbound : ∀ n ∈ some 10, n < Integer.textBound := by
    rintro _ ⟨⟩
    exact Integer.lt_textBound (by decide)
  have hfields : ∀ t ∈ some sharedFieldTree, ∀ n ∈ t.fields,
      Fields.find? sharedField (.lit (.integer n)) [(.lit (.integer 1), some "a\x60b")] =
        .ok (some "a\x60b") ∧ "a\x60b" ≠ "" := by
    rintro _ ⟨⟩ n hn
    obtain rfl : n = 1 := by simpa [sharedFieldTree, Condition.fields, Value.fields] using hn
    exact ⟨rfl, by decide⟩
  have hliterals : ∀ t ∈ some sharedFieldTree, ∀ v ∈ t.literals, v.IsCommon := by
    rintro _ ⟨⟩ v hv
    obtain rfl | rfl : v = .text "it's; AND (" ∨ v = .integer 5 := by
      simpa [sharedFieldTree, Condition.literals, Value.literals] using hv
    · trivial
    · exact Integer.lt_textBound (n := 5) (by decide)
  have hreferences : ∀ t ∈ some sharedFieldTree, t.references = [] := by
    rintro _ ⟨⟩
    rfl
  have hdepth : ∀ t ∈ some sharedFieldTree,
      (t.formula (fun _ => "a\x60b") fun _ => .atom (.column "")).depth ≤ nestingLimit := by
    rintro _ ⟨⟩
    decide
  exact compile_reads_back .mysql (fun _ => .atom (.column "")) rfl htable hname hlimit hbound
    (.present holds_sharedField) hdepth hfields hliterals hreferences

end Compiler

end FilterCompiler
