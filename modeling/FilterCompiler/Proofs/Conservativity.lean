import FilterCompiler.Proofs.Masking

/-! Compiling with an override. Proved here: an override compiles to what its built-in dialect
does where nothing of its own is reached, and elsewhere to what the built-in dialect makes of the
query with fields in place of all that is its own, filled in. -/

namespace FilterCompiler

namespace Compiler

variable {c : Compiler} {g : Graph} {fields : Fields} {q : Query} {o : Override} {name : String}
  {table : Option String} {limit : Option Nat}

theorem isClosed_scope (hs : (c.setting g fields).IsClosed) (hx : g.Has q.condition)
    (htable : c.table = tableOperand table) (hlimit : q.limit = limitOperand limit) :
    (c.scope g fields q).IsClosed := by
  refine hs.extend (g.extends_add _) (hs.graph.add fun x hx' => ?_)
  have hoperand : x = .lit (.text "*") ∨ x = c.table ∨ x = q.condition ∨ x = q.limit := by
    simpa [Part.operands, Node.arguments, selection] using hx'
  rcases hoperand with rfl | rfl | rfl | rfl
  · trivial
  · rw [htable]
    cases table <;> trivial
  · exact hx
  · rw [hlimit]
    cases limit <;> trivial

/-- What an override compiles is its limit and its condition in the frame of the built-in
dialect. -/
theorem exists_frame_of_override (hget : c.registry.get name = .ok o.dialect)
    (htable : c.table = tableOperand table) (hlimit : q.limit = limitOperand limit)
    (hx : q.condition ≠ .lit .null) {sql : String}
    (h : c.compile g name fields q = .ok sql) :
    ∃ shown text, limitText limit = .ok shown ∧
      o.dialect.express (c.scope g fields q) c.room [] q.condition = .ok text ∧
      sql = o.base.frame (namedTable table) shown (some text) ++ ";" := by
  have hstatement : o.dialect.formatStatement (c.scope g fields q) (.part g.parts.size) =
      o.base.framed (namedTable table) (limitText limit)
        (conditionText (o.dialect.express (c.scope g fields q) c.room []) q.condition) :=
    o.base.statement_eq_framed _ node?_scope rfl htable hlimit
  rw [compile_eq_of_get hget, hstatement, outcome_eq_ok_iff] at h
  obtain ⟨body, hbody, rfl⟩ := h
  obtain ⟨shown, condition, hshown, hcondition, rfl⟩ := o.base.framed_eq_ok_iff.1 hbody
  rw [conditionText, if_neg hx] at hcondition
  obtain ⟨text, htext, rfl⟩ := map_eq_ok_iff.1 hcondition
  exact ⟨shown, text, hshown, htext, rfl⟩

/-- A condition that stands for a formula is compiled to it in the frame of the dialect. -/
theorem compile_of_stands {b : BuiltIn} (hget : c.registry.get name = .ok b.dialect)
    (htable : c.table = tableOperand table) (hlimit : q.limit = limitOperand limit)
    {shown : Option String} (hshown : limitText limit = .ok shown) {f : Formula}
    (hf : (c.scope g fields q).Stands q.condition f) (hdepth : f.depth ≤ c.room) :
    c.compile g name fields q =
      .ok (b.frame (namedTable table) shown (some (f.write b.mark)) ++ ";") := by
  have hexpress := hf.express b c.room [] (by simp)
  rw [if_pos hdepth] at hexpress
  have hcondition : conditionText (b.dialect.express (c.scope g fields q) c.room [])
      q.condition = .ok (some (f.write b.mark)) := by
    rw [conditionText, if_neg hf.ne_null, hexpress]
    rfl
  have hformat : b.dialect.formatStatement (c.scope g fields q) (.part g.parts.size) =
      .ok (b.frame (namedTable table) shown (some (f.write b.mark))) := by
    rw [b.formatStatement_eq_framed node?_scope rfl htable hlimit, ← b.framed_ok, ← hshown,
      ← hcondition]
    rfl
  rw [compile_eq_of_get hget, hformat]
  rfl

end Compiler

/-- A query for the built-in dialect of an override, which is another query but for fields in place
of all that is the override's own. -/
structure Override.Stencil (o : Override) (c : Compiler) (g : Graph) (fields : Fields) (q : Query)
    (name : String) where
  compiler : Compiler
  graph : Graph
  columns : Fields
  query : Query
  holes : String → Option Hole
  base : compiler.registry.get name = .ok o.base.dialect
  table : compiler.table = c.table
  limit : query.limit = q.limit
  room : compiler.room = c.room
  replaces : o.Replaces (c.scope g fields q) (compiler.scope graph columns query) holes
    q.condition query.condition

namespace Compiler

variable {c : Compiler} {g : Graph} {fields : Fields} {q : Query} {o : Override} {name : String}
  {table : Option String} {limit : Option Nat}

/-- Where nothing of an override's own is reached, it compiles to what its built-in dialect does.
For a query that it compiles there is a stencil, and whatever the stencil is, the built-in dialect
compiles it to the same text but for its fields, in place of each of which the override has what it
makes of the node or value by itself. -/
theorem compile_override {registry : Registry Dialect} (hget : c.registry.get name = .ok o.dialect)
    (hbase : registry.get name = .ok o.base.dialect) (htable : c.table = tableOperand table)
    (hlimit : q.limit = limitOperand limit) (hs : (c.setting g fields).IsClosed)
    (hx : g.Has q.condition) (hfields : fields.IsHashed) :
    ((∀ y, (c.scope g fields q).Reaches q.condition y → o.LeavesAt (c.scope g fields q) y) →
      c.compile g name fields q = { c with registry := registry }.compile g name fields q) ∧
    ∀ sql, c.compile g name fields q = .ok sql → q.condition ≠ .lit .null →
      Nonempty (o.Stencil c g fields q name) ∧
      ∀ m : o.Stencil c g fields q name, ∃ f shown,
        (m.compiler.scope m.graph m.columns m.query).Stands m.query.condition f ∧
        limitText limit = .ok shown ∧
        m.compiler.compile m.graph name m.columns m.query = .ok (o.base.frame (namedTable table)
          shown (some (Fragment.writeAll o.base.mark f.fragments)) ++ ";") ∧
        sql = o.base.frame (namedTable table) shown (some (Fragment.writeAll o.base.mark
          (f.fragments.map (Fragment.fill (o.filling (c.scope g fields q) m.holes))))) ++ ";" ∧
        ∀ column hole, .column column ∈ f.fragments → m.holes column = some hole →
          ∃ text, o.rendering (c.scope g fields q) hole = .ok text := by
  constructor
  · intro h
    have hcompile : { c with registry := registry }.compile g name fields q =
        outcome name (o.base.dialect.formatStatement (c.scope g fields q)
          (.part g.parts.size)) := compile_eq_of_get hbase
    rw [compile_eq_of_get hget, hcompile, Override.formatStatement_eq_base node?_scope h]
  · intro sql hsql hne
    obtain ⟨shown, text, hshown, htext, rfl⟩ :=
      exists_frame_of_override hget htable hlimit hne hsql
    constructor
    · obtain ⟨number, length, hfresh⟩ := Mask.exists_isFresh o (s := c.scope g fields q) hfields
      let m : Mask := ⟨o, c.scope g fields q, number, length⟩
      exact ⟨{
        compiler := ⟨c.table, m.definitions, registry, c.room⟩
        graph := m.graph
        columns := m.fields
        query := ⟨m.condition q.condition, q.limit⟩
        holes := m.holes
        base := hbase
        table := rfl
        limit := rfl
        room := rfl
        replaces := Mask.replaces hfresh (isClosed_scope hs hx htable hlimit)
          (Graph.extends_add _ _) htext }⟩
    · intro m
      obtain ⟨f, hf, hdepth, hfills⟩ := m.replaces.fills le_rfl htext
      have hcompile := compile_of_stands m.base (m.table.trans htable) (m.limit.trans hlimit)
        hshown hf (hdepth.trans_eq m.room.symm)
      rw [← Formula.writeAll_fragments] at hcompile
      exact ⟨f, shown, hf, hshown, hcompile, by rw [hfills.eq], hfills.filled⟩

/-- A pattern, or a moment in a list and a name for a condition over a pair of conditions. -/
def patterned : Graph :=
  ⟨#[.node (.field (.lit (.integer 1))), .node (.field (.lit (.integer 2))),
    .node (.field (.lit (.integer 3))),
    .node (Dialect.patternNode (.part 1) (.lit (.text "J%"))),
    .node (.equal (.part 2) (.part 5)),
    .tuple [.lit (.moment ⟨⟨2024, 1, 2⟩, 3, 4, 5, 0, none⟩), .lit .null],
    .node (.reference (.lit (.text "calm"))), .node (.and (.part 4) (.part 6)),
    .node (.or (.part 3) (.part 7)),
    .node (Dialect.pairNode (.part 0) (.part 3)), .node (.not (.part 9))]⟩

def patternedFields : Fields :=
  [(.lit (.integer 1), some "id"), (.lit (.integer 2), some "name"),
    (.lit (.integer 3), some "date")]

def patternedCompiler : Compiler where
  table := .lit (.text "t")
  definitions := [("calm", .part 10)]
  registry := Registry.builtin.extend "postgres" { Dialect.postgres with
    value := Dialect.timestampValue, operator := Dialect.patternOperator }

/-- The same with fields in place of the pattern, the moment and the pair. -/
def bare : Graph :=
  ⟨#[.node (.field (.lit (.integer 3))), .node (.field (.lit (.integer 11))),
    .node (.field (.lit (.integer 12))), .node (.field (.lit (.integer 13))),
    .node (.equal (.part 0) (.part 5)), .tuple [.part 2, .lit .null],
    .node (.reference (.lit (.text "calm"))), .node (.and (.part 4) (.part 6)),
    .node (.or (.part 1) (.part 7)), .node (.not (.part 3))]⟩

def bareHoles (column : String) : Option Hole :=
  if column = "p" then some (.node (.part 3))
  else if column = "q" then some (.value (.lit (.moment ⟨⟨2024, 1, 2⟩, 3, 4, 5, 0, none⟩)))
  else if column = "r" then some (.node (.part 9))
  else none

def bareStencil : (Override.patterns .postgres).Stencil patternedCompiler patterned patternedFields
    ⟨.part 8, .lit .null⟩ "postgres" where
  compiler := { table := .lit (.text "t"), definitions := [("calm", .part 9)] }
  graph := bare
  columns := patternedFields ++ [(.lit (.integer 11), some "p"), (.lit (.integer 12), some "q"),
    (.lit (.integer 13), some "r")]
  query := ⟨.part 8, .lit .null⟩
  holes := bareHoles
  base := rfl
  table := rfl
  limit := rfl
  room := rfl
  replaces := by
    have hlist : (patternedCompiler.scope patterned patternedFields
        ⟨.part 8, .lit .null⟩).graph.node? (.part 4) =
      some (.equality false (.part 2) (.part 5)) := rfl
    refine .join (k := .or) rfl rfl (.hole rfl ⟨_, "p", rfl, rfl, rfl⟩)
      (.join (k := .and) rfl rfl (.equality hlist rfl ?_ rfl rfl ?_) ?_)
    · refine .field ⟨_, rfl, rfl, fun name hname => ?_⟩
      obtain rfl : "date" = name := Except.ok.inj hname
      exact ⟨rfl, rfl⟩
    · exact .cons (.hole rfl ⟨_, "q", rfl, rfl, rfl⟩) (.cons (.literal trivial) .nil)
    · exact .reference rfl rfl rfl rfl (.not rfl rfl (.hole rfl ⟨_, "r", rfl, rfl, rfl⟩))

theorem isClosed_patterned : (patternedCompiler.setting patterned patternedFields).IsClosed where
  graph := by decide
  fields := by simp [setting, patternedFields, Graph.Has]
  definitions name body h := by
    change List.lookup name [("calm", Operand.part 10)] = some body at h
    rw [List.lookup_cons, List.lookup_nil] at h
    split at h
    · cases h
      decide
    · cases h

theorem compile_patterned :
    patternedCompiler.compile patterned "postgres" patternedFields ⟨.part 8, .lit .null⟩ =
      .ok ("SELECT * FROM t WHERE \"name\" LIKE 'J%' OR (\"date\" IN (" ++
        "TIMESTAMP '2024-01-02 03:04:05', NULL) AND NOT (BOTH(\"id\", \"name\" LIKE 'J%')));") := by
  decide +kernel

theorem compile_bare :
    bareStencil.compiler.compile bare "postgres" bareStencil.columns ⟨.part 8, .lit .null⟩ =
      .ok "SELECT * FROM t WHERE \"p\" OR (\"date\" IN (\"q\", NULL) AND NOT (\"r\"));" := by
  decide +kernel

/-- A query for the one dialect has texts where a query for the other has fields; a query with
nothing of the override's own has the same text for both. -/
theorem patterned_override :
    (∃ f shown, (bareStencil.compiler.scope bare bareStencil.columns bareStencil.query).Stands
        (.part 8) f ∧
      "SELECT * FROM t WHERE \"p\" OR (\"date\" IN (\"q\", NULL) AND NOT (\"r\"));" =
        BuiltIn.postgres.frame (some "t") shown (some (Fragment.writeAll '"' f.fragments)) ++ ";" ∧
      "SELECT * FROM t WHERE \"name\" LIKE 'J%' OR (\"date\" IN (" ++
          "TIMESTAMP '2024-01-02 03:04:05', NULL) AND NOT (BOTH(\"id\", \"name\" LIKE 'J%')));" =
        BuiltIn.postgres.frame (some "t") shown (some (Fragment.writeAll '"' (f.fragments.map
          (Fragment.fill ((Override.patterns .postgres).filling (patternedCompiler.scope patterned
            patternedFields ⟨.part 8, .lit .null⟩) bareHoles))))) ++ ";") ∧
    patternedCompiler.compile patterned "postgres" patternedFields ⟨.part 0, .lit .null⟩ =
      { patternedCompiler with registry := .builtin }.compile patterned "postgres" patternedFields
        ⟨.part 0, .lit .null⟩ := by
  have hget : patternedCompiler.registry.get "postgres" =
      .ok (Override.patterns .postgres).dialect := by
    rw [Override.dialect_patterns]
    rfl
  have hbase : Registry.builtin.get "postgres" = .ok (Override.patterns .postgres).base.dialect :=
    rfl
  have htable : patternedCompiler.table = tableOperand (some "t") := rfl
  have hlimit : Operand.lit .null = limitOperand none := rfl
  have hfields : patternedFields.IsHashed := by
    simp [Fields.IsHashed, patternedFields, Literal.isSignaling]
  constructor
  · obtain ⟨-, h⟩ := (compile_override hget hbase htable (q := ⟨.part 8, .lit .null⟩) hlimit
      isClosed_patterned (by decide) hfields).2 _ compile_patterned (by decide)
    obtain ⟨f, shown, hf, -, hbare, hsql, -⟩ := h bareStencil
    have htext := compile_bare.symm.trans hbare
    exact ⟨f, shown, hf, Outcome.ok_inj.1 htext, hsql⟩
  · refine (compile_override hget hbase htable (q := ⟨.part 0, .lit .null⟩) hlimit
      isClosed_patterned (by decide) hfields).1 fun y hy => ?_
    have hy' : y = .part 0 := by
      induction hy with
      | refl => rfl
      | tail _ hyz ih =>
        subst ih
        cases hyz
    subst hy'
    refine ⟨rfl, fun v hv => ?_⟩
    obtain rfl := List.mem_singleton.1 hv
    rfl

end Compiler

end FilterCompiler
