import FilterCompiler.Proofs.Framing
import FilterCompiler.Proofs.Meaning
import FilterCompiler.Proofs.Truth

/-! What compiling looks up. A condition is written with the columns of some fields and the bodies
of some names: those that stand in it, in the bodies of the names in it, and so on. Proved here: two
field maps and two tables of names that agree on these give the same outcome, be it a statement or a
fault, and what is compiled stays as it is when numbers and names are added. -/

namespace FilterCompiler

namespace Graph

/-- A field with some number is written right at an operand. -/
def ShowsField (g : Graph) (x number : Operand) : Prop :=
  ∃ v ∈ g.valuesAt x, g.node? v = some (.field number)

/-- An operand refers to a condition by name. -/
def Names (g : Graph) (x : Operand) (name : String) : Prop :=
  g.node? x = some (.reference (.lit (.text name)))

end Graph

namespace Fields

/-- Numbers that are added behind those of a field map leave its columns as they are. -/
theorem find?_append {g : Graph} {fields : Fields} {number : Operand} {column : String}
    (h : fields.find? g number = .ok (some column)) (added : Fields) :
    find? g number (fields ++ added) = .ok (some column) := by
  induction fields with
  | nil => cases h
  | cons entry rest ih =>
    obtain ⟨key, other⟩ := entry
    simp only [find?, List.cons_append] at h ⊢
    split
    · next e hkey => simp [hkey] at h
    · next hkey => simpa [hkey] using h
    · next hkey => exact ih (by simpa [hkey] using h)

end Fields

theorem NameTable.find?_append {α : Type} {t : NameTable α} {name : String} {x : α}
    (h : t.find? name = some x) (added : NameTable α) :
    NameTable.find? name (t ++ added) = some x := by
  rw [NameTable.find?] at h
  rw [NameTable.find?, List.lookup_append, h, Option.some_or]

namespace Scope

/-- A scope that looks other columns and names up in the same graph. -/
def withLookups (s : Scope) (fields : Fields) (definitions : Definitions) : Scope :=
  { s with fields := fields, definitions := definitions }

/-- Other columns and names are the same wherever an operand leads to. -/
structure AgreesOn (s : Scope) (fields : Fields) (definitions : Definitions) (x : Operand) :
    Prop where
  numbers : ∀ y number, s.Reaches x y → s.graph.ShowsField y number →
    s.fields.find? s.graph number = fields.find? s.graph number
  names : ∀ y name, s.Reaches x y → s.graph.Names y name →
    s.definitions.find? name = definitions.find? name

variable {s : Scope} {fields : Fields} {definitions : Definitions} {x y : Operand}

/-! ### One operand -/

theorem column_withLookups {number : Operand}
    (h : s.fields.find? s.graph number = fields.find? s.graph number) :
    (s.withLookups fields definitions).column number = s.column number := by
  have hfind : (s.withLookups fields definitions).fields.find?
      (s.withLookups fields definitions).graph number = s.fields.find? s.graph number := h.symm
  unfold column
  rw [hfind]
  rfl

theorem term_withLookups (h : ∀ number, s.graph.node? x = some (.field number) →
      s.fields.find? s.graph number = fields.find? s.graph number) :
    (s.withLookups fields definitions).term x = s.term x := by
  cases x with
  | lit v => rfl
  | part n =>
    have hgraph : (s.withLookups fields definitions).graph = s.graph := rfl
    simp only [term, hgraph]
    split
    · next number hnumber => rw [column_withLookups (h number hnumber)]
    · rfl

theorem resolve_withLookups {name : Operand} (h : ∀ t, name = .lit (.text t) →
      s.definitions.find? t = definitions.find? t) :
    (s.withLookups fields definitions).resolve name = s.resolve name := by
  have hkey : (s.withLookups fields definitions).checkKey name = s.checkKey name := rfl
  have htext : (s.withLookups fields definitions).text name = s.text name := rfl
  unfold resolve resolve.undefinedName
  rw [hkey, htext]
  split
  · next t =>
    have hfind : (s.withLookups fields definitions).definitions.find? t =
        s.definitions.find? t := (h t rfl).symm
    rw [hfind]
  · rfl

theorem membership_withLookups {negated : Bool} {values : Operand}
    (h : ∀ v ∈ x :: (s.graph.elements? values).getD [], ∀ number,
      s.graph.node? v = some (.field number) →
        s.fields.find? s.graph number = fields.find? s.graph number) :
    (s.withLookups fields definitions).membership negated x values =
      s.membership negated x values := by
  rw [List.forall_mem_cons] at h
  have hvalues : Dialect.valuesOf (s.withLookups fields definitions) values =
      Dialect.valuesOf s values := rfl
  unfold membership
  rw [term_withLookups h.1, hvalues, Dialect.valuesOf]
  cases helements : s.graph.elements? values with
  | none => rfl
  | some items =>
    rw [helements] at h
    have hitems : items.mapM (s.withLookups fields definitions).term = items.mapM s.term :=
      mapM_congr fun v hv => term_withLookups (h.2 v hv)
    simp only [ok_bind, hitems]

/-- The shape of an operand depends on what is mentioned and named right there. -/
theorem shape_withLookups
    (hnumbers : ∀ number, s.graph.ShowsField x number →
      s.fields.find? s.graph number = fields.find? s.graph number)
    (hnames : ∀ name, s.graph.Names x name →
      s.definitions.find? name = definitions.find? name) :
    (s.withLookups fields definitions).shape x = s.shape x := by
  have hterm : ∀ v ∈ s.graph.valuesAt x,
      (s.withLookups fields definitions).term v = s.term v :=
    fun v hv => term_withLookups fun number hn => hnumbers number ⟨v, hv, hn⟩
  have hgraph : (s.withLookups fields definitions).graph = s.graph := rfl
  unfold shape
  rw [hgraph]
  cases hn : s.graph.node? x with
  | none => rfl
  | some n =>
    cases n with
    | lessThan l r | greaterThan l r =>
      simp only [Graph.valuesAt, hn, List.forall_mem_cons] at hterm
      simp only [hterm.1, hterm.2.1]
    | equal y values | notEqual y values =>
      have hmembership (negated : Bool) : (s.withLookups fields definitions).membership negated y
          values = s.membership negated y values :=
        membership_withLookups fun v hv number hnumber =>
          hnumbers number ⟨v, by simpa [Graph.valuesAt, hn] using hv, hnumber⟩
      simp only [hmembership]
    | isEmpty y | notEmpty y =>
      simp only [Graph.valuesAt, hn, List.forall_mem_cons] at hterm
      simp only [hterm.1]
    | field number =>
      have hcolumn : (s.withLookups fields definitions).column number = s.column number :=
        column_withLookups (hnumbers number ⟨x, by simp [Graph.valuesAt, hn], hn⟩)
      simp only [hcolumn]
    | reference name =>
      have hresolve : (s.withLookups fields definitions).resolve name = s.resolve name :=
        resolve_withLookups fun t ht => hnames t (by rw [Graph.Names, hn, ht])
      simp only [hresolve]
    | _ => rfl

/-! ### Whole conditions -/

theorem AgreesOn.edge (h : s.AgreesOn fields definitions x) (hxy : s.Edge x y) :
    s.AgreesOn fields definitions y :=
  ⟨fun z number hyz => h.numbers z number (.head hxy hyz),
    fun z name hyz => h.names z name (.head hxy hyz)⟩

theorem AgreesOn.express (h : s.AgreesOn fields definitions x) (b : BuiltIn) (room : Nat)
    (path : List Operand) :
    b.dialect.express (s.withLookups fields definitions) room path x =
      b.dialect.express s room path x := by
  induction room generalizing path x with
  | zero => rfl
  | succ room ih =>
    have hwrite (shape : Shape) (e : Operand → Rendered) :
        shape.write b.mark (s.withLookups fields definitions) e = shape.write b.mark s e := by
      cases shape <;> rfl
    rw [b.express_succ, b.express_succ, shape_withLookups (fun number => h.numbers x number .refl)
      fun name => h.names x name .refl]
    cases hs : s.shape x with
    | error e => rfl
    | ok shape =>
      simp only [ok_bind, hwrite]
      rw [Shape.write_congr fun y hy => ih (h.edge (.of_shape hs hy)) (x :: path)]
      rfl

/-! ### What was written -/

/-- Values stand in predicates alone. -/
theorem valuesAt_of_shape {shape : Shape} (h : s.shape x = .ok shape) (hbelow : shape.below ≠ []) :
    s.graph.valuesAt x = [] := by
  obtain ⟨n, hn, hfits⟩ := exists_node_of_shape h
  unfold Graph.valuesAt
  cases shape with
  | atom p => exact absurd rfl hbelow
  | join k l r => cases k <;> rw [hn, hfits] <;> rfl
  | not y => rw [hn, hfits]
  | follow body =>
    obtain ⟨name, rfl, _⟩ := hfits
    rw [hn]

/-- Whatever is mentioned where something is written has a column. -/
theorem column_of_showsField {shape : Shape} {number : Operand} (h : s.shape x = .ok shape)
    (hnumber : s.graph.ShowsField x number) : ∃ name, s.column number = .ok name := by
  obtain ⟨v, hv, hfield⟩ := hnumber
  cases shape with
  | atom p =>
    obtain ⟨ts, hts, _⟩ := terms_of_shape h
    obtain ⟨t, _, hterm⟩ := exists_of_forall₂ (mapM_eq_ok_iff.1 hts) hv
    rw [term_of_field hfield] at hterm
    obtain ⟨name, hname, _⟩ := map_eq_ok_iff.1 hterm
    exact ⟨name, hname⟩
  | join | not | follow =>
    rw [valuesAt_of_shape h (by simp [Shape.below])] at hv
    cases hv

theorem find?_of_names {shape : Shape} {name : String} (h : s.shape x = .ok shape)
    (hname : s.graph.Names x name) : ∃ body, s.definitions.find? name = some body := by
  unfold Scope.shape at h
  rw [Graph.Names] at hname
  rw [hname] at h
  obtain ⟨body, hbody, _⟩ := bind_eq_ok_iff.1 h
  obtain ⟨_, ht, hfind, _⟩ := resolve_eq_ok_iff.1 hbody
  cases ht
  exact ⟨body, hfind⟩

/-- All columns and names that a formula was made of are still the same where some are added. -/
theorem Stands.agreesOn {f : Formula} (h : s.Stands x f)
    (hfields : ∀ number column, s.fields.find? s.graph number = .ok (some column) →
      fields.find? s.graph number = .ok (some column))
    (hdefinitions : ∀ name body, s.definitions.find? name = some body →
      definitions.find? name = some body) : s.AgreesOn fields definitions x where
  numbers y number hxy hnumber := by
    obtain ⟨_, hy⟩ := h.of_reaches hxy
    obtain ⟨shape, hshape⟩ := hy.exists_shape
    obtain ⟨column, hcolumn⟩ := column_of_showsField hshape hnumber
    have hfind := (column_eq_ok_iff.1 hcolumn).2.1
    rw [hfind, hfields number column hfind]
  names y name hxy hname := by
    obtain ⟨_, hy⟩ := h.of_reaches hxy
    obtain ⟨shape, hshape⟩ := hy.exists_shape
    obtain ⟨body, hfind⟩ := find?_of_names hshape hname
    rw [hfind, hdefinitions name body hfind]

theorem agreesOn_null : s.AgreesOn fields definitions (.lit .null) := by
  have hreaches {y : Operand} (h : s.Reaches (.lit .null) y) : y = .lit .null := by
    induction h with
    | refl => rfl
    | tail _ hyz ih => subst ih; cases hyz
  constructor
  · rintro y number h ⟨v, hv, _⟩
    rw [hreaches h] at hv
    cases hv
  · intro y name h hname
    rw [hreaches h] at hname
    cases hname

end Scope

/-! ### Statements -/

namespace BuiltIn

variable {b : BuiltIn} {s : Scope} {root : Operand} {q : Selection}

/-- A statement looks up what its condition does. -/
theorem formatStatement_withLookups (hroot : s.graph.node? root = some (.select q))
    {fields : Fields} {definitions : Definitions}
    (h : s.AgreesOn fields definitions q.condition) :
    b.dialect.formatStatement (s.withLookups fields definitions) root =
      b.dialect.formatStatement s root := by
  have hcondition : Dialect.conditionClause
      (b.dialect.express (s.withLookups fields definitions) s.room []) q.condition =
        Dialect.conditionClause (b.dialect.express s s.room []) q.condition := by
    unfold Dialect.conditionClause
    rw [h.express]
  have hgraph : (s.withLookups fields definitions).graph = s.graph := rfl
  have hroom : (s.withLookups fields definitions).room = s.room := rfl
  cases b with
  | sqlserver =>
    change Dialect.selectTop _ _ root = Dialect.selectTop _ _ root
    simp only [Dialect.selectTop, hgraph, hroom, hroot, hcondition]
    rfl
  | postgres | mysql =>
    change Dialect.selectLimit _ _ root = Dialect.selectLimit _ _ root
    simp only [Dialect.selectLimit, hgraph, hroom, hroot, hcondition]
    rfl

/-- The condition of a statement that is written is absent or written too. -/
theorem express_of_formatStatement (hroot : s.graph.node? root = some (.select q)) {text : String}
    (h : b.dialect.formatStatement s root = .ok text) :
    q.condition = .lit .null ∨
      ∃ shown, b.dialect.express s s.room [] q.condition = .ok shown := by
  have hclause {clauses : List String}
      (h : Dialect.conditionClause (b.dialect.express s s.room []) q.condition =
        .ok clauses) :
      q.condition = .lit .null ∨
        ∃ shown, b.dialect.express s s.room [] q.condition = .ok shown := by
    unfold Dialect.conditionClause at h
    split at h
    · next hnull => exact .inl hnull
    · obtain ⟨shown, hshown, _⟩ := bind_eq_ok_iff.1 h
      exact .inr ⟨shown, hshown⟩
  cases b with
  | sqlserver =>
    change Dialect.selectTop s _ root = _ at h
    simp only [Dialect.selectTop, hroot, bind_eq_ok_iff] at h
    obtain ⟨_, _, _, _, _, h, _⟩ := h
    exact hclause h
  | postgres | mysql =>
    change Dialect.selectLimit s _ root = _ at h
    simp only [Dialect.selectLimit, hroot, bind_eq_ok_iff] at h
    obtain ⟨_, _, _, h, _⟩ := h
    exact hclause h

end BuiltIn

namespace Compiler

variable {c : Compiler} {g : Graph} {fields fields' : Fields} {definitions' : Definitions}
  {q : Query}

/-- Compiling looks up the numbers and names that the condition leads to and no others. Where these
are the same, so is the outcome, and what is compiled stays as it is when others are added. -/
theorem compile_looks_up (b : BuiltIn) (hregistry : c.registry = .builtin) :
    ((c.scope g fields q).AgreesOn fields' definitions' q.condition →
      { c with definitions := definitions' }.compile g b.name fields' q =
        c.compile g b.name fields q) ∧
    ∀ sql, c.compile g b.name fields q = .ok sql →
      (∀ number column, fields.find? (c.scope g fields q).graph number = .ok (some column) →
        fields'.find? (c.scope g fields q).graph number = .ok (some column)) →
      (∀ name body, c.definitions.find? name = some body →
        definitions'.find? name = some body) →
      { c with definitions := definitions' }.compile g b.name fields' q = .ok sql := by
  have hagrees (h : (c.scope g fields q).AgreesOn fields' definitions' q.condition) :
      { c with definitions := definitions' }.compile g b.name fields' q =
        c.compile g b.name fields q := by
    have hformat := b.formatStatement_withLookups node?_scope h
    rw [compile_eq (c := { c with definitions := definitions' }) hregistry, compile_eq hregistry,
      ← hformat]
    rfl
  refine ⟨hagrees, fun sql h hfields hdefinitions => ?_⟩
  rw [hagrees, h]
  rw [compile_eq hregistry, told_eq_ok_iff] at h
  obtain ⟨body, hbody, _⟩ := h
  rcases BuiltIn.express_of_formatStatement node?_scope hbody with hnull | ⟨shown, hshown⟩
  · rw [show q.condition = .lit .null from hnull]
    exact Scope.agreesOn_null
  · obtain ⟨f, hf⟩ := Scope.exists_stands_of_express hshown
    exact hf.agreesOn hfields hdefinitions

/-- A test for an absent value behind a name, a name that stands for nothing, and a field that is
in neither of them. -/
def vacancy : Graph :=
  ⟨#[.node (.field (.lit (.integer 1))), .node (.isEmpty (.part 0)),
    .node (.reference (.lit (.text "vacant"))), .node (.reference (.lit (.text "gone"))),
    .node (.field (.lit (.integer 2)))]⟩

def vacancyCompiler : Compiler := { definitions := [("vacant", .part 1)] }

/-- The compiler with a name more. -/
def widerCompiler : Compiler :=
  { vacancyCompiler with definitions := vacancyCompiler.definitions ++ [("aged", .part 4)] }

def vacancyFields : Fields := [(.lit (.integer 1), some "name")]

def widerFields : Fields := vacancyFields ++ [(.lit (.integer 2), some "age")]

theorem vacancy_looks_up :
    vacancyCompiler.registry = .builtin ∧
      widerCompiler.compile vacancy "postgres" widerFields ⟨.part 2, .lit .null⟩ =
        .ok "SELECT * WHERE \"name\" IS NULL;" ∧
      widerCompiler.compile vacancy "postgres" widerFields ⟨.part 3, .lit .null⟩ =
        .failed (.undefinedName (.lit (.text "gone")) "gone") := by
  refine ⟨rfl, ?_, ?_⟩
  · have hcompile : vacancyCompiler.compile vacancy "postgres" vacancyFields
        ⟨.part 2, .lit .null⟩ = .ok "SELECT * WHERE \"name\" IS NULL;" := by decide
    exact (compile_looks_up .postgres rfl).2 _ hcompile
      (fun number column h => Fields.find?_append h _) fun name body h =>
        NameTable.find?_append h _
  · have hreaches (y : Operand) (h : (vacancyCompiler.scope vacancy vacancyFields
        ⟨.part 3, .lit .null⟩).Reaches (.part 3) y) : y = .part 3 := by
      induction h with
      | refl => rfl
      | tail _ hyz ih =>
        subst ih
        cases hyz
    have hcompile : vacancyCompiler.compile vacancy "postgres" vacancyFields
        ⟨.part 3, .lit .null⟩ = .failed (.undefinedName (.lit (.text "gone")) "gone") := by decide
    refine ((compile_looks_up .postgres rfl).1 ⟨fun y number h hnumber => ?_,
      fun y name h hname => ?_⟩).trans hcompile
    · obtain ⟨v, hv, _⟩ := hreaches y h ▸ hnumber
      cases hv
    · rw [hreaches y h] at hname
      cases hname
      rfl

end Compiler

end FilterCompiler
