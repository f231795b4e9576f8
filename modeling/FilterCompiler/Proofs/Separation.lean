import FilterCompiler.Proofs.Twins

/-! Data cannot change the structure of a statement. Proved here: whatever compiles has one
semicolon, at its end, and no word in which a comment could open; and two runs that differ in
nothing but texts and column names both succeed or both fail, their statements having the same
lexemes but for the quotations of those texts and names. -/

namespace FilterCompiler

/-- Whether a comment opens in a word, in one of the ways that dialects know. Outside quotations
it could open nowhere else, as a word goes on up to the next delimiter. -/
def OpensComment (w : String) : Prop := ∃ o ∈ ["--", "/*", "#"], o.toList <:+: w.toList

/-- Neither the end of a statement nor a word in which a comment opens. -/
def Lexeme.IsHarmless : Lexeme → Prop
  | word w => ¬ OpensComment w
  | semicolon => False
  | _ => True

/-! ### Words without comments -/

/-- Where no dash follows a dash and there are no slashes and hashes, no comment opens. -/
theorem not_opensComment {w : String} (hdashes : NoDashes w.toList) (hslash : '/' ∉ w.toList)
    (hhash : '#' ∉ w.toList) : ¬ OpensComment w := by
  rintro ⟨o, ho, hpart⟩
  simp only [List.mem_cons, List.not_mem_nil, or_false] at ho
  rcases ho with rfl | rfl | rfl
  · have : "--".toList.IsChain fun a b => ¬ (a = '-' ∧ b = '-') := hdashes.infix hpart
    revert this
    decide
  · exact hslash (hpart.subset (by decide))
  · exact hhash (hpart.subset (by decide))

theorem IsNumeral.not_opensComment {w : String} (h : IsNumeral w.toList) : ¬ OpensComment w := by
  refine FilterCompiler.not_opensComment h.noDashes (fun hc => ?_) fun hc => ?_
  · have := h.mem hc
    revert this
    decide
  · have := h.mem hc
    revert this
    decide

/-- A word without the characters that open comments. -/
theorem not_opensComment_of_ne {w : String}
    (h : ∀ c ∈ w.toList, c ≠ '-' ∧ c ≠ '/' ∧ c ≠ '#') : ¬ OpensComment w := by
  refine FilterCompiler.not_opensComment ?_ (fun hc => (h _ hc).2.1 rfl) fun hc => (h _ hc).2.2 rfl
  generalize w.toList = s at h
  induction s with
  | nil => exact .nil
  | cons c s ih =>
    exact (ih fun d hd => h d (by simp [hd])).cons fun _ _ hcd => (h c (by simp)).1 hcd.1

theorem IsIdentifier.not_opensComment {w : String} (h : IsIdentifier w) : ¬ OpensComment w := by
  have hne {c : Char} (hc : c ∈ w.toList) {d : Char}
      (hd : ¬ (d.isAlphanum = true ∨ d = '_' ∨ 128 ≤ d.toNat)) : c ≠ d := by
    rintro rfl
    exact hd (h.2 c hc)
  exact not_opensComment_of_ne fun c hc =>
    ⟨hne hc (by decide), hne hc (by decide), hne hc (by decide)⟩

namespace Lexeme

/-- Whether a lexeme is harmless for the characters in it alone. -/
def isCalm : Lexeme → Bool
  | word w => w.toList.all fun c => c != '-' && c != '/' && c != '#'
  | semicolon => false
  | _ => true

theorem isHarmless_of_isCalm {t : Lexeme} (h : t.isCalm = true) : t.IsHarmless := by
  cases t with
  | word w => exact not_opensComment_of_ne (by simpa [isCalm, and_assoc] using h)
  | semicolon => cases h
  | _ => trivial

theorem isHarmless_of_all {ts : List Lexeme} (h : ts.all isCalm = true) :
    ∀ t ∈ ts, t.IsHarmless := fun t ht => isHarmless_of_isCalm (List.all_eq_true.1 h t ht)

end Lexeme

/-! ### Lexemes of a statement -/

open Lexeme (isHarmless_of_isCalm isHarmless_of_all)

theorem Term.isHarmless_lexeme {t : Term} (h : t.WellShown) : t.lexeme.IsHarmless := by
  cases t with
  | null => exact isHarmless_of_isCalm (by decide)
  | truth b => exact isHarmless_of_isCalm (by cases b <;> decide)
  | text t | column name => trivial
  | number shown => exact IsNumeral.not_opensComment h

theorem Predicate.isHarmless_listed {ts : List Term} (h : ∀ t ∈ ts, t.WellShown) :
    ∀ t ∈ listed ts, t.IsHarmless := by
  cases ts with
  | nil => simp [listed]
  | cons x rest =>
    rw [listed, List.forall_mem_cons]
    refine ⟨Term.isHarmless_lexeme (h x (by simp)), fun t ht => ?_⟩
    obtain ⟨y, hy, ht⟩ := List.mem_flatMap.1 ht
    simp only [List.mem_cons, List.not_mem_nil, or_false] at ht
    rcases ht with rfl | rfl
    · trivial
    · exact Term.isHarmless_lexeme (h y (by simp [hy]))

theorem Predicate.isHarmless_lexemes {p : Predicate} (h : ∀ t ∈ p.terms, t.WellShown) :
    ∀ t ∈ p.lexemes, t.IsHarmless := by
  cases p with
  | compare sign l r =>
    have hsign : (Lexeme.word sign.word).IsHarmless :=
      isHarmless_of_isCalm (by cases sign <;> decide)
    simpa [lexemes] using ⟨Term.isHarmless_lexeme (h l (by simp [terms])), hsign,
      Term.isHarmless_lexeme (h r (by simp [terms]))⟩
  | among negated x values =>
    have hin : ∀ t ∈ (if negated then [.word "NOT", .word "IN", .opening]
        else [.word "IN", .opening] : List Lexeme), t.IsHarmless :=
      isHarmless_of_all (by cases negated <;> decide)
    rw [lexemes, List.forall_mem_cons, List.forall_mem_append, List.forall_mem_append]
    exact ⟨Term.isHarmless_lexeme (h x (by simp [terms])),
      ⟨hin, isHarmless_listed fun t ht => h t (by simp [terms, ht])⟩,
      isHarmless_of_all (by decide)⟩
  | isNull negated x =>
    rw [lexemes, List.forall_mem_cons]
    exact ⟨Term.isHarmless_lexeme (h x (by simp [terms])),
      isHarmless_of_all (by cases negated <;> decide)⟩
  | column name => simp [lexemes, Lexeme.IsHarmless]

theorem Formula.isHarmless_parenthesized (needed : Bool) {ts : List Lexeme}
    (h : ∀ t ∈ ts, t.IsHarmless) : ∀ t ∈ parenthesized needed ts, t.IsHarmless := by
  cases needed with
  | false => exact h
  | true =>
    rw [parenthesized, if_pos rfl, List.forall_mem_append, List.forall_mem_cons]
    exact ⟨⟨trivial, h⟩, isHarmless_of_all (by decide)⟩

theorem Formula.isHarmless_lexemes {f : Formula} (h : ∀ t ∈ f.terms, t.WellShown) :
    ∀ t ∈ f.lexemes, t.IsHarmless := by
  induction f with
  | atom p => exact Predicate.isHarmless_lexemes h
  | join k l r ihl ihr =>
    rw [lexemes, List.forall_mem_append, List.forall_mem_append]
    exact ⟨⟨isHarmless_parenthesized _ (ihl fun t ht => h t (by simp [terms, ht])),
        isHarmless_of_all (by cases k <;> decide)⟩,
      isHarmless_parenthesized _ (ihr fun t ht => h t (by simp [terms, ht]))⟩
  | not f ih =>
    rw [lexemes, List.forall_mem_append, List.forall_mem_append]
    exact ⟨⟨isHarmless_of_all (by decide), ih h⟩, isHarmless_of_all (by decide)⟩
  | named f ih => exact ih h

namespace Statement

/-- In a statement the semicolon comes last, and nothing before it ends it or opens a comment. -/
theorem exists_lexemes (b : BuiltIn) {st : Statement} (h : st.WellFormed) :
    ∃ ts, st.lexemes b = ts ++ [.semicolon] ∧ ∀ t ∈ ts, t.IsHarmless := by
  have hclause : ∀ c ∈ Clause.select :: st.clauses b, ∀ t ∈ c.lexemes, t.IsHarmless := by
    intro c hc
    rcases mem_clauses b hc with rfl | rfl | ⟨u, hu, rfl⟩ | ⟨f, hf, rfl⟩ | ⟨n, hn, rfl⟩
    · exact isHarmless_of_all (by decide)
    · exact isHarmless_of_all (by decide)
    · rw [Clause.lexemes, List.forall_mem_cons, List.forall_mem_cons]
      exact ⟨isHarmless_of_isCalm (by decide), (h.table u hu).not_opensComment, by simp⟩
    · rw [Clause.lexemes, List.forall_mem_cons]
      exact ⟨isHarmless_of_isCalm (by decide), Formula.isHarmless_lexemes (h.terms f hf)⟩
    · have hword (atHead : Bool) : (Lexeme.word (Clause.limitWord atHead)).IsHarmless :=
        isHarmless_of_isCalm (by cases atHead <;> decide)
      have hnumber := Term.isHarmless_lexeme (t := .number (Integer.text n)) (isNumeral_text n)
      rw [Clause.lexemes, List.forall_mem_cons, List.forall_mem_cons]
      exact ⟨hword _, hnumber, by simp⟩
  refine ⟨_, rfl, fun t ht => ?_⟩
  obtain ⟨c, hc, ht⟩ := List.mem_flatMap.1 ht
  exact hclause c hc t ht

/-- Statements that differ in twin conditions alone have twin lexemes. -/
theorem twin_lexemes {P Q : String → String → Prop} (b : BuiltIn) (table : Option String)
    (limit : Option Nat) {f f' : Option Formula} (h : Option.Rel (Formula.Twin P Q) f f') :
    List.Forall₂ (Lexeme.Twin P Q) (lexemes b ⟨table, f, limit⟩)
      (lexemes b ⟨table, f', limit⟩) := by
  have hlimit (atHead : Bool) (n : Option Nat) :
      ∀ t ∈ n.toList.flatMap fun n => (Clause.limit atHead n).lexemes, t.isQuotation = false := by
    cases n <;> simp [Clause.lexemes, Lexeme.isQuotation]
  have hsource : ∀ t ∈ table.toList.flatMap fun t => (Clause.source t).lexemes,
      t.isQuotation = false := by
    cases table <;> simp [Clause.lexemes, Lexeme.isQuotation]
  rw [lexemes_eq, lexemes_eq]
  refine List.rel_append (.cons (.same _ rfl) (Lexeme.twin_same (hlimit true _)))
    (.cons (.same _ rfl) (List.rel_append (Lexeme.twin_same hsource) (List.rel_append ?_
      (List.rel_append (Lexeme.twin_same (hlimit false _)) (Lexeme.twin_same (by decide))))))
  cases h with
  | none => exact .nil
  | some h => simpa [Clause.lexemes] using ⟨.same _ rfl, h.lexemes⟩

end Statement

/-! ### Twin runs -/

/-- Where a condition may be absent: it is in both, or twins stand for twins. -/
theorem Scope.Twin.means {P Q : String → String → Prop} {s s' : Scope} (h : Scope.Twin P Q s s')
    {x x' : Operand} (hx : Operand.Twin P x x') {f : Option Formula} (hf : s.Means x f) :
    ∃ f', s'.Means x' f' ∧ Option.Rel (Formula.Twin P Q) f f' := by
  cases hf with
  | absent =>
    cases hx with
    | same => exact ⟨none, .absent, .none⟩
  | formula stands =>
    obtain ⟨f', hf', htwin⟩ := h.stands hx stands
    exact ⟨some f', .formula hf', .some htwin⟩

theorem Query.exists_limit {g : Graph} {limit : Operand} (h : checkLimit g limit = .ok ()) :
    ∃ n, limit = limitOperand n := by
  rcases checkLimit_eq_ok_iff.1 h with rfl | ⟨n, hn, rfl⟩
  · exact ⟨none, rfl⟩
  · exact ⟨some n.toNat, by rw [limitOperand, Int.toNat_of_nonneg hn]⟩

theorem Graph.Twin.add {P : String → String → Prop} {g g' : Graph} (h : Graph.Twin P g g')
    {p p' : Part} (hp : Part.Twin P p p') : Graph.Twin P (g.add p).2 (g'.add p').2 := by
  refine ⟨?_⟩
  simp only [Graph.add, Array.toList_push]
  exact List.rel_append h.parts (.cons hp .nil)

theorem Dialect.limit_lt_of_limitClause {s : Scope} {keyword : String} {n : Nat}
    {texts : List String} (h : limitClause s keyword (limitOperand (some n)) = .ok texts) :
    n < Integer.textBound := by
  rw [limitOperand, limitClause, if_neg (by simp)] at h
  obtain ⟨text, htext, -⟩ := bind_eq_ok_iff.1 h
  rw [Scope.text_lit, Literal.plain?] at htext
  cases hn : Integer.text? n with
  | none => simp [hn] at htext
  | some t =>
    by_contra hle
    have hnone : Integer.text? n = none :=
      Integer.text?_eq_none_iff.2 (by rwa [Int.natAbs_natCast, ← Nat.not_lt])
    rw [hn] at hnone
    cases hnone

namespace Compiler

variable {c : Compiler} {g : Graph} {fields : Fields} {q : Query} {b : BuiltIn}

/-- The limit of a compiled statement is no longer than integers may be. -/
theorem limit_lt_of_compile (hc : c.registry = .builtin) {limit : Option Nat}
    (hlimit : q.limit = limitOperand limit) {sql : String}
    (h : c.compile g b.name fields q = .ok sql) : ∀ n ∈ limit, n < Integer.textBound := by
  rintro n rfl
  have hclause : ∃ keyword texts, Dialect.limitClause (c.scope g fields q) keyword
      (limitOperand (some n)) = .ok texts := by
    rw [compile_eq hc] at h
    cases hf : b.dialect.formatStatement (c.scope g fields q) (.part g.parts.size) with
    | error e => simp [hf, told] at h
    | ok text =>
      rw [← hlimit]
      cases b with
      | sqlserver =>
        change Dialect.selectTop _ _ _ = _ at hf
        rw [Dialect.selectTop, node?_scope] at hf
        obtain ⟨texts, htexts, -⟩ := bind_eq_ok_iff.1 hf
        exact ⟨"TOP", texts, htexts⟩
      | postgres | mysql =>
        change Dialect.selectLimit _ _ _ = _ at hf
        rw [Dialect.selectLimit, node?_scope] at hf
        simp only [bind_eq_ok_iff] at hf
        obtain ⟨_, -, _, -, texts, htexts, -⟩ := hf
        exact ⟨"LIMIT", texts, htexts⟩
  obtain ⟨keyword, texts, htexts⟩ := hclause
  exact Dialect.limit_lt_of_limitClause htexts

/-- What is compiled says the statement that it is compiled to, which is read as such. -/
theorem exists_means_of_compile (hc : c.registry = .builtin) {table : Option String}
    (htable : c.table = tableOperand table) (hname : ∀ t ∈ table, IsIdentifier t)
    {limit : Option Nat} (hlimit : q.limit = limitOperand limit) {sql : String}
    (h : c.compile g b.name fields q = .ok sql) :
    ∃ f, (c.scope g fields q).Means q.condition f ∧ (∀ f' ∈ f, f'.depth ≤ c.room) ∧
      Lexeme.read? b.mark sql = some (Statement.lexemes b ⟨table, f, limit⟩) := by
  obtain ⟨f, hmeans, hdepth, rfl⟩ := (compile_eq_ok_iff_means hc htable hlimit
    (limit_lt_of_compile hc hlimit h)).1 h
  rw [namedTable_of_isIdentifier hname]
  exact ⟨f, hmeans, hdepth, Statement.lexemes_write b ⟨hname, hmeans.wellShown⟩⟩

/-- A twin of what is compiled is compiled, to a statement with twin lexemes. -/
theorem exists_compile_of_twin {P Q : String → String → Prop} {c' : Compiler} {g' : Graph}
    {fields' : Fields} {q' : Query} {table : Option String} {limit : Option Nat}
    (hc : c.registry = .builtin) (hc' : c'.registry = .builtin) (hroom : c'.room = c.room)
    (htable : c.table = tableOperand table) (htable' : c'.table = tableOperand table)
    (hname : ∀ t ∈ table, IsIdentifier t)
    (hlimit : q.limit = limitOperand limit) (hlimit' : q'.limit = limitOperand limit)
    (hscope : Scope.Twin P Q (c.scope g fields q) (c'.scope g' fields' q'))
    (hcondition : Operand.Twin P q.condition q'.condition) {sql : String}
    (h : c.compile g b.name fields q = .ok sql) :
    ∃ sql' ts ts', c'.compile g' b.name fields' q' = .ok sql' ∧
      Lexeme.read? b.mark sql = some ts ∧ Lexeme.read? b.mark sql' = some ts' ∧
      List.Forall₂ (Lexeme.Twin P Q) ts ts' := by
  obtain ⟨f, hmeans, hdepth, hread⟩ := exists_means_of_compile hc htable hname hlimit h
  obtain ⟨f', hmeans', htwin⟩ := hscope.means hcondition hmeans
  have hdepth' : ∀ f₁ ∈ f', f₁.depth ≤ c'.room := by
    cases htwin with
    | none => simp
    | some htwin => simpa [← htwin.depth, hroom] using hdepth
  have hcompile := compile_of_means (b := b) hc' htable' hlimit' (limit_lt_of_compile hc hlimit h)
    hmeans'
  rw [if_pos hdepth', namedTable_of_isIdentifier hname] at hcompile
  exact ⟨_, _, _, hcompile, hread, Statement.lexemes_write b ⟨hname, hmeans'.wellShown⟩,
    Statement.twin_lexemes b table limit htwin⟩

/-- Data cannot change the structure of a statement. -/
theorem compile_separates_data (b : BuiltIn) {table : Option String}
    (hregistry : c.registry = .builtin) (htable : c.table = tableOperand table)
    (hname : ∀ t ∈ table, IsIdentifier t) (hlimit : Query.checkLimit g q.limit = .ok ()) :
    (∀ sql, c.compile g b.name fields q = .ok sql →
      ∃ ts, Lexeme.read? b.mark sql = some (ts ++ [.semicolon]) ∧
        ∀ t ∈ ts, t ≠ .semicolon ∧ ∀ w, t = .word w → ¬ OpensComment w) ∧
    ∀ (P Q : String → String → Prop) (c' : Compiler) (g' : Graph) (fields' : Fields) (q' : Query),
      c'.registry = .builtin → c'.room = c.room → c'.table = c.table → q'.limit = q.limit →
      Definitions.Twin P c.definitions c'.definitions → Graph.Twin P g g' →
      Fields.Twin Q fields fields' → Operand.Twin P q.condition q'.condition →
      ((∃ sql, c.compile g b.name fields q = .ok sql) ↔
        ∃ sql, c'.compile g' b.name fields' q' = .ok sql) ∧
      ∀ sql sql', c.compile g b.name fields q = .ok sql →
        c'.compile g' b.name fields' q' = .ok sql' →
        ∃ ts ts', Lexeme.read? b.mark sql = some ts ∧ Lexeme.read? b.mark sql' = some ts' ∧
          List.Forall₂ (Lexeme.Twin P Q) ts ts' := by
  obtain ⟨limit, hlimit⟩ := Query.exists_limit hlimit
  constructor
  · intro sql h
    obtain ⟨f, hmeans, _, hread⟩ := exists_means_of_compile hregistry htable hname hlimit h
    have hwell : Statement.WellFormed ⟨table, f, limit⟩ := ⟨hname, hmeans.wellShown⟩
    obtain ⟨ts, hts, hharmless⟩ := Statement.exists_lexemes b hwell
    refine ⟨ts, hread.trans (congrArg some hts), fun t ht => ⟨?_, ?_⟩⟩
    · rintro rfl
      exact hharmless _ ht
    · rintro w rfl
      exact hharmless _ ht
  · intro P Q c' g' fields' q' hregistry' hroom htable' hlimit' hdefinitions hgraph hfields
      hcondition
    have hscope : Scope.Twin P Q (c.scope g fields q) (c'.scope g' fields' q') :=
      ⟨hgraph.add (.node (.other rfl rfl)), hfields, hdefinitions⟩
    have htable' := htable'.trans htable
    have hlimit' := hlimit'.trans hlimit
    refine ⟨⟨?_, ?_⟩, ?_⟩
    · rintro ⟨sql, h⟩
      obtain ⟨sql', _, _, h', _⟩ := exists_compile_of_twin hregistry hregistry' hroom htable
        htable' hname hlimit hlimit' hscope hcondition h
      exact ⟨sql', h'⟩
    · rintro ⟨sql, h⟩
      obtain ⟨sql', _, _, h', _⟩ := exists_compile_of_twin hregistry' hregistry hroom.symm
        htable' htable hname hlimit' hlimit hscope.symm hcondition.symm h
      exact ⟨sql', h'⟩
    · intro sql sql' h h'
      obtain ⟨sql'', ts, ts', h'', hread, hread', htwin⟩ := exists_compile_of_twin hregistry
        hregistry' hroom htable htable' hname hlimit hlimit' hscope hcondition h
      obtain rfl : sql'' = sql' := by
        exact (Outcome.ok_inj.1 (h'.symm.trans h'')).symm
      exact ⟨ts, ts', hread, hread', htwin⟩

/-- A field compared with a text. -/
def comparison (t : String) : Graph :=
  ⟨#[.node (.field (.lit (.integer 1))), .tuple [.lit (.text t)],
    .node (.equal (.part 0) (.part 1))]⟩

/-- The columns of one field. -/
def oneColumn (name : String) : Fields := [(.lit (.integer 1), some name)]

theorem comparison_separates_data :
    ∃ sql sql' ts ts',
      compile {} (comparison "x") "postgres" (oneColumn "name") ⟨.part 2, .lit .null⟩ = .ok sql ∧
      compile {} (comparison "'; --") "postgres" (oneColumn "a\" OR \"b")
        ⟨.part 2, .lit .null⟩ = .ok sql' ∧
      Lexeme.read? '"' sql = some ts ∧ Lexeme.read? '"' sql' = some ts' ∧
      List.Forall₂ (Lexeme.Twin (fun t t' => t = "x" ∧ t' = "'; --")
        fun name name' => name = "name" ∧ name' = "a\" OR \"b") ts ts' := by
  have hmeans : (scope {} (comparison "x") (oneColumn "name") ⟨.part 2, .lit .null⟩).Means (.part 2)
      (some (.atom (.compare .equal (.column "name") (.text "x")))) :=
    .formula (.atom rfl)
  have htable : ({} : Compiler).table = tableOperand none := rfl
  have hlimit : Operand.lit .null = limitOperand none := rfl
  have hcompile := compile_of_means (b := .postgres) rfl htable hlimit (by simp) hmeans
  rw [if_pos (by decide)] at hcompile
  have hgraph : Graph.Twin (fun t t' => t = "x" ∧ t' = "'; --") (comparison "x")
      (comparison "'; --") :=
    ⟨.cons (.node (.field _)) (.cons (.tuple (.cons (.text ⟨rfl, rfl⟩) .nil))
      (.cons (.node (.equality false (.same _ (by simp)) (by simp [Operand.Repeats]))) .nil))⟩
  have hfields : Fields.Twin (fun name name' => name = "name" ∧ name' = "a\" OR \"b")
      (oneColumn "name") (oneColumn "a\" OR \"b") :=
    .cons ⟨rfl, .named (by decide) (by decide) ⟨rfl, rfl⟩⟩ .nil
  obtain ⟨hsuccess, hlexemes⟩ := (compile_separates_data (q := ⟨.part 2, .lit .null⟩) .postgres rfl
    htable (by simp) rfl).2 _ _ {} _ _ ⟨.part 2, .lit .null⟩ rfl rfl rfl rfl .nil hgraph hfields
    (.same _ (by simp))
  obtain ⟨sql', h'⟩ := hsuccess.1 ⟨_, hcompile⟩
  obtain ⟨ts, ts', hread, hread', htwin⟩ := hlexemes _ _ hcompile h'
  exact ⟨_, sql', ts, ts', hcompile, h', hread, hread', htwin⟩

end Compiler

end FilterCompiler
