import FilterCompiler.Proofs.Lookups
import FilterCompiler.Proofs.NumericLiteral
import FilterCompiler.Proofs.Parsing

/-! How literals are written in a statement. Proved here: each literal of a condition that is
compiled, wherever it stands and however many names lead to it, is written as one lexeme of its own
kind, and every word of the condition is a reserved one or a numeric literal exactly if all its
numbers are finite. The special values of floating point numbers and of decimals are written as
words that are names to SQL. -/

namespace FilterCompiler

/-! ### The lexemes of values -/

theorem Predicate.exists_of_mem_listed {values : List Term} {l : Lexeme} (h : l ∈ listed values) :
    l = .comma ∨ ∃ t ∈ values, t.lexeme = l := by
  cases values with
  | nil => cases h
  | cons y rest =>
    rcases List.mem_cons.1 h with rfl | h
    · exact .inr ⟨y, by simp, rfl⟩
    · obtain ⟨t, ht, h⟩ := List.mem_flatMap.1 h
      simp only [List.mem_cons, List.not_mem_nil, or_false] at h
      rcases h with rfl | rfl
      · exact .inl rfl
      · exact .inr ⟨t, by simp [ht], rfl⟩

/-- A word that a term is written as is a reserved one, unless it is a number. -/
theorem Term.eq_number_of_lexeme {t : Term} {w : String} (h : t.lexeme = .word w)
    (hw : w ∉ reserved) : t = .number w := by
  cases t with
  | null =>
    cases h
    exact absurd (by decide) hw
  | truth b =>
    cases h
    exact absurd (by cases b <;> decide) hw
  | number shown =>
    cases h
    rfl
  | text _ | column _ => cases h

theorem Predicate.number_mem_terms {p : Predicate} {w : String} (h : .word w ∈ p.lexemes)
    (hw : w ∉ reserved) : .number w ∈ p.terms := by
  have hterm {t : Term} (ht : t ∈ p.terms) (hword : t.lexeme = .word w) : .number w ∈ p.terms :=
    t.eq_number_of_lexeme hword hw ▸ ht
  have hne {u : String} (hu : u ∈ reserved) : w ≠ u := fun heq => hw (heq ▸ hu)
  cases p with
  | compare sign l r =>
    simp only [lexemes, List.mem_cons, List.not_mem_nil, or_false] at h
    rcases h with h | h | h
    · exact hterm (by simp [terms]) h.symm
    · cases h
      exact absurd (by cases sign <;> decide) hw
    · exact hterm (by simp [terms]) h.symm
  | among negated x values =>
    rw [lexemes, List.mem_cons, List.mem_append, List.mem_append] at h
    rcases h with h | (h | h) | h
    · exact hterm (by simp [terms]) h.symm
    · cases negated <;> simp [hne (u := "NOT") (by decide), hne (u := "IN") (by decide)] at h
    · rcases exists_of_mem_listed h with h | ⟨t, ht, h⟩
      · cases h
      · exact hterm (by simp [terms, ht]) h
    · simp at h
  | isNull negated x =>
    rw [lexemes, List.mem_cons] at h
    rcases h with h | h
    · exact hterm (by simp [terms]) h.symm
    · cases negated <;> simp [hne (u := "IS") (by decide), hne (u := "NOT") (by decide),
        hne (u := "NULL") (by decide)] at h
  | column name => simp [lexemes] at h

namespace Formula

theorem mem_parenthesized {needed : Bool} {ts : List Lexeme} {t : Lexeme} (h : t ∈ ts) :
    t ∈ parenthesized needed ts := by
  cases needed <;> simp [parenthesized, h]

/-- Parentheses are no words. -/
theorem word_mem_of_parenthesized {needed : Bool} {ts : List Lexeme} {w : String}
    (h : .word w ∈ parenthesized needed ts) : .word w ∈ ts := by
  cases needed <;> simpa [parenthesized] using h

theorem number_mem_terms {f : Formula} {w : String} (h : .word w ∈ f.lexemes)
    (hw : w ∉ reserved) : .number w ∈ f.terms := by
  induction f with
  | atom p => exact p.number_mem_terms h hw
  | join k f g ihf ihg =>
    rw [lexemes, List.mem_append, List.mem_append, List.mem_singleton] at h
    rw [terms, List.mem_append]
    rcases h with (h | h) | h
    · exact .inl (ihf (word_mem_of_parenthesized h))
    · cases h
      exact absurd (by cases k <;> decide) hw
    · exact .inr (ihg (word_mem_of_parenthesized h))
  | not f ih =>
    have hne : w ≠ "NOT" := fun heq => hw (heq ▸ by decide)
    exact ih (by simpa [lexemes, hne] using h)
  | named f ih => exact ih h

end Formula

/-! ### The values of a condition -/

namespace Scope

/-- A value stands in a condition or in one that a name in it leads to. -/
def HasValue (s : Scope) (x v : Operand) : Prop := ∃ y, s.Reaches x y ∧ v ∈ s.graph.valuesAt y

variable {s : Scope} {x y v : Operand} {f : Formula}

theorem HasValue.of_edge (hxy : s.Edge x y) (h : s.HasValue y v) : s.HasValue x v := by
  obtain ⟨z, hyz, hv⟩ := h
  exact ⟨z, .head hxy hyz, hv⟩

theorem HasValue.at_or_below (h : s.HasValue x v) :
    v ∈ s.graph.valuesAt x ∨ ∃ y ∈ s.below x, s.HasValue y v := by
  obtain ⟨z, hxz, hv⟩ := h
  rcases hxz.cases_head with rfl | ⟨y, hxy, hyz⟩
  · exact .inl hv
  · exact .inr ⟨y, hxy, z, hyz, hv⟩

/-- Where conditions stand right below, values stand below these. -/
theorem HasValue.below {shape : Shape} (h : s.HasValue x v) (hshape : s.shape x = .ok shape)
    (hbelow : shape.below ≠ []) : ∃ y ∈ shape.below, s.HasValue y v := by
  rcases h.at_or_below with h | h
  · rw [valuesAt_of_shape hshape hbelow] at h
    cases h
  · rwa [below_of_shape hshape] at h

/-- What a condition stands for has a lexeme for each of its values. -/
theorem Stands.exists_term (h : s.Stands x f) (hv : s.HasValue x v) :
    ∃ t, s.term v = .ok t ∧ t.lexeme ∈ f.lexemes := by
  induction h with
  | atom shape =>
    obtain ⟨ts, hts, _, hlexemes⟩ := terms_of_shape shape
    rcases hv.at_or_below with hv | ⟨y, hy, _⟩
    · obtain ⟨t, ht, hterm⟩ := exists_of_forall₂ (mapM_eq_ok_iff.1 hts) hv
      exact ⟨t, hterm, hlexemes t ht⟩
    · rw [below_of_shape shape] at hy
      cases hy
  | join shape _ _ ihl ihr =>
    obtain ⟨y, hy, hv⟩ := hv.below shape (by simp [Shape.below])
    simp only [Shape.below, List.mem_cons, List.not_mem_nil, or_false] at hy
    rcases hy with rfl | rfl
    · obtain ⟨t, hterm, ht⟩ := ihl hv
      exact ⟨t, hterm, by simp [Formula.lexemes, Formula.mem_parenthesized ht]⟩
    · obtain ⟨t, hterm, ht⟩ := ihr hv
      exact ⟨t, hterm, by simp [Formula.lexemes, Formula.mem_parenthesized ht]⟩
  | not shape _ ih =>
    obtain ⟨y, hy, hv⟩ := hv.below shape (by simp [Shape.below])
    obtain rfl := List.mem_singleton.1 hy
    obtain ⟨t, hterm, ht⟩ := ih hv
    exact ⟨t, hterm, by simp [Formula.lexemes, ht]⟩
  | named shape _ ih =>
    obtain ⟨y, hy, hv⟩ := hv.below shape (by simp [Shape.below])
    obtain rfl := List.mem_singleton.1 hy
    exact ih hv

/-- Every term of what a condition stands for is that of one of its values. -/
theorem Stands.exists_value (h : s.Stands x f) {t : Term} (ht : t ∈ f.terms) :
    ∃ v, s.HasValue x v ∧ s.term v = .ok t := by
  have below {x y : Operand} {shape : Shape} (hshape : s.shape x = .ok shape)
      (hy : y ∈ shape.below) (h : ∃ v, s.HasValue y v ∧ s.term v = .ok t) :
      ∃ v, s.HasValue x v ∧ s.term v = .ok t := by
    obtain ⟨v, hv, hterm⟩ := h
    exact ⟨v, hv.of_edge (.of_shape hshape hy), hterm⟩
  induction h with
  | @atom x p shape =>
    obtain ⟨ts, hts, hterms, _⟩ := terms_of_shape shape
    obtain ⟨v, hv, hterm⟩ := exists_of_forall₂ (mapM_eq_ok_iff.1 hts).flip (hterms t ht)
    exact ⟨v, ⟨x, .refl, hv⟩, hterm⟩
  | join shape _ _ ihl ihr =>
    rcases List.mem_append.1 ht with ht | ht
    · exact below shape (by simp [Shape.below]) (ihl ht)
    · exact below shape (by simp [Shape.below]) (ihr ht)
  | not shape _ ih | named shape _ ih => exact below shape (by simp [Shape.below]) (ih ht)

end Scope

/-! ### Literals -/

/-- A literal is written as a lexeme of its own kind: a number as a word, which is a numeric
literal or, for the special values, a name with perhaps a minus sign. -/
inductive Literal.IsWrittenAs : Literal → Lexeme → Prop where
  | null : IsWrittenAs .null (.word "NULL")
  | truth (b : Bool) : IsWrittenAs (.truth b) (.word (if b then "TRUE" else "FALSE"))
  | text (t : String) : IsWrittenAs (.text t) (.text t)
  | number {v : Literal} {w : String} (isNumber : v.isNumber = true)
      (finite : v.isFinite = true) (numeric : IsNumericLiteral w.toList) : IsWrittenAs v (.word w)
  | special {v : Literal} {w : String} (isNumber : v.isNumber = true)
      (infinite : v.isFinite = false) (name : IsSignedName w.toList) : IsWrittenAs v (.word w)

namespace Literal

variable {v : Literal}

theorem isNumber_of_isFinite_eq_false (h : v.isFinite = false) : v.isNumber = true := by
  cases v <;> first | rfl | cases h

theorem isWrittenAs_of_plain? (hnumber : v.isNumber = true) {w : String}
    (h : v.plain? = some w) : v.IsWrittenAs (.word w) := by
  cases hfinite : v.isFinite with
  | true => exact .number hnumber hfinite (isLayout_of_plain? hnumber hfinite h).isNumericLiteral
  | false => exact .special hnumber hfinite (isSignedName_of_plain? hfinite h)

end Literal

namespace Scope

variable {s : Scope} {x : Operand} {v : Literal} {t : Term}

theorem isWrittenAs_of_term (h : s.term (.lit v) = .ok t) : v.IsWrittenAs t.lexeme := by
  by_cases hnumber : v.isNumber = true
  · obtain ⟨w, rfl, hw⟩ := exists_word_of_isNumber hnumber h
    exact Literal.isWrittenAs_of_plain? hnumber hw
  · cases v with
    | null =>
      cases h
      exact .null
    | truth b =>
      cases h
      exact .truth b
    | text t =>
      cases h
      exact .text t
    | bytes _ | day _ | moment _ => cases h
    | integer _ | float _ | decimal _ => exact absurd rfl hnumber

/-- The words of a condition are reserved ones and numeric literals just if its numbers are
finite. -/
theorem Stands.words_iff {f : Formula} (hf : s.Stands x f) :
    (∀ w, .word w ∈ f.lexemes → w ∈ reserved ∨ IsNumericLiteral w.toList) ↔
      ∀ v, s.HasValue x (.lit v) → v.isFinite = true := by
  constructor
  · intro hwords v hv
    obtain ⟨t, hterm, ht⟩ := hf.exists_term hv
    by_contra hspecial
    have hnumber := Literal.isNumber_of_isFinite_eq_false (Bool.eq_false_iff.2 hspecial)
    obtain ⟨w, rfl, hw⟩ := exists_word_of_isNumber hnumber hterm
    rcases hwords w ht with hreserved | hnumeric
    · exact IsNumeral.not_mem_reserved (wellShown_of_term hterm) hreserved
    · exact hspecial ((Literal.isNumericLiteral_iff hnumber hw).1 hnumeric)
  · intro hfinite w hw
    refine or_iff_not_imp_left.2 fun hreserved => ?_
    obtain ⟨x, hx, hterm⟩ := hf.exists_value (f.number_mem_terms hw hreserved)
    obtain ⟨v, rfl, hnumber, hshown⟩ := exists_number_of_term hterm
    exact (Literal.isNumericLiteral_iff hnumber hshown).2 (hfinite v hx)

end Scope

/-! ### Compiled conditions -/

namespace Compiler

variable {c : Compiler} {g : Graph} {fields : Fields} {q : Query} {table : Option String}
  {limit : Option Nat}

/-- Each literal of a compiled condition is written as one lexeme of its own kind, which is a lexeme
of the condition. All words of the condition are reserved ones and numeric literals, so that none is
a name, exactly if no literal is a special value. -/
theorem compile_writes_literals (b : BuiltIn) (hregistry : c.registry = .builtin)
    (htable : c.table = tableOperand table) (hlimit : q.limit = limitOperand limit)
    (hcondition : q.condition ≠ .lit .null) {sql : String}
    (h : c.compile g b.name fields q = .ok sql) :
    ∃ text lexemes,
      sql = b.frame (namedTable table) (limit.map fun n => Integer.text n) (some text) ++ ";" ∧
      Lexeme.read? b.mark text = some lexemes ∧
      (∀ v, (c.scope g fields q).HasValue q.condition (.lit v) → ∃ shown t,
        b.dialect.formatValue (c.scope g fields q) (.lit v) = .ok shown ∧
        Lexeme.read? b.mark shown = some [t] ∧ t ∈ lexemes ∧ v.IsWrittenAs t) ∧
      ((∀ w, .word w ∈ lexemes → w ∈ reserved ∨ IsNumericLiteral w.toList) ↔
        ∀ v, (c.scope g fields q).HasValue q.condition (.lit v) → v.isFinite = true) := by
  obtain ⟨shown, condition, hshown, hexpress, rfl⟩ :=
    exists_frame_of_compile hregistry htable hlimit h
  rw [conditionText, if_neg hcondition, map_eq_ok_iff] at hexpress
  obtain ⟨text, hexpress, rfl⟩ := hexpress
  obtain ⟨f, hf, _, rfl⟩ := Scope.express_eq_ok_iff.1 hexpress
  refine ⟨_, f.lexemes, by rw [eq_of_limitText hshown], f.read?_write b hf.wellShown,
    fun v hv => ?_, hf.words_iff⟩
  obtain ⟨t, hterm, ht⟩ := hf.exists_term hv
  exact ⟨_, _, by rw [b.formatValue_eq, hterm]; rfl,
    t.read?_write b (Scope.wellShown_of_term hterm), ht, Scope.isWrittenAs_of_term hterm⟩

/-- A field compared with one literal of each kind. -/
def kinds : Graph :=
  ⟨#[.node (.field (.lit (.integer 1))),
    .tuple [.lit .null, .lit (.truth true), .lit (.text "a"), .lit (.integer (-20)),
      .lit (.float (.finite false 5 (-1))), .lit (.decimal (.finite ⟨true, 25, 8⟩))],
    .node (.equal (.part 0) (.part 1))]⟩

/-- The column of the field. -/
def kindsFields : Fields := [(.lit (.integer 1), some "x")]

def kindsScope : Scope := scope {} kinds kindsFields ⟨.part 2, .lit .null⟩

def kindsText : String := "\"x\" IN (NULL, TRUE, 'a', -20, 2.5, -2.5E+9)"

theorem kinds_writes_literals :
    compile {} kinds "postgres" kindsFields ⟨.part 2, .lit .null⟩ =
        .ok ("SELECT * WHERE " ++ kindsText ++ ";") ∧
      ∃ text lexemes, "SELECT * WHERE " ++ kindsText ++ ";" =
          BuiltIn.postgres.frame none none (some text) ++ ";" ∧
        Lexeme.read? '"' text = some lexemes ∧
        ∀ v, kindsScope.HasValue (.part 2) (.lit v) → ∃ t ∈ lexemes, v.IsWrittenAs t := by
  have hcompile : compile {} kinds "postgres" kindsFields ⟨.part 2, .lit .null⟩ =
      .ok ("SELECT * WHERE " ++ kindsText ++ ";") := by
    decide +kernel
  have htable : ({} : Compiler).table = tableOperand none := rfl
  have hlimit : Operand.lit .null = limitOperand none := rfl
  obtain ⟨text, lexemes, hsql, hread, hliterals, _⟩ := compile_writes_literals
    (q := ⟨.part 2, .lit .null⟩) .postgres rfl htable hlimit (by simp) hcompile
  refine ⟨hcompile, text, lexemes, hsql, hread, fun v hv => ?_⟩
  obtain ⟨_, t, _, _, ht, hwritten⟩ := hliterals v hv
  exact ⟨t, ht, hwritten⟩

/-- A raw form that compares a field with a not-a-number. -/
def notANumber : Graph :=
  ⟨#[.list [.lit (.text "field"), .lit (.integer 1)],
    .list [.lit (.text "="), .part 0, .lit (.float (.nan 0))]]⟩

/-- What is read from it. -/
def notANumberRead : Graph :=
  ⟨notANumber.parts ++ #[.node (.field (.lit (.integer 1))), .tuple [.lit (.float (.nan 0))],
    .node (.equal (.part 2) (.part 3))]⟩

/-- A not-a-number is accepted and is written as a name. -/
theorem not_a_number_as_name :
    RawForm.read [] notANumber (.part 1) = .ok (.part 4, notANumberRead) ∧
      (scope {} notANumberRead kindsFields ⟨.part 4, .lit .null⟩).HasValue (.part 4)
        (.lit (.float (.nan 0))) ∧
      compile {} notANumberRead "postgres" kindsFields ⟨.part 4, .lit .null⟩ =
        .ok "SELECT * WHERE \"x\" = nan;" ∧
      IsBareName "nan".toList ∧ ¬ IsNumericLiteral "nan".toList := by
  have hname : IsBareName "nan".toList := .letters (by decide) (by decide)
  have hroom : nestingLimit = 399 + 1 := rfl
  have hitems : notANumber.items? (.part 1) =
      some [.lit (.text "="), .part 0, .lit (.float (.nan 0))] := rfl
  have hread : RawForm.read [] notANumber (.part 1) = .ok (.part 4, notANumberRead) := by
    rw [RawForm.read_of_items hroom hitems]
    rfl
  refine ⟨hread, ⟨.part 4, .refl, by decide⟩, by decide +kernel, hname, fun h => ?_⟩
  exact h.not_isSignedName ⟨false, _, rfl, hname⟩

end Compiler

end FilterCompiler
