import FilterCompiler.Proofs.Lexeme
import FilterCompiler.Proofs.NumberText
import FilterCompiler.Proofs.Walk

/-! The lexemes of formulas. Proved here: the text of a formula is read as its lexemes, so long
as its numbers have the texts of numbers, and what an operand stands for has no others. -/

namespace FilterCompiler

/-! ### Lexemes of a formula -/

def Term.lexeme : Term → Lexeme
  | .null => .word "NULL"
  | .truth b => .word (if b then "TRUE" else "FALSE")
  | .text t => .text t
  | .number shown => .word shown
  | .column name => .name name

def Sign.word : Sign → String
  | .less => "<"
  | .greater => ">"
  | .equal => "="
  | .unequal => "<>"

def Connective.word : Connective → String
  | .and => "AND"
  | .or => "OR"

namespace Predicate

/-- Values with commas between them. -/
def listed : List Term → List Lexeme
  | [] => []
  | x :: rest => x.lexeme :: rest.flatMap fun y => [.comma, y.lexeme]

def lexemes : Predicate → List Lexeme
  | compare sign l r => [l.lexeme, .word sign.word, r.lexeme]
  | among negated x values =>
    x.lexeme ::
      ((if negated then [.word "NOT", .word "IN", .opening] else [.word "IN", .opening]) ++
        listed values ++ [.closing])
  | isNull negated x =>
    x.lexeme :: if negated then [.word "IS", .word "NOT", .word "NULL"]
      else [.word "IS", .word "NULL"]
  | column name => [.name name]

/-- The values and columns in a predicate. -/
def terms : Predicate → List Term
  | compare _ l r => [l, r]
  | among _ x values => x :: values
  | isNull _ x => [x]
  | column name => [.column name]

variable {x t : Term} {values : List Term}

theorem lexeme_mem_listed (h : t ∈ values) : t.lexeme ∈ listed values := by
  cases values with
  | nil => cases h
  | cons y rest =>
    rcases List.mem_cons.1 h with rfl | h
    · simp [listed]
    · exact List.mem_cons_of_mem _ (List.mem_flatMap.2 ⟨t, h, by simp⟩)

theorem lexeme_mem {p : Predicate} (h : t ∈ p.terms) : t.lexeme ∈ p.lexemes := by
  cases p with
  | compare sign l r =>
    simp only [terms, List.mem_cons, List.not_mem_nil, or_false] at h
    rcases h with rfl | rfl <;> simp [lexemes]
  | among negated x values =>
    rcases List.mem_cons.1 h with rfl | h
    · simp [lexemes]
    · simp [lexemes, lexeme_mem_listed h]
  | isNull negated x =>
    obtain rfl := List.mem_singleton.1 h
    simp [lexemes]
  | column name =>
    obtain rfl := List.mem_singleton.1 h
    simp [lexemes, Term.lexeme]

/-- In a null check NULL is a word of the check itself. -/
theorem lexeme_mem_membership (negated : Bool) (h : t ∈ x :: values) :
    t.lexeme ∈ (membership negated x values).lexemes := by
  unfold membership
  split
  · simp only [List.mem_cons, List.not_mem_nil, or_false] at h
    rcases h with rfl | rfl
    · simp [lexemes]
    · cases negated <;> simp [lexemes, Term.lexeme]
  · exact lexeme_mem (by simpa [terms] using h)
  · exact lexeme_mem (by simpa [terms] using h)

end Predicate

namespace Formula

/-- Lexemes in parentheses if need be. -/
def parenthesized (needed : Bool) (ts : List Lexeme) : List Lexeme :=
  if needed then .opening :: ts ++ [.closing] else ts

def lexemes : Formula → List Lexeme
  | atom p => p.lexemes
  | join k l r =>
    parenthesized l.isJunction l.lexemes ++ [.word k.word] ++ parenthesized r.isJunction r.lexemes
  | not f => [.word "NOT", .opening] ++ f.lexemes ++ [.closing]
  | named f => f.lexemes

/-- The values and columns in a formula. -/
def terms : Formula → List Term
  | atom p => p.terms
  | join _ l r => l.terms ++ r.terms
  | not f | named f => f.terms

end Formula

/-- A number has the text of one. -/
def Term.WellShown : Term → Prop
  | .number shown => IsNumeral shown.toList
  | _ => True

/-! ### Reading the lexemes of a formula -/

open Lexeme (read? read?_word read?_quote read?_append read?_between read?_around
  read?_intercalate)

section

variable (b : BuiltIn)

theorem BuiltIn.mark_eq : b.mark = '"' ∨ b.mark = '\x60' := by
  cases b <;> decide

/-- Letters, digits and what else stands in numbers are letters of words. -/
theorem BuiltIn.isBare {c : Char} (hc : c.isAlphanum = true ∨ c = '.' ∨ c = '+' ∨ c = '-') :
    Lexeme.IsBare b.mark c := by
  refine ⟨?_, ?_, ?_⟩
  · cases h : Lexeme.isDelimiter c with
    | false => rfl
    | true =>
      simp only [Lexeme.isDelimiter, List.contains_eq_mem, List.mem_cons, List.not_mem_nil,
        or_false, decide_eq_true_eq] at h
      rcases h with rfl | rfl | rfl | rfl | rfl <;> revert hc <;> decide
  · rintro rfl
    revert hc
    decide
  · rintro rfl
    rcases b.mark_eq with h | h <;> rw [h] at hc <;> revert hc <;> decide

theorem IsNumeral.read? {shown : String} (h : IsNumeral shown.toList) :
    read? b.mark shown = some [.word shown] := by
  refine read?_word ?_ fun c hc => b.isBare (h.mem hc)
  rintro rfl
  exact h.ne_nil rfl

theorem Term.read?_write (t : Term) (h : t.WellShown) :
    read? b.mark (t.write b.mark) = some [t.lexeme] := by
  cases t with
  | null => cases b <;> rfl
  | truth v => cases b <;> cases v <;> rfl
  | text t => exact read?_quote (.inl rfl) (by decide) t
  | number shown => exact IsNumeral.read? b h
  | column name =>
    have hmark : b.mark ≠ '\'' := by cases b <;> decide
    have hdelimiter : Lexeme.isDelimiter b.mark = false := by cases b <;> decide
    have := @read?_quote b.mark b.mark (.inr rfl) hdelimiter name
    rw [if_neg hmark] at this
    exact this

theorem Predicate.read?_write (p : Predicate) (h : ∀ t ∈ p.terms, t.WellShown) :
    read? b.mark (p.write b.mark) = some p.lexemes := by
  cases p with
  | compare sign l r =>
    have hl := l.read?_write b (h l (by simp [terms]))
    have hr := r.read?_write b (h r (by simp [terms]))
    have hs : read? b.mark sign.write = some [.word sign.word] := by
      cases b <;> cases sign <;> rfl
    exact read?_between hl hs hr (by cases sign <;> decide)
  | among negated x values =>
    have hx := x.read?_write b (h x (by simp [terms]))
    have hvalues : read? b.mark (", ".intercalate (values.map (Term.write b.mark))) =
        some (listed values) := by
      cases values with
      | nil => cases b <;> rfl
      | cons y rest =>
        have hcomma : read? b.mark ", " = some [.comma] := by cases b <;> rfl
        exact read?_intercalate hcomma (by decide) y rest fun t ht =>
          t.read?_write b (h t (by simp [terms, ht]))
    have hopening : read? b.mark (if negated then " NOT IN (" else " IN (") =
        some (if negated then [.word "NOT", .word "IN", .opening] else [.word "IN", .opening]) := by
      cases b <;> cases negated <;> rfl
    have hclosing : read? b.mark ")" = some [.closing] := by cases b <;> rfl
    have := read?_append (read?_between hx hopening hvalues (by cases negated <;> decide))
      hclosing (.inr (by decide))
    simpa [write, lexemes, List.append_assoc] using this
  | isNull negated x =>
    have hx := x.read?_write b (h x (by simp [terms]))
    have hnull : read? b.mark (if negated then " IS NOT NULL" else " IS NULL") =
        some (if negated then [.word "IS", .word "NOT", .word "NULL"]
          else [.word "IS", .word "NULL"]) := by
      cases b <;> cases negated <;> rfl
    exact read?_append hx hnull (.inr (by cases negated <;> decide))
  | column name => exact (Term.column name).read?_write b trivial

theorem Formula.read?_enclosed {needed : Bool} {text : String} {ts : List Lexeme}
    (h : read? b.mark text = some ts) :
    read? b.mark (enclosed needed text) = some (parenthesized needed ts) := by
  cases needed with
  | false => exact h
  | true =>
    have hopening : read? b.mark "(" = some [.opening] := by cases b <;> rfl
    have hclosing : read? b.mark ")" = some [.closing] := by cases b <;> rfl
    exact read?_around hopening h hclosing (by decide)

/-- The text of a formula is read as its lexemes. -/
theorem Formula.read?_write (f : Formula) (h : ∀ t ∈ f.terms, t.WellShown) :
    read? b.mark (f.write b.mark) = some f.lexemes := by
  induction f with
  | atom p => exact p.read?_write b h
  | join k l r ihl ihr =>
    have hl := ihl fun t ht => h t (by simp [terms, ht])
    have hr := ihr fun t ht => h t (by simp [terms, ht])
    have hk : read? b.mark k.write = some [.word k.word] := by cases b <;> cases k <;> rfl
    exact read?_between (read?_enclosed b hl) hk (read?_enclosed b hr) (by cases k <;> decide)
  | not f ih =>
    have hnot : read? b.mark "NOT (" = some [.word "NOT", .opening] := by cases b <;> rfl
    have hclosing : read? b.mark ")" = some [.closing] := by cases b <;> rfl
    exact read?_around hnot (ih h) hclosing (by decide)
  | named f ih => exact ih h

end

/-! ### What an operand stands for -/

/-- The operands that are written as values right at an operand. -/
def Graph.valuesAt (g : Graph) (x : Operand) : List Operand :=
  match g.node? x with
  | some (.lessThan l r) | some (.greaterThan l r) => [l, r]
  | some (.equal y values) | some (.notEqual y values) => y :: (g.elements? values).getD []
  | some (.isEmpty y) | some (.notEmpty y) => [y]
  | some (.field _) => [x]
  | _ => []

namespace Scope

variable {s : Scope} {x y : Operand}

theorem exists_word_of_isNumber {v : Literal} {t : Term} (hnumber : v.isNumber = true)
    (h : s.term (.lit v) = .ok t) : ∃ w, t = .number w ∧ v.plain? = some w := by
  have hterm : s.term (.lit v) = (s.text (.lit v)).map .number := by
    cases v <;> first | rfl | cases hnumber
  rw [hterm, map_eq_ok_iff, text_lit] at h
  obtain ⟨w, hw, rfl⟩ := h
  refine ⟨w, rfl, ?_⟩
  split at hw
  · next hplain => rw [hplain, Except.ok.inj hw]
  · cases hw

/-- Only numbers are written as the words of numbers. -/
theorem exists_number_of_term {w : String} (h : s.term x = .ok (.number w)) :
    ∃ v : Literal, x = .lit v ∧ v.isNumber = true ∧ v.plain? = some w := by
  cases x with
  | part n =>
    simp only [term] at h
    split at h
    · obtain ⟨name, _, hname⟩ := map_eq_ok_iff.1 h
      cases hname
    · cases h
  | lit v =>
    have hnumber : v.isNumber = true := by cases v <;> first | rfl | cases h
    obtain ⟨_, heq, hshown⟩ := exists_word_of_isNumber hnumber h
    cases heq
    exact ⟨v, rfl, hnumber, hshown⟩

/-- A number is shown as a number. -/
theorem wellShown_of_term {t : Term} (h : s.term x = .ok t) : t.WellShown := by
  cases t with
  | number w =>
    obtain ⟨v, _, hnumber, hshown⟩ := exists_number_of_term h
    exact Literal.isNumeral_of_plain? hnumber hshown
  | null | truth _ | text _ | column _ => trivial

/-- Comparing with one value or with several, a predicate holds the same terms, or none where
it is a null check. -/
theorem mem_of_mem_membership {negated : Bool} {x t : Term} {values : List Term}
    (h : t ∈ (Predicate.membership negated x values).terms) : t ∈ x :: values := by
  unfold Predicate.membership at h
  split at h
  · simp only [Predicate.terms, List.mem_singleton] at h
    simp [h]
  · simpa [Predicate.terms] using h
  · simpa [Predicate.terms] using h

theorem terms_of_membership {negated : Bool} {values : Operand} {p : Predicate}
    (h : s.membership negated y values = .ok p) :
    ∃ ts, (y :: (s.graph.elements? values).getD []).mapM s.term = .ok ts ∧
      (∀ t ∈ p.terms, t ∈ ts) ∧ ∀ t ∈ ts, t.lexeme ∈ p.lexemes := by
  obtain ⟨u, hu, h⟩ := bind_eq_ok_iff.1 h
  obtain ⟨items, hitems, h⟩ := bind_eq_ok_iff.1 h
  obtain ⟨us, hus, h⟩ := bind_eq_ok_iff.1 h
  cases h
  have helements : s.graph.elements? values = some items := by
    unfold Dialect.valuesOf at hitems
    split at hitems
    · next vs hvs => rw [hvs, Except.ok.inj hitems]
    · cases hitems
  refine ⟨u :: us, ?_, fun _ => mem_of_mem_membership,
    fun _ => Predicate.lexeme_mem_membership negated⟩
  rw [helements, Option.getD_some, List.mapM_cons, hu, hus]
  rfl

/-- The values right at a predicate have terms. All terms of the predicate are of them, and the
lexemes of all are in it. -/
theorem terms_of_shape {p : Predicate} (h : s.shape x = .ok (.atom p)) :
    ∃ ts, (s.graph.valuesAt x).mapM s.term = .ok ts ∧ (∀ t ∈ p.terms, t ∈ ts) ∧
      ∀ t ∈ ts, t.lexeme ∈ p.lexemes := by
  -- other than for memberships, the terms are those of the values one by one
  have same (hts : (s.graph.valuesAt x).mapM s.term = .ok p.terms) :
      ∃ ts, (s.graph.valuesAt x).mapM s.term = .ok ts ∧ (∀ t ∈ p.terms, t ∈ ts) ∧
        ∀ t ∈ ts, t.lexeme ∈ p.lexemes :=
    ⟨_, hts, fun _ => id, fun _ => Predicate.lexeme_mem⟩
  unfold Scope.shape at h
  unfold Graph.valuesAt at same ⊢
  cases hn : s.graph.node? x with
  | none => simp [hn] at h
  | some n =>
    rw [hn] at same
    cases n <;> simp only [hn, bind_eq_ok_iff, pure_eq_ok, throw_eq_error, Except.ok.injEq,
      reduceCtorEq, Shape.atom.injEq, and_false, exists_false] at h
    case lessThan | greaterThan =>
      obtain ⟨t, ht, u, hu, rfl⟩ := h
      exact same (by simp [ht, hu, Predicate.terms])
    case equal | notEqual =>
      obtain ⟨q, hq, rfl⟩ := h
      exact terms_of_membership hq
    case isEmpty | notEmpty =>
      obtain ⟨t, ht, rfl⟩ := h
      exact same (by simp [ht, Predicate.terms])
    case field =>
      obtain ⟨name, hname, rfl⟩ := h
      have hterm : s.term x = .ok (.column name) := by rw [term_of_field hn, hname]; rfl
      exact same (by simp [hterm, Predicate.terms])

theorem wellShown_of_shape {p : Predicate} (h : s.shape x = .ok (.atom p)) :
    ∀ t ∈ p.terms, t.WellShown := by
  obtain ⟨ts, hts, hterms, _⟩ := terms_of_shape h
  intro t ht
  obtain ⟨v, _, hterm⟩ := exists_of_forall₂ (mapM_eq_ok_iff.1 hts).flip (hterms t ht)
  exact wellShown_of_term hterm

/-- The numbers in what an operand stands for are shown as numbers. -/
theorem Stands.wellShown {f : Formula} (h : s.Stands x f) : ∀ t ∈ f.terms, t.WellShown := by
  induction h with
  | atom shape => exact wellShown_of_shape shape
  | join _ _ _ ihl ihr =>
    intro t ht
    rcases List.mem_append.1 ht with ht | ht
    · exact ihl t ht
    · exact ihr t ht
  | not _ _ ih => exact ih
  | named _ _ ih => exact ih

end Scope

end FilterCompiler
