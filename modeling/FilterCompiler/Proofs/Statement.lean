import FilterCompiler.Proofs.Reader

/-! Statements. A built-in dialect writes a statement as clauses with blanks between them, the
limit at the head or at the end, and a semicolon follows. A reader of statements takes the clauses
apart again. Proved here: what it reads is the table, the condition and the limit that were
written. -/

namespace FilterCompiler

/-- What a statement says: from where, on which condition and how many rows. -/
structure Statement where
  table : Option String
  condition : Option Formula
  limit : Option Nat
deriving DecidableEq, Repr

/-- One clause of a statement. -/
inductive Clause where
  | select
  | all
  | source (table : String)
  | condition (formula : Formula)
  | limit (atHead : Bool) (rows : Nat)

namespace Clause

/-- The keyword of a limit. -/
def limitWord (atHead : Bool) : String := if atHead then "TOP" else "LIMIT"

def write (mark : Char) : Clause → String
  | select => "SELECT"
  | all => "*"
  | source t => "FROM " ++ t
  | condition f => "WHERE " ++ f.write mark
  | limit atHead n => limitWord atHead ++ " " ++ Integer.text n

def lexemes : Clause → List Lexeme
  | select => [.word "SELECT"]
  | all => [.word "*"]
  | source t => [.word "FROM", .word t]
  | condition f => .word "WHERE" :: f.lexemes
  | limit atHead n => [.word (limitWord atHead), .word (Integer.text n)]

end Clause

/-- Whether the limit stands at the head of a statement. -/
def BuiltIn.limitAtHead : BuiltIn → Bool
  | sqlserver => true
  | _ => false

namespace Statement

def limits (atHead : Bool) (st : Statement) : List Clause :=
  st.limit.toList.map (.limit atHead)

/-- The clauses of a statement behind what is selected, without the limit. -/
def tail (st : Statement) : List Clause :=
  st.table.toList.map .source ++ st.condition.toList.map .condition

/-- The clauses behind the first. -/
def clauses (b : BuiltIn) (st : Statement) : List Clause :=
  if b.limitAtHead then st.limits true ++ .all :: st.tail else .all :: (st.tail ++ st.limits false)

/-- A statement in writing, without its semicolon. -/
def write (b : BuiltIn) (st : Statement) : String :=
  " ".intercalate ((Clause.select :: st.clauses b).map (Clause.write b.mark))

def lexemes (b : BuiltIn) (st : Statement) : List Lexeme :=
  (Clause.select :: st.clauses b).flatMap Clause.lexemes ++ [.semicolon]

end Statement

/-- A plain name: letters and digits of any script, and underscores. -/
def IsIdentifier (t : String) : Prop :=
  t ≠ "" ∧ ∀ c ∈ t.toList, c.isAlphanum = true ∨ c = '_' ∨ 128 ≤ c.toNat

theorem isIdentifier_of_all {t : String} (hne : t ≠ "")
    (h : (t.toList.all Char.isAlphanum) = true) : IsIdentifier t :=
  ⟨hne, fun c hc => .inl (List.all_eq_true.1 h c hc)⟩

/-! ### The lexemes of a statement -/

section

open Lexeme (read? read?_word read?_append read?_between read?_intercalate)

variable (b : BuiltIn)

theorem IsIdentifier.read? {t : String} (h : IsIdentifier t) :
    read? b.mark t = some [.word t] := by
  refine read?_word h.1 fun c hc => ?_
  rcases h.2 c hc with hc | rfl | hc
  · exact b.isBare (.inl hc)
  · cases b <;> exact ⟨by decide, by decide, by decide⟩
  · have hne {d : Char} (hd : d.toNat < 128) : c ≠ d := by
      rintro rfl
      omega
    refine ⟨?_, hne (by decide), ?_⟩
    · simp [Lexeme.isDelimiter, hne]
    · exact hne (by cases b <;> decide)

theorem isNumeral_text (n : Nat) : IsNumeral (Integer.text n).toList := by
  simpa [Integer.text] using isNumeral_integer n

theorem Clause.read?_write (c : Clause) (htable : ∀ t, c = .source t → IsIdentifier t)
    (hterms : ∀ f, c = .condition f → ∀ t ∈ f.terms, t.WellShown) :
    read? b.mark (c.write b.mark) = some c.lexemes := by
  cases c with
  | select => cases b <;> rfl
  | all => cases b <;> rfl
  | source t =>
    have hfrom : read? b.mark "FROM " = some [.word "FROM"] := by cases b <;> rfl
    exact read?_append hfrom ((htable t rfl).read? b) (.inl (by decide))
  | condition f =>
    have hwhere : read? b.mark "WHERE " = some [.word "WHERE"] := by cases b <;> rfl
    exact read?_append hwhere (f.read?_write b (hterms f rfl)) (.inl (by decide))
  | limit atHead n =>
    have hword : read? b.mark (limitWord atHead) = some [.word (limitWord atHead)] := by
      cases b <;> cases atHead <;> rfl
    have hblank : read? b.mark " " = some [] := by cases b <;> rfl
    exact read?_between hword hblank ((isNumeral_text n).read? b) (by decide)

namespace Statement

/-- A table with a plain name and a condition whose numbers are shown as numbers. -/
structure WellFormed (st : Statement) : Prop where
  table : ∀ t ∈ st.table, IsIdentifier t
  terms : ∀ f ∈ st.condition, ∀ t ∈ f.terms, t.WellShown

variable {st : Statement}

theorem mem_clauses {c : Clause} (h : c ∈ Clause.select :: st.clauses b) :
    c = .select ∨ c = .all ∨ (∃ t ∈ st.table, c = .source t) ∨
      (∃ f ∈ st.condition, c = .condition f) ∨
      ∃ n ∈ st.limit, c = .limit b.limitAtHead n := by
  unfold clauses at h
  cases hb : b.limitAtHead <;> simp [hb, tail, limits, Option.mem_toList] at h ⊢ <;> grind

/-- A statement in writing is read as its lexemes. -/
theorem lexemes_write (h : st.WellFormed) :
    read? b.mark (st.write b ++ ";") = some (st.lexemes b) := by
  have hclause : ∀ c ∈ Clause.select :: st.clauses b,
      read? b.mark (c.write b.mark) = some c.lexemes := by
    intro c hc
    refine c.read?_write b (fun t ht => ?_) (fun f hf => ?_)
    · rcases mem_clauses b hc with rfl | rfl | ⟨u, hu, rfl⟩ | ⟨_, _, rfl⟩ | ⟨_, _, rfl⟩ <;> cases ht
      exact h.table t hu
    · rcases mem_clauses b hc with rfl | rfl | ⟨_, _, rfl⟩ | ⟨g, hg, rfl⟩ | ⟨_, _, rfl⟩ <;> cases hf
      exact h.terms f hg
  have hblank : read? b.mark " " = some [] := by cases b <;> rfl
  have hsemicolon : read? b.mark ";" = some [.semicolon] := by cases b <;> rfl
  have hwrite := read?_intercalate hblank (by decide) Clause.select (st.clauses b) hclause
  simpa [write, lexemes] using read?_append hwrite hsemicolon (.inr (by decide))

end Statement

end

/-! ### Reading a statement -/

namespace Reader

/-- A natural number in digits. -/
def natural? (w : String) : Option Nat :=
  if w ≠ "" ∧ w.toList.all Char.isDigit = true then some (Integer.ofDigits w.toList) else none

/-- A limit, if there is one. -/
def limit? (atHead : Bool) : List Lexeme → Option (Option Nat × List Lexeme)
  | .word w :: ts =>
    if w = Clause.limitWord atHead then
      match ts with
      | .word n :: rest => (natural? n).map fun n => (some n, rest)
      | _ => none
    else some (none, .word w :: ts)
  | ts => some (none, ts)

/-- A table, if there is one. -/
def source? : List Lexeme → Option (Option String × List Lexeme)
  | .word "FROM" :: .word t :: rest => if t ∈ reserved then none else some (some t, rest)
  | ts => some (none, ts)

/-- A condition, if there is one. -/
def condition? : List Lexeme → Option (Option Formula × List Lexeme)
  | .word "WHERE" :: ts => (chain? (6 * ts.length) .or ts).map fun (f, rest) => (some f, rest)
  | ts => some (none, ts)

/-- A whole statement, with at most one limit. -/
def statement? : List Lexeme → Option Statement
  | .word "SELECT" :: ts => do
    let (top, ts) ← limit? true ts
    match ts with
    | .word "*" :: ts => do
      let (table, ts) ← source? ts
      let (condition, ts) ← condition? ts
      let (bottom, ts) ← limit? false ts
      if ts = [.semicolon] ∧ (top = none ∨ bottom = none) then
        some ⟨table, condition, top.or bottom⟩
      else none
    | _ => none
  | _ => none

/-- Reads the text of a statement. -/
def read? (mark : Char) (sql : String) : Option Statement :=
  (Lexeme.read? mark sql).bind statement?

/-! ### Reading a statement back -/

theorem natural?_text (n : Nat) : natural? (Integer.text n) = some n := by
  have hlist : (Integer.text n).toList = Integer.digits n := by
    simp [Integer.text, Integer.chars]
  have hne : Integer.text n ≠ "" := by
    intro h
    rw [h] at hlist
    exact digits_ne_nil n hlist.symm
  have hall : (Integer.text n).toList.all Char.isDigit = true := by
    rw [hlist, List.all_eq_true]
    exact fun c hc => isDigit_of_mem_digits hc
  rw [natural?, if_pos ⟨hne, hall⟩, hlist, Integer.ofDigits_digits]

theorem limit?_lexemes (atHead : Bool) (limit : Option Nat) (rest : List Lexeme)
    (h : rest.head? ≠ some (.word (Clause.limitWord atHead))) :
    limit? atHead ((limit.toList.flatMap fun n => (Clause.limit atHead n).lexemes) ++ rest) =
      some (limit, rest) := by
  cases limit with
  | none =>
    rw [Option.toList_none, List.flatMap_nil, List.nil_append]
    cases rest with
    | nil => rfl
    | cons t rest =>
      cases t with
      | word w =>
        have hw : w ≠ Clause.limitWord atHead := fun hw => h (by rw [hw]; rfl)
        rw [limit?.eq_def]
        simp only [if_neg hw]
      | _ => rfl
  | some n => simp [Clause.lexemes, limit?, natural?_text]

theorem source?_lexemes (table : Option String) (rest : List Lexeme)
    (htable : ∀ t ∈ table, t ∉ reserved) (h : rest.head? ≠ some (.word "FROM")) :
    source? ((table.toList.flatMap fun t => (Clause.source t).lexemes) ++ rest) =
      some (table, rest) := by
  cases table with
  | none =>
    rw [Option.toList_none, List.flatMap_nil, List.nil_append, source?.eq_2]
    rintro t rest' rfl
    exact h rfl
  | some t => simp [Clause.lexemes, source?, htable t rfl]

end Reader

theorem Formula.length_le_parenthesized (needed : Bool) (ts : List Lexeme) :
    ts.length ≤ (parenthesized needed ts).length := by
  cases needed with
  | false => exact Nat.le_refl _
  | true =>
    rw [parenthesized, if_pos rfl, List.length_append, List.length_cons]
    omega

/-- Every level of a formula without references has a lexeme. -/
theorem Formula.depth_le_length (f : Formula) (hf : f.isUnnamed = true) :
    f.depth ≤ f.lexemes.length := by
  induction f with
  | atom p =>
    obtain ⟨t, _, ts, hp⟩ := p.exists_head
    simp [depth, lexemes, hp]
  | join k l r ihl ihr =>
    rw [isUnnamed, Bool.and_eq_true] at hf
    have hl := (ihl hf.1).trans (length_le_parenthesized l.isJunction _)
    have hr := (ihr hf.2).trans (length_le_parenthesized r.isJunction _)
    simp only [depth, lexemes, List.length_append, List.length_singleton]
    omega
  | not f ih =>
    have := ih hf
    simp only [depth, lexemes, List.length_append, List.length_cons, List.length_nil]
    omega
  | named f => cases hf

namespace Reader

/-- What may stand behind a condition in a statement. -/
theorem condition?_lexemes (condition : Option Formula) (rest : List Lexeme)
    (hf : ∀ f ∈ condition, f.isUnnamed = true)
    (hterms : ∀ f ∈ condition, ∀ t ∈ f.terms, t.WellShown) (hstops : Stops rest)
    (hk : ∀ k : Connective, rest.head? ≠ some (.word k.word))
    (hwhere : rest.head? ≠ some (.word "WHERE")) :
    condition? ((condition.toList.flatMap fun f => (Clause.condition f).lexemes) ++ rest) =
      some (condition, rest) := by
  cases condition with
  | none =>
    rw [Option.toList_none, List.flatMap_nil, List.nil_append, condition?.eq_2]
    rintro ts rfl
    exact hwhere rfl
  | some f =>
    have hroom : 6 * f.depth ≤ 6 * (f.lexemes ++ rest).length := by
      have := f.depth_le_length (hf f rfl)
      rw [List.length_append]
      omega
    have := (reads f (hf f rfl) (hterms f rfl)).2 _ rest hroom hstops hk
    rw [Option.toList_some, List.flatMap_singleton, Clause.lexemes, List.cons_append, condition?,
      this]
    rfl

end Reader

namespace Statement

variable (b : BuiltIn) {st : Statement}

theorem lexemes_eq : st.lexemes b =
    .word "SELECT" ::
      ((if b.limitAtHead then st.limit else none).toList.flatMap fun n =>
          (Clause.limit true n).lexemes) ++
      (.word "*" ::
        ((st.table.toList.flatMap fun t => (Clause.source t).lexemes) ++
          ((st.condition.toList.flatMap fun f => (Clause.condition f).lexemes) ++
            (((if b.limitAtHead then none else st.limit).toList.flatMap fun n =>
              (Clause.limit false n).lexemes) ++ [.semicolon])))) := by
  cases hb : b.limitAtHead <;>
    simp [lexemes, clauses, hb, tail, limits, Clause.lexemes, List.flatMap_map]

/-- What is read is what was written. -/
theorem read?_write (h : st.WellFormed) (htable : ∀ t ∈ st.table, t ∉ reserved)
    (hcondition : ∀ f ∈ st.condition, f.isUnnamed = true) :
    Reader.read? b.mark (st.write b ++ ";") = some st := by
  rw [Reader.read?, lexemes_write b h, Option.bind_some, lexemes_eq]
  generalize htop : (if b.limitAtHead then st.limit else none) = top
  generalize hbottom : (if b.limitAtHead then none else st.limit) = bottom
  have hlimits : (top = none ∨ bottom = none) ∧ top.or bottom = st.limit := by
    rw [← htop, ← hbottom]
    cases b.limitAtHead <;> simp
  -- what stands behind the condition: the limit at the end, or the semicolon
  generalize hrest : (bottom.toList.flatMap fun n => (Clause.limit false n).lexemes) ++
    [.semicolon] = rest
  have hstops : Stops rest := by
    rw [← hrest]
    cases bottom with
    | none => exact .semicolon []
    | some n => exact .limit _
  have hhead : rest.head? = some (.word "LIMIT") ∨ rest.head? = some .semicolon := by
    rw [← hrest]
    cases bottom with
    | none => exact .inr rfl
    | some n => exact .inl rfl
  have hconnective (k : Connective) : rest.head? ≠ some (.word k.word) := by
    rcases hhead with h | h <;> rw [h] <;> cases k <;> decide
  have hwhere : rest.head? ≠ some (.word "WHERE") := by
    rcases hhead with h | h <;> rw [h] <;> decide
  have hfrom : ((st.condition.toList.flatMap fun f => (Clause.condition f).lexemes) ++ rest).head? ≠
      some (.word "FROM") := by
    cases st.condition with
    | none =>
      rw [Option.toList_none, List.flatMap_nil, List.nil_append]
      rcases hhead with h | h <;> rw [h] <;> decide
    | some f => simp [Clause.lexemes]
  rw [List.cons_append, Reader.statement?,
    Reader.limit?_lexemes true top _ (by simp [Clause.limitWord])]
  simp only [Option.bind_eq_bind, Option.bind_some]
  rw [Reader.source?_lexemes st.table _ htable hfrom, Option.bind_some,
    Reader.condition?_lexemes st.condition rest hcondition h.terms hstops hconnective hwhere,
    Option.bind_some, ← hrest,
    Reader.limit?_lexemes false bottom [.semicolon] (by simp), Option.bind_some]
  simp [hlimits]

end Statement

end FilterCompiler
