import FilterCompiler.Proofs.Compilation

/-! The frame around a condition. Whatever a built-in dialect makes of a condition, the rest of the
statement is a matter of the table and the limit alone. Proved here: the outcome of compiling is
that of the limit and the condition, in the order of the dialect, put into a frame. -/

namespace FilterCompiler

namespace BuiltIn

variable (b : BuiltIn)

/-- A statement in writing, without its semicolon, given the texts of what varies in it. -/
def frame (table limit condition : Option String) : String :=
  let source := table.toList.map ("FROM " ++ ·)
  let condition := condition.toList.map ("WHERE " ++ ·)
  " ".intercalate ("SELECT" ::
    if b.limitAtHead then limit.toList.map ("TOP " ++ ·) ++ "*" :: (source ++ condition)
    else "*" :: (source ++ condition ++ limit.toList.map ("LIMIT " ++ ·)))

/-- A statement whose limit and condition may fail, the one that is written first also failing
first. -/
def framed (table : Option String) (limit condition : Except Fault (Option String)) : Rendered :=
  if b.limitAtHead then
    limit >>= fun l => condition.map fun w => b.frame table l w
  else condition >>= fun w => limit.map fun l => b.frame table l w

theorem framed_eq_ok_iff {table : Option String} {limit condition : Except Fault (Option String)}
    {body : String} :
    b.framed table limit condition = .ok body ↔
      ∃ l w, limit = .ok l ∧ condition = .ok w ∧ body = b.frame table l w := by
  unfold framed
  cases b.limitAtHead <;> cases limit <;> cases condition <;> simp [eq_comm]

theorem framed_ok (table limit condition : Option String) :
    b.framed table (.ok limit) (.ok condition) = .ok (b.frame table limit condition) := by
  unfold framed
  cases b.limitAtHead <;> rfl

theorem framed_of_limit_eq_error (table condition : Option String) (e : Fault) :
    b.framed table (.error e) (.ok condition) = .error e := by
  unfold framed
  cases b.limitAtHead <;> rfl

/-- The fault of a condition is that of the statement, unless a limit fails before any condition
could. -/
theorem framed_of_condition_eq_error (table : Option String)
    (limit : Except Fault (Option String)) (e : Fault) :
    b.framed table limit (.error e) = .error e ∨
      ∃ e', ∀ condition, b.framed table limit condition = .error e' := by
  unfold framed
  cases b.limitAtHead with
  | false => exact .inl rfl
  | true =>
    cases limit with
    | ok shown => exact .inl rfl
    | error e' => exact .inr ⟨e', fun _ => rfl⟩

/-- Only the text of the condition varies in a frame. -/
theorem exists_frame_eq (table limit : Option String) :
    ∃ before after, ∀ text, b.frame table limit (some text) = before ++ text ++ after := by
  cases h : b.limitAtHead with
  | true =>
    refine ⟨" ".intercalate ("SELECT" :: (limit.toList.map ("TOP " ++ ·) ++
      "*" :: (table.toList.map ("FROM " ++ ·) ++ ["WHERE "]))), "", fun text => ?_⟩
    cases limit <;> cases table <;> simp [frame, h, ← String.toList_inj]
  | false =>
    refine ⟨" ".intercalate ("SELECT" :: "*" :: (table.toList.map ("FROM " ++ ·) ++ ["WHERE "])),
      String.join (limit.toList.map (" LIMIT " ++ ·)), fun text => ?_⟩
    cases limit <;> cases table <;> simp [frame, h, ← String.toList_inj]

end BuiltIn

/-- The text of a limit, if there is one. -/
def limitText : Option Nat → Except Fault (Option String)
  | none => .ok none
  | some n => (Integer.text? n).elim (.error .integerTooLong) fun shown => .ok (some shown)

theorem eq_of_limitText {limit : Option Nat} {shown : Option String}
    (h : limitText limit = .ok shown) : shown = limit.map fun n => Integer.text n := by
  cases limit with
  | none => exact (Except.ok.inj h).symm
  | some n =>
    rw [limitText, Integer.text?] at h
    split at h
    · exact (Except.ok.inj h).symm
    · cases h

/-- What a condition comes to, if there is one. -/
def conditionText (express : Operand → Rendered) (condition : Operand) :
    Except Fault (Option String) :=
  if condition = .lit .null then .ok none else (express condition).map some

theorem Dialect.limitClause_eq_map (s : Scope) (keyword : String) (limit : Option Nat) :
    limitClause s keyword (limitOperand limit) =
      (limitText limit).map fun l => l.toList.map (keyword ++ " " ++ ·) := by
  cases limit with
  | none =>
    rfl
  | some n =>
    have hne : limitOperand (some n) ≠ .lit .null := by simp [limitOperand]
    rw [limitClause, if_neg hne, limitOperand, Scope.text_lit, limitText]
    simp only [Literal.plain?]
    generalize Integer.text? n = shown
    cases shown <;> rfl

theorem Dialect.conditionClause_eq_map (express : Operand → Rendered) (x : Operand) :
    conditionClause express x =
      (conditionText express x).map fun w => w.toList.map ("WHERE " ++ ·) := by
  unfold conditionClause conditionText
  split
  · rfl
  · cases express x <;> rfl

/-- A statement is its limit and its condition in a frame, however conditions are written. -/
theorem BuiltIn.statement_eq_framed (b : BuiltIn) (express : Operand → Rendered) {s : Scope}
    {root : Operand} {q : Selection} {table : Option String} {limit : Option Nat}
    (hroot : s.graph.node? root = some (.select q)) (hlist : q.list = .lit (.text "*"))
    (hsource : q.source = tableOperand table) (hlimit : q.limit = limitOperand limit) :
    b.dialect.statement s express root = b.framed (namedTable table) (limitText limit)
      (conditionText express q.condition) := by
  have hassemble (before after : List String) :
      Dialect.assemble s before q.list after = .ok (" ".intercalate (before ++ "*" :: after)) := by
    rw [hlist]
    rfl
  have hsource' := Dialect.sourceClause_eq s b.mark table
  rw [← hsource] at hsource'
  cases b with
  | sqlserver =>
    change Dialect.selectTop s express root = _
    rw [Dialect.selectTop, hroot]
    dsimp only
    rw [hlimit, Dialect.limitClause_eq_map, hsource', Dialect.conditionClause_eq_map]
    unfold BuiltIn.framed
    cases limitText limit with
    | error e => rfl
    | ok l =>
      cases conditionText _ q.condition with
      | error e => rfl
      | ok w => simp [hassemble, frame, limitAtHead, Clause.write]
  | postgres | mysql =>
    change Dialect.selectLimit s express root = _
    rw [Dialect.selectLimit, hroot]
    dsimp only
    rw [hlimit, Dialect.limitClause_eq_map, hsource', Dialect.conditionClause_eq_map]
    unfold BuiltIn.framed
    cases conditionText _ q.condition with
    | error e => rfl
    | ok w =>
      cases limitText limit with
      | error e => rfl
      | ok l => simp [hassemble, frame, limitAtHead, Clause.write]

theorem BuiltIn.formatStatement_eq_framed (b : BuiltIn) {s : Scope} {root : Operand}
    {q : Selection} {table : Option String} {limit : Option Nat}
    (hroot : s.graph.node? root = some (.select q)) (hlist : q.list = .lit (.text "*"))
    (hsource : q.source = tableOperand table) (hlimit : q.limit = limitOperand limit) :
    b.dialect.formatStatement s root = b.framed (namedTable table) (limitText limit)
      (conditionText (b.dialect.express s s.room []) q.condition) :=
  b.statement_eq_framed _ hroot hlist hsource hlimit

namespace Compiler

variable {c : Compiler} {g : Graph} {fields : Fields} {q : Query} {b : BuiltIn}
  {table : Option String} {limit : Option Nat}

/-- The outcome of a query is that of its limit and condition in a frame. -/
theorem compile_eq_framed (hregistry : c.registry = .builtin)
    (htable : c.table = tableOperand table) (hlimit : q.limit = limitOperand limit) :
    c.compile g b.name fields q = told b.name (b.framed (namedTable table) (limitText limit)
      (conditionText (b.dialect.express (c.scope g fields q) c.room []) q.condition)) := by
  rw [compile_eq hregistry, b.formatStatement_eq_framed node?_scope rfl htable hlimit]
  rfl

/-- A compiled query is its limit and condition in a frame. -/
theorem exists_frame_of_compile (hregistry : c.registry = .builtin)
    (htable : c.table = tableOperand table) (hlimit : q.limit = limitOperand limit) {sql : String}
    (h : c.compile g b.name fields q = .ok sql) :
    ∃ shown condition, limitText limit = .ok shown ∧
      conditionText (b.dialect.express (c.scope g fields q) c.room []) q.condition =
        .ok condition ∧
      sql = b.frame (namedTable table) shown condition ++ ";" := by
  rw [compile_eq_framed hregistry htable hlimit, told_eq_ok_iff] at h
  obtain ⟨body, hbody, rfl⟩ := h
  obtain ⟨shown, condition, hshown, hcondition, rfl⟩ := b.framed_eq_ok_iff.1 hbody
  exact ⟨shown, condition, hshown, hcondition, rfl⟩

end Compiler

end FilterCompiler
