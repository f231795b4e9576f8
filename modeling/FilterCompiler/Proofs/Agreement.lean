import FilterCompiler.Proofs.Inlining

/-! One condition in every built-in dialect. Rendering a condition is a matter of the dialect in
one thing only, the mark around column names: up to that it comes to a formula, or to a fault,
that no dialect has a say in. Proved here: the dialects compile the same queries and fail with the
same faults, and the statements that they give are one sequence of fragments, each column between
the marks of the dialect, with the limit at the head or at the end. -/

namespace FilterCompiler

/-! ### Fragments of text -/

/-- A fragment of a condition in writing: a text that all dialects have in common, or the name of
a column. -/
inductive Fragment where
  | fixed (text : String)
  | column (name : String)
deriving DecidableEq, Repr

namespace Fragment

def write (mark : Char) : Fragment → String
  | fixed text => text
  | column name => Text.Quoted.quote mark name

/-- Fragments one behind the other. -/
def writeAll (mark : Char) (fragments : List Fragment) : String :=
  String.join (fragments.map (write mark))

variable (mark : Char)

@[simp] theorem writeAll_nil : writeAll mark [] = "" := rfl

@[simp] theorem writeAll_cons (first : Fragment) (rest : List Fragment) :
    writeAll mark (first :: rest) = first.write mark ++ writeAll mark rest := by
  simp [writeAll]

@[simp] theorem writeAll_append (front back : List Fragment) :
    writeAll mark (front ++ back) = writeAll mark front ++ writeAll mark back := by
  simp [writeAll]

end Fragment

def Term.fragment : Term → Fragment
  | .null => .fixed "NULL"
  | .truth b => .fixed (if b then "TRUE" else "FALSE")
  | .text t => .fixed (Text.Quoted.quote '\'' t)
  | .number shown => .fixed shown
  | .column name => .column name

/-- Terms with commas between them. -/
def Term.listed : List Term → List Fragment
  | [] => []
  | [t] => [t.fragment]
  | t :: ts => t.fragment :: .fixed ", " :: listed ts

def Predicate.fragments : Predicate → List Fragment
  | .compare sign l r => [l.fragment, .fixed sign.write, r.fragment]
  | .among negated x values =>
    x.fragment :: .fixed (if negated then " NOT IN (" else " IN (") ::
      (Term.listed values ++ [.fixed ")"])
  | .isNull negated x => [x.fragment, .fixed (if negated then " IS NOT NULL" else " IS NULL")]
  | .column name => [.column name]

namespace Formula

/-- Fragments in parentheses if need be. -/
def enclosedFragments (needed : Bool) (fragments : List Fragment) : List Fragment :=
  if needed then .fixed "(" :: (fragments ++ [.fixed ")"]) else fragments

def fragments : Formula → List Fragment
  | atom p => p.fragments
  | join k l r =>
    enclosedFragments l.isJunction l.fragments ++ .fixed k.write ::
      enclosedFragments r.isJunction r.fragments
  | not f => .fixed "NOT (" :: (f.fragments ++ [.fixed ")"])
  | named f => f.fragments

end Formula

section

variable (mark : Char)

@[simp] theorem Fragment.write_fixed (text : String) : (fixed text).write mark = text := rfl

@[simp] theorem Term.write_fragment (t : Term) : t.fragment.write mark = t.write mark := by
  cases t <;> rfl

theorem Term.writeAll_listed (ts : List Term) :
    Fragment.writeAll mark (listed ts) = ", ".intercalate (ts.map (write mark)) := by
  induction ts with
  | nil => rfl
  | cons t rest ih =>
    cases rest with
    | nil => simp [listed]
    | cons u rest =>
      rw [List.map_cons] at ih
      simp [listed, ih, String.append_assoc]

theorem Predicate.writeAll_fragments (p : Predicate) :
    Fragment.writeAll mark p.fragments = p.write mark := by
  cases p with
  | compare sign l r => simp [fragments, write, String.append_assoc]
  | among negated x values => simp [fragments, write, Term.writeAll_listed, String.append_assoc]
  | isNull negated x => simp [fragments, write]
  | column name => simp [fragments, write, Fragment.write]

/-- A formula is written fragment by fragment. -/
theorem Formula.writeAll_fragments (f : Formula) :
    Fragment.writeAll mark f.fragments = f.write mark := by
  have henclosed (needed : Bool) (fragments : List Fragment) :
      Fragment.writeAll mark (enclosedFragments needed fragments) =
        enclosed needed (Fragment.writeAll mark fragments) := by
    cases needed <;> simp [enclosedFragments, enclosed, String.append_assoc]
  induction f with
  | atom p => exact p.writeAll_fragments mark
  | join k l r ihl ihr => simp [fragments, write, henclosed, ihl, ihr, String.append_assoc]
  | not f ih => simp [fragments, write, ih, String.append_assoc]
  | named f ih => exact ih

end

/-! ### Rendering without a dialect -/

/-- What an operand comes to, before any mark is put around a column. `path` holds what stands
above it, nearest first, and at most `room` further levels are followed. -/
def Scope.formula (s : Scope) : Nat → List Operand → Operand → Except Fault Formula
  | 0, _, _ => .error .nestedTooDeep
  | room + 1, path, x =>
    if x ∈ path then .error (Dialect.circularAt s.graph x)
    else do
      match ← s.shape x with
      | .atom p => return .atom p
      | .join k l r =>
        return .join k (← s.formula room (x :: path) l) (← s.formula room (x :: path) r)
      | .not y => return .not (← s.formula room (x :: path) y)
      | .follow body => return .named (← s.formula room (x :: path) body)

namespace Scope

variable {s : Scope} {x : Operand}

theorem isJunction_of_formula {room : Nat} {path : List Operand} {f : Formula}
    (h : s.formula room path x = .ok f) :
    (s.graph.node? x).any Node.isJunction = f.isJunction := by
  cases room with
  | zero => cases h
  | succ room =>
    rw [formula] at h
    split at h
    · cases h
    · obtain ⟨shape, hshape, h⟩ := bind_eq_ok_iff.1 h
      rw [isJunction_of_shape hshape]
      cases shape with
      | atom p =>
        cases h
        rfl
      | join k l r =>
        obtain ⟨_, _, h⟩ := bind_eq_ok_iff.1 h
        obtain ⟨_, _, h⟩ := bind_eq_ok_iff.1 h
        cases h
        rfl
      | not y | follow y =>
        obtain ⟨_, _, h⟩ := bind_eq_ok_iff.1 h
        cases h
        rfl

end Scope

/-- A built-in dialect writes the formula of a condition and has no other part in it. -/
theorem BuiltIn.express_eq_formula (b : BuiltIn) (s : Scope) (room : Nat) (path : List Operand)
    (x : Operand) :
    b.dialect.express s room path x = (s.formula room path x).map (Formula.write b.mark) := by
  induction room generalizing path x with
  | zero => rfl
  | succ room ih =>
    rw [b.express_succ, Scope.formula]
    by_cases hx : x ∈ path
    · rw [if_pos hx, if_pos hx]
      rfl
    · rw [if_neg hx, if_neg hx]
      cases hshape : s.shape x with
      | error e => rfl
      | ok shape =>
        rw [ok_bind, ok_bind]
        cases shape with
        | atom p => rfl
        | join k l r =>
          rw [Shape.write_join, Dialect.side_eq, Dialect.side_eq, ih, ih]
          dsimp only
          cases hl : s.formula room (x :: path) l with
          | error e => rfl
          | ok f =>
            cases hr : s.formula room (x :: path) r with
            | error e => rfl
            | ok g =>
              have hf := Scope.isJunction_of_formula hl
              have hg := Scope.isJunction_of_formula hr
              simp only [map_ok, ok_bind, pure_eq_ok, hf, hg, Formula.write]
        | not y =>
          rw [Shape.write, ih]
          dsimp only
          cases s.formula room (x :: path) y <;> rfl
        | follow body =>
          rw [Shape.write, ih]
          dsimp only
          cases s.formula room (x :: path) body <;> rfl

/-! ### Faults under the names of dialects -/

/-- Two faults tell the same, perhaps under the names of two dialects. -/
def Fault.SameBut (e : Fault) (d d' : String) : Prop :=
  (e.within d).code? = (e.within d').code? ∧ (e.within d).details = (e.within d').details ∧
    ((e.within d).message = (e.within d').message ∨
      ∃ category, e.category? = some category ∧
        (e.within d).message = "Formatter for dialect '" ++ d ++ "' failed: " ++ e.message ∧
        (e.within d').message = "Formatter for dialect '" ++ d' ++ "' failed: " ++ e.message)

theorem Fault.sameBut (e : Fault) (d d' : String) : e.SameBut d d' := by
  unfold SameBut within
  cases h : e.category? with
  | none => exact ⟨rfl, rfl, .inl rfl⟩
  | some category => exact ⟨rfl, rfl, .inr ⟨category, rfl, rfl, rfl⟩⟩

/-! ### Compiling for every dialect -/

theorem BuiltIn.framed_of_error (b : BuiltIn) (table limit : Option String) (e : Fault) :
    b.framed table (.ok limit) (.error e) = .error e := by
  unfold framed
  cases b.limitAtHead <;> rfl

namespace Compiler

variable {c : Compiler} {g : Graph} {fields : Fields} {x : Operand}

theorem limitText_of_lt {limit : Option Nat} (h : ∀ n ∈ limit, n < Integer.textBound) :
    limitText limit = .ok (limit.map fun n => Integer.text n) := by
  cases limit with
  | none => rfl
  | some n =>
    have hn : (n : Int).natAbs < Integer.textBound := h n rfl
    rw [limitText, Integer.text?, if_pos hn]
    rfl

/-- A condition, absent or not, compiles to what it comes to in its own graph. -/
theorem compile_eq_of_isClosed (b : BuiltIn) {table : Option String}
    (hregistry : c.registry = .builtin) (htable : c.table = tableOperand table)
    (limit : Option Nat) (hs : (c.setting g fields).IsClosed) (hx : g.Has x) :
    c.compile g b.name fields ⟨x, limitOperand limit⟩ =
      told b.name (b.framed (namedTable table) (limitText limit)
        (conditionText (b.dialect.express (c.setting g fields) c.room []) x)) := by
  by_cases hne : x = .lit .null
  · rw [compile_eq_framed hregistry htable rfl, conditionText, conditionText, if_pos hne,
      if_pos hne]
  · rw [compile_eq_of_has b hregistry htable limit hs hx hne, conditionText, if_neg hne]

/-- What a condition comes to is settled before the dialect, the table and the limit are known:
either all dialects give statements that say it in the same fragments, or all report the same fault
and differ in their names at most. -/
theorem compile_agrees (definitions : Definitions) (room : Nat)
    (hs : Scope.IsClosed ⟨g, fields, definitions, room⟩) (hx : g.Has x) :
    (∃ condition : Option (List Fragment), ∀ (b : BuiltIn) (table : Option String)
        (limit : Option Nat), (∀ n ∈ limit, n < Integer.textBound) →
      compile { table := tableOperand table, definitions, room } g b.name fields
          ⟨x, limitOperand limit⟩ =
        .ok (b.frame (namedTable table) (limit.map fun n => Integer.text n)
          (condition.map (Fragment.writeAll b.mark)) ++ ";")) ∨
    ∃ e : Fault, (∀ (b : BuiltIn) (table : Option String) (limit : Option Nat),
        (∀ n ∈ limit, n < Integer.textBound) →
      compile { table := tableOperand table, definitions, room } g b.name fields
          ⟨x, limitOperand limit⟩ =
        .failed (e.within b.name)) ∧ ∀ d d', e.SameBut d d' := by
  have hcompile (b : BuiltIn) (table : Option String) {limit : Option Nat}
      (hlimit : ∀ n ∈ limit, n < Integer.textBound) :=
    compile_eq_of_isClosed (c := { table := tableOperand table, definitions, room }) b rfl rfl
      limit hs hx
  by_cases hne : x = .lit .null
  · refine .inl ⟨none, fun b table limit hlimit => ?_⟩
    rw [hcompile b table hlimit, limitText_of_lt hlimit, conditionText, if_pos hne, b.framed_ok]
    rfl
  cases hformula : Scope.formula ⟨g, fields, definitions, room⟩ room [] x with
  | ok f =>
    refine .inl ⟨some f.fragments, fun b table limit hlimit => ?_⟩
    rw [hcompile b table hlimit, limitText_of_lt hlimit, conditionText, if_neg hne,
      b.express_eq_formula, setting, hformula, map_ok, map_ok, b.framed_ok, Option.map_some,
      f.writeAll_fragments]
    rfl
  | error e =>
    refine .inr ⟨e, fun b table limit hlimit => ?_, e.sameBut⟩
    rw [hcompile b table hlimit, limitText_of_lt hlimit, conditionText, if_neg hne,
      b.express_eq_formula, setting, hformula, map_error, map_error, b.framed_of_error]
    rfl

/-- A comparison of a field whose column has marks of both kinds in its name. -/
def markedField : Graph :=
  ⟨#[.node (.field (.lit (.integer 1))),
    .node (.equal (.part 0) (.part 2)), .tuple [.lit (.text "x")]]⟩

theorem markedField_agrees :
    (∃ condition : Option (List Fragment), ∀ b : BuiltIn,
      compile { table := tableOperand (some "t") } markedField b.name
          [(.lit (.integer 1), some "a\"b\x60c")] ⟨.part 1, limitOperand (some 3)⟩ =
        .ok (b.frame (some "t") (some "3") (condition.map (Fragment.writeAll b.mark)) ++ ";")) ∧
    compile { table := tableOperand (some "t") } markedField "mysql"
        [(.lit (.integer 1), some "a\"b\x60c")] ⟨.part 1, limitOperand (some 3)⟩ =
      .ok "SELECT * FROM t WHERE \x60a\"b\x60\x60c\x60 = 'x' LIMIT 3;" ∧
    compile { table := tableOperand (some "t") } markedField "sqlserver"
        [(.lit (.integer 1), some "a\"b\x60c")] ⟨.part 1, limitOperand (some 3)⟩ =
      .ok "SELECT TOP 3 * FROM t WHERE \"a\"\"b\x60c\" = 'x';" := by
  have hs : Scope.IsClosed
      ⟨markedField, [(.lit (.integer 1), some "a\"b\x60c")], [], nestingLimit⟩ := {
    graph := by decide
    fields := by simp [Graph.Has]
    definitions := fun _ _ h => nomatch h }
  have hbound : ∀ n ∈ some 3, n < Integer.textBound := by
    rintro n hn
    cases hn
    exact Integer.lt_textBound (by decide)
  have hmysql : compile { table := tableOperand (some "t") } markedField "mysql"
      [(.lit (.integer 1), some "a\"b\x60c")] ⟨.part 1, limitOperand (some 3)⟩ =
        .ok "SELECT * FROM t WHERE \x60a\"b\x60\x60c\x60 = 'x' LIMIT 3;" := by decide +kernel
  refine ⟨?_, hmysql, by decide +kernel⟩
  rcases compile_agrees [] nestingLimit hs (x := .part 1) (by decide) with
    ⟨condition, h⟩ | ⟨e, h, _⟩
  · exact ⟨condition, fun b => h b (some "t") (some 3) hbound⟩
  · have hfailed := h .mysql (some "t") (some 3) hbound
    rw [BuiltIn.name, hmysql] at hfailed
    cases hfailed

end Compiler

end FilterCompiler
