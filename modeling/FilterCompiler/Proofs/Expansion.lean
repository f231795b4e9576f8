import FilterCompiler.Proofs.Meaning
import Mathlib.Data.Fintype.Card
import Mathlib.Data.Set.Finite.Basic

/-! Names put in one after another. A condition leads to the names in it, and to the names in what
those stand for. It is complete when all of them are defined, all fields on the way have columns
and no name leads back to itself. Proved here, where every name stands for a condition that can be
written: a condition stands for a formula exactly if it is complete, and what goes wrong by itself
anywhere below it is that a field is unknown or a name is not defined. -/

namespace FilterCompiler

/-! ### Conditions that can be written -/

/-- Literals that every built-in dialect can write, and numbers of fields that a message can
show. -/
structure Showable (literals : List Literal) (numbers : List Int) : Prop where
  literals : ∀ v ∈ literals, v.IsCommon
  numbers : ∀ n ∈ numbers, n.natAbs < Integer.textBound

theorem Showable.of_append {literals literals' : List Literal} {numbers numbers' : List Int}
    (h : Showable (literals ++ literals') (numbers ++ numbers')) :
    Showable literals numbers ∧ Showable literals' numbers' :=
  ⟨⟨fun v hv => h.literals v (by simp [hv]), fun n hn => h.numbers n (by simp [hn])⟩,
    ⟨fun v hv => h.literals v (by simp [hv]), fun n hn => h.numbers n (by simp [hn])⟩⟩

theorem Showable.of_flatMap {us : List Value} {u : Value}
    (h : Showable (us.flatMap Value.literals) (us.flatMap Value.fields)) (hu : u ∈ us) :
    Showable u.literals u.fields :=
  ⟨fun v hv => h.literals v (List.mem_flatMap.2 ⟨u, hu, hv⟩),
    fun n hn => h.numbers n (List.mem_flatMap.2 ⟨u, hu, hn⟩)⟩

namespace Graph

/-- An operand holds a condition all of whose literals and numbers can be shown. -/
def HoldsShowable (g : Graph) (x : Operand) : Prop :=
  ∃ c, g.Holds x c ∧ Showable c.literals c.fields

/-- An operand holds a condition with a field of some number. -/
def Uses (g : Graph) (x : Operand) (number : Int) : Prop :=
  ∃ c, g.Holds x c ∧ number ∈ c.fields

/-- An operand holds a condition that refers to some name. -/
def Mentions (g : Graph) (x : Operand) (name : String) : Prop :=
  ∃ c, g.Holds x c ∧ name ∈ c.references

end Graph

/-- Field maps look keys up by their hash, which a signaling not-a-number does not have. -/
def Fields.IsHashed (fields : Fields) : Prop :=
  ∀ e ∈ fields, ∀ v, e.1 = .lit v → v.isSignaling = false

theorem NameTable.mem_names_of_find? {α : Type} {t : NameTable α} {name : String} {x : α}
    (h : t.find? name = some x) : name ∈ t.names := by
  have hsome : (t.lookup name).isSome = true := Option.isSome_iff_exists.2 ⟨x, h⟩
  obtain ⟨entry, hentry, hname⟩ := List.lookup_isSome_iff.1 hsome
  rw [eq_of_beq hname]
  exact List.mem_map_of_mem hentry

/-! ### What a condition leads to by name -/

namespace Scope

/-- Whether the field of a number has a column. -/
def HasColumn (s : Scope) (number : Int) : Prop :=
  ∃ name, s.fields.find? s.graph (.lit (.integer number)) = .ok (some name) ∧ name ≠ ""

/-- What one name stands for refers to another. -/
def Refers (s : Scope) (a b : String) : Prop :=
  ∃ body, s.definitions.find? a = some body ∧ s.graph.Mentions body b

/-- A name that a condition refers to, or that what such a name stands for does, and so on. -/
def Needs (s : Scope) (x : Operand) (name : String) : Prop :=
  ∃ a, s.graph.Mentions x a ∧ Relation.ReflTransGen s.Refers a name

/-- Nothing is missing to write a condition, and no name in it leads back to itself. -/
structure IsComplete (s : Scope) (x : Operand) : Prop where
  columns : ∀ n, s.graph.Uses x n → s.HasColumn n
  defined : ∀ name, s.Needs x name → ∃ body, s.definitions.find? name = some body ∧
    ∀ n, s.graph.Uses body n → s.HasColumn n
  acyclic : ∀ name, s.Needs x name → ¬ Relation.TransGen s.Refers name name

/-- Every name stands for a condition that can be written. -/
def IsDefinedWell (s : Scope) : Prop :=
  ∀ name body, s.definitions.find? name = some body → s.graph.HoldsShowable body

/-! ### Lookups that fail -/

variable {s : Scope} {x : Operand} {n : Int} {e : Fault}

theorem hasColumn_iff : s.HasColumn n ↔ ∃ name, s.column (.lit (.integer n)) = .ok name := by
  have hkey : s.checkKey (.lit (.integer n)) = .ok () := rfl
  simp only [HasColumn, column_eq_ok_iff, hkey, true_and]

theorem find?_ne_error {fields : Fields} (h : fields.IsHashed) (g : Graph) :
    fields.find? g (.lit (.integer n)) ≠ .error e := by
  induction fields with
  | nil => simp [Fields.find?]
  | cons entry rest ih =>
    obtain ⟨key, column⟩ := entry
    have hkey : ∃ b, g.sameKey nestingLimit key (.lit (.integer n)) = .ok b := by
      have hsame : ∃ b, g.same nestingLimit key (.lit (.integer n)) = .ok b := by
        cases key with
        | lit v =>
          have hv : v.isSignaling = false := h (.lit v, column) (by simp) v rfl
          refine ⟨v.same (.integer n), ?_⟩
          change v.compare (.integer n) = _
          rw [Literal.compare, hv]
          rfl
        | part m => exact ⟨false, rfl⟩
      unfold Graph.sameKey Graph.orIdentical
      split
      · exact ⟨true, rfl⟩
      · exact hsame
    obtain ⟨b, hb⟩ := hkey
    have hrest : Fields.IsHashed rest := fun e he => h e (by simp [he])
    rw [Fields.find?, hb]
    cases b
    · exact ih hrest
    · simp

/-- Of a number that can be shown, all that can be wrong is that its field is unknown. -/
theorem code?_of_column (hfields : s.fields.IsHashed) (hn : n.natAbs < Integer.textBound)
    (h : s.column (.lit (.integer n)) = .error e) : e.code? = some "UNKNOWN_FIELD" := by
  have hunknown (h : column.unknown s (.lit (.integer n)) = .error e) :
      e.code? = some "UNKNOWN_FIELD" := by
    have htext : s.text (.lit (.integer n)) = .ok (Integer.text n) := by
      rw [text_lit, Literal.plain?, Integer.text?, if_pos hn]
    rw [column.unknown, htext] at h
    cases h
    rfl
  have hkey : s.checkKey (.lit (.integer n)) = .ok () := rfl
  unfold column at h
  rw [hkey, ok_bind] at h
  rcases bind_eq_error_iff.1 h with h | ⟨found, _, h⟩
  · exact absurd h (find?_ne_error hfields _)
  · cases found with
    | none => exact hunknown h
    | some name =>
      dsimp only at h
      split at h
      · exact hunknown h
      · cases h

theorem code?_of_resolve {name : String} (h : s.resolve (.lit (.text name)) = .error e) :
    e.code? = some "MACRO_NOT_FOUND" := by
  have hundefined (h : resolve.undefinedName s (.lit (.text name)) = .error e) :
      e.code? = some "MACRO_NOT_FOUND" := by
    cases h
    rfl
  have hkey : s.checkKey (.lit (.text name)) = .ok () := rfl
  unfold resolve at h
  rw [hkey, ok_bind] at h
  dsimp only at h
  split at h
  · exact hundefined h
  · exact hundefined h
  · cases h

/-! ### One step down -/

theorem code?_of_term {u : Value} (hfields : s.fields.IsHashed) (hu : s.graph.HoldsValue x u)
    (hshow : Showable u.literals u.fields) (h : s.term x = .error e) :
    e.code? = some "UNKNOWN_FIELD" := by
  cases hu with
  | @field _ n node =>
    rw [term_of_field node, map_eq_error_iff] at h
    exact code?_of_column hfields (hshow.numbers n (by simp [Value.fields])) h
  | literal v =>
    have hv : s.literalTerm v = .error e := h
    rw [literalTerm_of_isCommon (hshow.literals v (by simp [Value.literals]))] at hv
    cases hv

theorem code?_of_membership {negated : Bool} {y values : Operand} {items : List Operand}
    {u : Value} {us : List Value} (hfields : s.fields.IsHashed) (hu : s.graph.HoldsValue y u)
    (hitems : s.graph.elements? values = some items)
    (hus : List.Forall₂ s.graph.HoldsValue items us)
    (hshow : Showable (u.literals ++ us.flatMap Value.literals)
      (u.fields ++ us.flatMap Value.fields))
    (h : s.membership negated y values = .error e) : e.code? = some "UNKNOWN_FIELD" := by
  obtain ⟨hoperand, hcompared⟩ := hshow.of_append
  rw [membership_of_elements hitems] at h
  rcases bind_eq_error_iff.1 h with h | ⟨_, _, h⟩
  · exact code?_of_term hfields hu hoperand h
  · obtain ⟨v, hv, hterm⟩ := exists_of_mapM_eq_error (map_eq_error_iff.1 h)
    obtain ⟨w, hw, hvw⟩ := exists_of_forall₂ hus hv
    exact code?_of_term hfields hvw (hcompared.of_flatMap hw) hterm

/-- What goes wrong at an operand by itself is that a field is unknown or a name not defined. -/
theorem code?_of_shape (hfields : s.fields.IsHashed) (hx : s.graph.HoldsShowable x)
    (h : s.shape x = .error e) :
    e.code? = some "UNKNOWN_FIELD" ∨ e.code? = some "MACRO_NOT_FOUND" := by
  obtain ⟨c, hc, hshow⟩ := hx
  cases hc with
  | join node =>
    rw [shape_join node] at h
    cases h
  | not node =>
    rw [shape_not node] at h
    cases h
  | ordering node left right =>
    obtain ⟨hl, hr⟩ := hshow.of_append
    rw [shape_ordering node] at h
    rcases bind_eq_error_iff.1 h with h | ⟨_, _, h⟩
    · exact .inl (code?_of_term hfields left hl h)
    · exact .inl (code?_of_term hfields right hr (map_eq_error_iff.1 h))
  | equality node operand elements compared =>
    rw [shape_equality node, map_eq_error_iff] at h
    exact .inl (code?_of_membership hfields operand elements compared hshow h)
  | nullCheck node value =>
    rw [shape_nullCheck node, map_eq_error_iff] at h
    exact .inl (code?_of_term hfields value hshow h)
  | @field _ n node =>
    rw [shape_field node, map_eq_error_iff] at h
    exact .inl (code?_of_column hfields (hshow.numbers n (by simp [Condition.fields])) h)
  | reference node =>
    rw [shape_reference node, map_eq_error_iff] at h
    exact .inr (code?_of_resolve h)

/-- What is right below a condition is a part of it, or what some name stands for. -/
theorem holds_of_edge {c : Condition} {y : Operand} (hx : s.graph.Holds x c) (hxy : s.Edge x y) :
    (∃ d, s.graph.Holds y d ∧ d.literals ⊆ c.literals ∧ d.fields ⊆ c.fields) ∨
      ∃ name, s.definitions.find? name = some y := by
  rw [Edge] at hxy
  cases hx with
  | @join _ l r k c d node left right =>
    rw [below_of_shape (shape_join node)] at hxy
    obtain rfl | rfl : y = l ∨ y = r := by simpa [Shape.below] using hxy
    · exact .inl ⟨c, left, by simp [Condition.literals], by simp [Condition.fields]⟩
    · exact .inl ⟨d, right, by simp [Condition.literals], by simp [Condition.fields]⟩
  | @not _ z c node operand =>
    rw [below_of_shape (shape_not node)] at hxy
    obtain rfl : y = z := by simpa [Shape.below] using hxy
    exact .inl ⟨c, operand, List.Subset.refl _, List.Subset.refl _⟩
  | @ordering _ l r greater u v node =>
    cases greater <;> simp [below, node, Node.ordering] at hxy
  | @equality _ z values negated items u us node =>
    cases negated <;> simp [below, node, Node.equality] at hxy
  | @nullCheck _ z negated u node =>
    cases negated <;> simp [below, node, Node.nullCheck] at hxy
  | field node => simp [below, node] at hxy
  | @reference _ name node =>
    have hbody : s.resolve (.lit (.text name)) = .ok y := by
      simp only [below, node] at hxy
      cases h : s.resolve (.lit (.text name)) with
      | error f => simp [h, Except.toOption] at hxy
      | ok body => simpa [h, Except.toOption, eq_comm] using hxy
    obtain ⟨t, _, hfound, _⟩ := resolve_eq_ok_iff.1 hbody
    exact .inr ⟨t, hfound⟩

/-- What is right below a condition is one as well. -/
theorem holdsShowable_of_edge (hs : s.IsDefinedWell) {y : Operand}
    (hx : s.graph.HoldsShowable x) (hxy : s.Edge x y) : s.graph.HoldsShowable y := by
  obtain ⟨c, hc, hshow⟩ := hx
  rcases holds_of_edge hc hxy with ⟨d, hd, hliterals, hfields⟩ | ⟨name, hfound⟩
  · exact ⟨d, hd, fun v hv => hshow.literals v (hliterals hv),
      fun n hn => hshow.numbers n (hfields hn)⟩
  · exact hs name y hfound

theorem holdsShowable_of_reaches (hs : s.IsDefinedWell) {y : Operand}
    (hx : s.graph.HoldsShowable x) (hxy : s.Reaches x y) : s.graph.HoldsShowable y := by
  induction hxy with
  | refl => exact hx
  | tail _ hyz ih => exact holdsShowable_of_edge hs ih hyz

/-- A condition that cannot be written is nested too deep, lacks a column or a name, or is
circular. -/
theorem code?_of_express {b : BuiltIn} {room : Nat} (hfields : s.fields.IsHashed)
    (hs : s.IsDefinedWell) (hx : s.graph.HoldsShowable x)
    (h : b.dialect.express s room [] x = .error e) :
    e = .nestedTooDeep ∨
      e.code? ∈ [some "UNKNOWN_FIELD", some "MACRO_NOT_FOUND", some "CIRCULAR_DEPENDENCY"] := by
  rcases origin_of_express_eq_error h with h | ⟨y, _, _, rfl⟩ | ⟨y, hxy, h⟩
  · exact .inl h
  · exact .inr (by simp [Dialect.circularAt, Fault.code?])
  · have hcode := code?_of_shape hfields (holdsShowable_of_reaches hs hx hxy) h
    exact .inr (by simpa using hcode.imp_right .inl)

/-! ### From formulas back to lookups -/

theorem hasColumn_of_term {u : Value} {t : Term} (hu : s.graph.HoldsValue x u)
    (h : s.term x = .ok t) (hn : n ∈ u.fields) : s.HasColumn n := by
  cases hu with
  | @field _ m node =>
    obtain rfl : n = m := by simpa [Value.fields] using hn
    rw [term_of_field node] at h
    obtain ⟨name, hname, _⟩ := map_eq_ok_iff.1 h
    exact hasColumn_iff.2 ⟨name, hname⟩
  | literal v => simp [Value.fields] at hn

theorem hasColumn_of_membership {negated : Bool} {y values : Operand} {items : List Operand}
    {u : Value} {us : List Value} {p : Predicate} (hu : s.graph.HoldsValue y u)
    (hitems : s.graph.elements? values = some items)
    (hus : List.Forall₂ s.graph.HoldsValue items us)
    (h : s.membership negated y values = .ok p) (hn : n ∈ u.fields ++ us.flatMap Value.fields) :
    s.HasColumn n := by
  rw [membership_of_elements hitems] at h
  obtain ⟨t, ht, h⟩ := bind_eq_ok_iff.1 h
  obtain ⟨ts, hts, _⟩ := map_eq_ok_iff.1 h
  rcases List.mem_append.1 hn with hn | hn
  · exact hasColumn_of_term hu ht hn
  · obtain ⟨w, hw, hn⟩ := List.mem_flatMap.1 hn
    obtain ⟨v, hv, hvw⟩ := exists_of_forall₂ hus.flip hw
    obtain ⟨t, _, ht⟩ := exists_of_forall₂ (mapM_eq_ok_iff.1 hts) hv
    exact hasColumn_of_term hvw ht hn

/-- Where a condition stands for a formula, its fields have columns. -/
theorem Stands.hasColumn {f : Formula} {c : Condition} (h : s.Stands x f)
    (hc : s.graph.Holds x c) (hn : n ∈ c.fields) : s.HasColumn n := by
  induction hc generalizing f with
  | @join x l r k c d node _ _ ihl ihr =>
    obtain ⟨_, hl, _⟩ := h.edge (y := l) (.of_shape (shape_join node) (by simp [Shape.below]))
    obtain ⟨_, hr, _⟩ := h.edge (y := r) (.of_shape (shape_join node) (by simp [Shape.below]))
    rcases List.mem_append.1 hn with hn | hn
    · exact ihl hl hn
    · exact ihr hr hn
  | @not x y c node _ ih =>
    obtain ⟨_, hy, _⟩ := h.edge (y := y) (.of_shape (shape_not node) (by simp [Shape.below]))
    exact ih hy hn
  | ordering node left right =>
    obtain ⟨_, hshape⟩ := h.exists_shape
    rw [shape_ordering node] at hshape
    obtain ⟨t, ht, hshape⟩ := bind_eq_ok_iff.1 hshape
    obtain ⟨u, hu, _⟩ := map_eq_ok_iff.1 hshape
    rcases List.mem_append.1 hn with hn | hn
    · exact hasColumn_of_term left ht hn
    · exact hasColumn_of_term right hu hn
  | equality node operand elements compared =>
    obtain ⟨_, hshape⟩ := h.exists_shape
    rw [shape_equality node] at hshape
    obtain ⟨p, hp, _⟩ := map_eq_ok_iff.1 hshape
    exact hasColumn_of_membership operand elements compared hp hn
  | nullCheck node value =>
    obtain ⟨_, hshape⟩ := h.exists_shape
    rw [shape_nullCheck node] at hshape
    obtain ⟨t, ht, _⟩ := map_eq_ok_iff.1 hshape
    exact hasColumn_of_term value ht hn
  | @field x m node =>
    obtain rfl : n = m := by simpa [Condition.fields] using hn
    obtain ⟨_, hshape⟩ := h.exists_shape
    rw [shape_field node] at hshape
    obtain ⟨name, hname, _⟩ := map_eq_ok_iff.1 hshape
    exact hasColumn_iff.2 ⟨name, hname⟩
  | reference node => simp [Condition.fields] at hn

/-- Where a condition stands for a formula, what its names stand for does so too, and the
formulas of the names are less deep. -/
theorem Stands.body {f : Formula} {c : Condition} {name : String} (h : s.Stands x f)
    (hc : s.graph.Holds x c) (hname : name ∈ c.references) :
    ∃ body g, s.definitions.find? name = some body ∧ s.Stands body g ∧ g.depth < f.depth := by
  induction hc generalizing f with
  | @join x l r k c d node _ _ ihl ihr =>
    obtain ⟨_, hl, hdl⟩ := h.edge (y := l) (.of_shape (shape_join node) (by simp [Shape.below]))
    obtain ⟨_, hr, hdr⟩ := h.edge (y := r) (.of_shape (shape_join node) (by simp [Shape.below]))
    rcases List.mem_append.1 hname with hname | hname
    · obtain ⟨body, g, hfound, hg, hdepth⟩ := ihl hl hname
      exact ⟨body, g, hfound, hg, hdepth.trans hdl⟩
    · obtain ⟨body, g, hfound, hg, hdepth⟩ := ihr hr hname
      exact ⟨body, g, hfound, hg, hdepth.trans hdr⟩
  | @not x y c node _ ih =>
    obtain ⟨_, hy, hdy⟩ := h.edge (y := y) (.of_shape (shape_not node) (by simp [Shape.below]))
    obtain ⟨body, g, hfound, hg, hdepth⟩ := ih hy hname
    exact ⟨body, g, hfound, hg, hdepth.trans hdy⟩
  | @reference x other node =>
    obtain rfl : name = other := by simpa [Condition.references] using hname
    obtain ⟨_, hshape⟩ := h.exists_shape
    have hfollow := hshape
    rw [shape_reference node] at hfollow
    obtain ⟨body, hbody, rfl⟩ := map_eq_ok_iff.1 hfollow
    obtain ⟨g, hg, hdepth⟩ := h.edge (y := body) (.of_shape hshape (by simp [Shape.below]))
    obtain ⟨t, ht, hfound, _⟩ := resolve_eq_ok_iff.1 hbody
    cases ht
    exact ⟨body, g, hfound, hg, hdepth⟩
  | _ => simp [Condition.references] at hname

/-! ### Completeness -/

theorem isComplete_null (s : Scope) : s.IsComplete (.lit .null) := by
  have hneeds (name : String) : ¬ s.Needs (.lit .null) name :=
    fun ⟨_, ⟨_, hc, _⟩, _⟩ => Graph.not_holds_lit hc
  exact ⟨fun _ ⟨_, hc, _⟩ => absurd hc Graph.not_holds_lit,
    fun name hname => absurd hname (hneeds name), fun name hname => absurd hname (hneeds name)⟩

/-- A name that a condition needs stands for a formula where the condition does. -/
theorem Stands.of_needs {f : Formula} {name : String} (h : s.Stands x f)
    (hneeds : s.Needs x name) :
    ∃ body g, s.definitions.find? name = some body ∧ s.Stands body g := by
  obtain ⟨a, ⟨c, hc, ha⟩, hname⟩ := hneeds
  obtain ⟨body, g, hfound, hg, _⟩ := h.body hc ha
  induction hname with
  | refl => exact ⟨body, g, hfound, hg⟩
  | tail _ hab ih =>
    obtain ⟨body, g, hfound, hg⟩ := ih
    obtain ⟨body', hfound', d, hd, hb⟩ := hab
    obtain rfl : body = body' := Option.some.inj (hfound.symm.trans hfound')
    obtain ⟨next, k, hnext, hk, _⟩ := hg.body hd hb
    exact ⟨next, k, hnext, hk⟩

/-- A name that stands for a formula does not lead back to itself: each name on the way stands
for a formula that is less deep. -/
theorem Stands.not_transGen_refers {name : String} {body : Operand} {f : Formula}
    (hfound : s.definitions.find? name = some body) (h : s.Stands body f) :
    ¬ Relation.TransGen s.Refers name name := by
  induction hn : f.depth using Nat.strongRecOn generalizing name body f with
  | ind n ih =>
    intro hcycle
    obtain ⟨b, ⟨body', hfound', c, hc, hb⟩, hback⟩ := Relation.TransGen.head'_iff.1 hcycle
    obtain rfl : body = body' := Option.some.inj (hfound.symm.trans hfound')
    obtain ⟨next, g, hnext, hg, hlt⟩ := h.body hc hb
    exact ih g.depth (hn ▸ hlt) hnext hg rfl (.tail' hback ⟨body, hfound, c, hc, hb⟩)

theorem Stands.isComplete {f : Formula} (h : s.Stands x f) : s.IsComplete x where
  columns n hn := by
    obtain ⟨c, hc, hn⟩ := hn
    exact h.hasColumn hc hn
  defined name hname := by
    obtain ⟨body, g, hfound, hg⟩ := h.of_needs hname
    refine ⟨body, hfound, fun n hn => ?_⟩
    obtain ⟨c, hc, hn⟩ := hn
    exact hg.hasColumn hc hn
  acyclic name hname := by
    obtain ⟨body, g, hfound, hg⟩ := h.of_needs hname
    exact hg.not_transGen_refers hfound

/-- A condition stands for a formula if its fields have columns and its names stand for
formulas. -/
theorem exists_stands (hx : s.graph.HoldsShowable x)
    (hcolumns : ∀ n, s.graph.Uses x n → s.HasColumn n)
    (hbodies : ∀ name, s.graph.Mentions x name →
      ∃ body f, s.resolve (.lit (.text name)) = .ok body ∧ s.Stands body f) :
    ∃ f, s.Stands x f := by
  obtain ⟨c, hc, hshow⟩ := hx
  have hfields : ∀ n ∈ c.fields, ∃ name, s.column (.lit (.integer n)) = .ok name :=
    fun n hn => hasColumn_iff.1 (hcolumns n ⟨c, hc, hn⟩)
  have hreferences : ∀ name ∈ c.references,
      ∃ f body, s.resolve (.lit (.text name)) = .ok body ∧ s.Stands body f := by
    intro name hname
    obtain ⟨body, f, h⟩ := hbodies name ⟨c, hc, hname⟩
    exact ⟨f, body, h⟩
  have : Nonempty Formula := ⟨.atom (.column "")⟩
  choose! column hcolumn using hfields
  choose! formula hformula using hreferences
  exact ⟨_, hc.stands hcolumn hshow.literals hformula⟩

/-- Of two names that a condition needs, what the second one stands for leads to the first. -/
def Below (s : Scope) (x : Operand) (b a : {name // s.Needs x name}) : Prop :=
  Relation.TransGen s.Refers a b

/-- A condition needs finitely many names, so where none leads back to itself they can be put in
one after another. -/
theorem IsComplete.wellFounded_below (h : s.IsComplete x) : WellFounded (s.Below x) := by
  have hsubset : {name | s.Needs x name} ⊆ {name | name ∈ s.definitions.names} := by
    intro name hname
    obtain ⟨body, hfound, _⟩ := h.defined name hname
    exact NameTable.mem_names_of_find? hfound
  have : Finite {name // s.Needs x name} := ((List.finite_toSet _).subset hsubset).to_subtype
  have : IsTrans _ (s.Below x) := ⟨fun _ _ _ hba hcb => hcb.trans hba⟩
  have : Std.Irrefl (s.Below x) := ⟨fun a => h.acyclic a.1 a.2⟩
  exact Finite.wellFounded_of_trans_of_irrefl _

theorem IsComplete.exists_stands (hs : s.IsDefinedWell) (hx : s.graph.HoldsShowable x)
    (h : s.IsComplete x) : ∃ f, s.Stands x f := by
  have hbody (a : {name // s.Needs x name}) :
      ∃ body f, s.resolve (.lit (.text a)) = .ok body ∧ s.Stands body f := by
    induction a using h.wellFounded_below.induction with
    | h a ih =>
      obtain ⟨body, hfound, hcolumns⟩ := h.defined a.1 a.2
      have hbelow {name : String} (hname : s.graph.Mentions body name) : s.Refers a.1 name :=
        ⟨body, hfound, hname⟩
      obtain ⟨f, hf⟩ := Scope.exists_stands (hs a.1 body hfound) hcolumns fun name hname =>
        ih ⟨name, a.2.imp fun _ hc => ⟨hc.1, hc.2.tail (hbelow hname)⟩⟩ (.single (hbelow hname))
      exact ⟨body, f, resolve_eq_ok_iff.2 ⟨a.1, rfl, hfound, hf.ne_null⟩, hf⟩
  exact Scope.exists_stands hx h.columns fun name hname => hbody ⟨name, name, hname, .refl⟩

/-- A condition stands for a formula exactly if it is complete. -/
theorem exists_stands_iff (hs : s.IsDefinedWell) (hx : s.graph.HoldsShowable x) :
    (∃ f, s.Stands x f) ↔ s.IsComplete x :=
  ⟨fun ⟨_, hf⟩ => hf.isComplete, IsComplete.exists_stands hs hx⟩

end Scope

end FilterCompiler
