import FilterCompiler.Proofs.Agreement
import FilterCompiler.Proofs.Override

/-! Fields in place of what an override writes. Put a bare field in place of every custom node and
of every value that only the override can write, at whatever depth it is met. Proved here: where
the override compiles the one condition, the built-in dialect compiles the other, and the two texts
are the same but for those fields, in place of which stands what the override makes of the node or
value, with nothing around it. -/

namespace FilterCompiler

/-! ### Fragments that are filled in -/

namespace Fragment

/-- A text in place of a column that has one. -/
def fill (filling : String → Option String) : Fragment → Fragment
  | fixed text => fixed text
  | column name => (filling name).elim (column name) fixed

variable {mark : Char} {filling : String → Option String}

@[simp] theorem fill_fixed (text : String) : (fixed text).fill filling = fixed text := rfl

theorem fill_column_of_none {name : String} (h : filling name = none) :
    (column name).fill filling = column name := by
  simp [fill, h]

theorem fill_column_of_some {name text : String} (h : filling name = some text) :
    (column name).fill filling = fixed text := by
  simp [fill, h]

end Fragment

/-! ### Holes -/

/-- What a field can stand for: a node, or a value. -/
inductive Hole where
  | node (x : Operand)
  | value (x : Operand)
deriving DecidableEq

namespace Override

/-- What an override makes of a node or of a value by itself. -/
def rendering (o : Override) (s : Scope) : Hole → Rendered
  | .node x => o.dialect.formatOperator s x
  | .value x => o.dialect.formatValue s x

/-- The texts in place of the columns that stand for something. -/
def filling (o : Override) (s : Scope) (holes : String → Option Hole) (name : String) :
    Option String :=
  (holes name).bind fun hole => (o.rendering s hole).toOption

/-- A text is what fragments come to once each column that stands for something is filled in, and
each of these can be. -/
structure Fills (o : Override) (s : Scope) (holes : String → Option Hole) (text : String)
    (fragments : List Fragment) : Prop where
  eq : text = Fragment.writeAll o.base.mark (fragments.map (Fragment.fill (o.filling s holes)))
  filled : ∀ name hole, Fragment.column name ∈ fragments → holes name = some hole →
    ∃ text, o.rendering s hole = .ok text

namespace Fills

variable {o : Override} {s : Scope} {holes : String → Option Hole} {text text' : String}
  {fragments fragments' : List Fragment}

theorem fixed (text : String) : o.Fills s holes text [.fixed text] :=
  ⟨by simp, by simp⟩

theorem append (h : o.Fills s holes text fragments) (h' : o.Fills s holes text' fragments') :
    o.Fills s holes (text ++ text') (fragments ++ fragments') where
  eq := by rw [List.map_append, Fragment.writeAll_append, ← h.eq, ← h'.eq]
  filled name hole hname := by
    rcases List.mem_append.1 hname with hname | hname
    · exact h.filled name hole hname
    · exact h'.filled name hole hname

theorem kept {name : String} (h : holes name = none) :
    o.Fills s holes (Text.Quoted.quote o.base.mark name) [.column name] where
  eq := by
    have hfilling : o.filling s holes name = none := by rw [filling, h]; rfl
    simp [Fragment.fill_column_of_none hfilling, Fragment.write]
  filled other hole hmem hother := by
    obtain rfl : other = name := by simpa using hmem
    rw [h] at hother
    cases hother

theorem hole {name : String} {hole : Hole} (h : holes name = some hole)
    (htext : o.rendering s hole = .ok text) : o.Fills s holes text [.column name] where
  eq := by
    have hfilling : o.filling s holes name = some text := by
      rw [filling, h, Option.bind_some, htext]
      rfl
    simp [Fragment.fill_column_of_some hfilling]
  filled other hole' hmem hother := by
    obtain rfl : other = name := by simpa using hmem
    rw [h] at hother
    cases hother
    exact ⟨text, htext⟩

theorem enclosed (needed : Bool) (h : o.Fills s holes text fragments) :
    o.Fills s holes (Formula.enclosed needed text)
      (Formula.enclosedFragments needed fragments) := by
  cases needed with
  | false => exact h
  | true => exact ((fixed "(").append h).append (fixed ")")

/-- Values with commas between them. -/
theorem listed {texts : List String} {ts : List Term}
    (h : List.Forall₂ (fun text t => o.Fills s holes text [t.fragment]) texts ts) :
    o.Fills s holes (", ".intercalate texts) (Term.listed ts) := by
  induction h with
  | nil => exact ⟨rfl, by simp [Term.listed]⟩
  | @cons text t texts ts ht hts ih =>
    cases hts with
    | nil => simpa [Term.listed] using ht
    | @cons text' t' texts ts ht' hts =>
      rw [String.intercalate_cons_cons]
      exact (ht.append (fixed ", ")).append ih

end Fills

/-! ### Fields in place of what an override writes -/

section

variable (o : Override) (s s₀ : Scope) (holes : String → Option Hole)

/-- An operand is a field whose column stands for something. -/
def IsHole (x₀ : Operand) (hole : Hole) : Prop :=
  ∃ number name, s₀.graph.node? x₀ = some (.field number) ∧ s₀.column number = .ok name ∧
    holes name = some hole

/-- Two operands are one field, whose column stands for nothing but itself. -/
def IsKept (x x₀ : Operand) : Prop :=
  ∃ number, s.graph.node? x = some (.field number) ∧
    s₀.graph.node? x₀ = some (.field number) ∧
    ∀ name, s.column number = .ok name → s₀.column number = .ok name ∧ holes name = none

/-- A value is left as it is, or there is a field in place of a value that only the override
writes. -/
inductive ReplacesValue : Operand → Operand → Prop where
  | literal {v : Literal} (common : s.graph.IsCommonValue (.lit v)) :
      ReplacesValue (.lit v) (.lit v)
  | field {x x₀ : Operand} (kept : IsKept s s₀ holes x x₀) : ReplacesValue x x₀
  | hole {x x₀ : Operand} (own : (o.value s x).isSome) (hole : IsHole s₀ holes x₀ (.value x)) :
      ReplacesValue x x₀

/-- A condition is left as it is but for a bare field in place of each custom node and of each
value that only the override writes, also in what names stand for. -/
inductive Replaces : Operand → Operand → Prop where
  | hole {x x₀ : Operand} (own : (o.operator s x).isSome) (hole : IsHole s₀ holes x₀ (.node x)) :
      Replaces x x₀
  | join {x x₀ l l₀ r r₀ : Operand} {k : Connective}
      (node : s.graph.node? x = some (k.node l r))
      (node₀ : s₀.graph.node? x₀ = some (k.node l₀ r₀))
      (left : Replaces l l₀) (right : Replaces r r₀) : Replaces x x₀
  | not {x x₀ y y₀ : Operand} (node : s.graph.node? x = some (.not y))
      (node₀ : s₀.graph.node? x₀ = some (.not y₀)) (operand : Replaces y y₀) : Replaces x x₀
  | ordering {x x₀ l l₀ r r₀ : Operand} {greater : Bool}
      (node : s.graph.node? x = some (.ordering greater l r))
      (node₀ : s₀.graph.node? x₀ = some (.ordering greater l₀ r₀))
      (left : ReplacesValue o s s₀ holes l l₀) (right : ReplacesValue o s s₀ holes r r₀) :
      Replaces x x₀
  | equality {x x₀ y y₀ values values₀ : Operand} {negated : Bool} {items items₀ : List Operand}
      (node : s.graph.node? x = some (.equality negated y values))
      (node₀ : s₀.graph.node? x₀ = some (.equality negated y₀ values₀))
      (operand : ReplacesValue o s s₀ holes y y₀)
      (elements : s.graph.elements? values = some items)
      (elements₀ : s₀.graph.elements? values₀ = some items₀)
      (compared : List.Forall₂ (ReplacesValue o s s₀ holes) items items₀) : Replaces x x₀
  | nullCheck {x x₀ y y₀ : Operand} {negated : Bool}
      (node : s.graph.node? x = some (.nullCheck negated y))
      (node₀ : s₀.graph.node? x₀ = some (.nullCheck negated y₀))
      (value : ReplacesValue o s s₀ holes y y₀) : Replaces x x₀
  | field {x x₀ : Operand} (kept : IsKept s s₀ holes x x₀) : Replaces x x₀
  | reference {x x₀ name body body₀ : Operand}
      (node : s.graph.node? x = some (.reference name))
      (node₀ : s₀.graph.node? x₀ = some (.reference name))
      (resolved : s.resolve name = .ok body) (resolved₀ : s₀.resolve name = .ok body₀)
      (body : Replaces body body₀) : Replaces x x₀

end

variable {o : Override} {s s₀ : Scope} {holes : String → Option Hole} {x x₀ : Operand}

theorem term_of_isHole {hole : Hole} (h : IsHole s₀ holes x₀ hole) :
    ∃ name, s₀.term x₀ = .ok (.column name) ∧ holes name = some hole := by
  obtain ⟨number, name, node, hcolumn, hname⟩ := h
  exact ⟨name, by rw [Scope.term_of_field node, hcolumn]; rfl, hname⟩

/-- The column of a field that is kept is written as it was. -/
theorem IsKept.fills (h : IsKept s s₀ holes x x₀) {text : String}
    (hx : o.dialect.formatValue s x = .ok text) :
    ∃ name, s₀.term x₀ = .ok (.column name) ∧ o.Fills s holes text [.column name] := by
  obtain ⟨number, node, node₀, hcolumn⟩ := h
  rw [formatValue_of_none (o.value_eq_none (Graph.isCommonValue_of_field node)),
    BuiltIn.formatValue_eq, Scope.term_of_field node, map_map] at hx
  obtain ⟨name, hname, rfl⟩ := map_eq_ok_iff.1 hx
  obtain ⟨hname₀, hholes⟩ := hcolumn name hname
  exact ⟨name, by rw [Scope.term_of_field node₀, hname₀]; rfl, .kept hholes⟩

/-- A literal is written with nothing to fill in. -/
theorem fills_literal {v : Literal} {t : Term} (h : s.term (.lit v) = .ok t) :
    s₀.term (.lit v) = .ok t ∧ o.Fills s holes (t.write o.base.mark) [t.fragment] := by
  have hterm : s₀.term (.lit v) = s.term (.lit v) := by
    cases v <;> simp only [Scope.term, Scope.literalTerm, Scope.text_lit]
  refine ⟨hterm.trans h, ?_⟩
  have hnumber {r : Rendered} (h : r.map Term.number = .ok t) :
      o.Fills s holes (t.write o.base.mark) [t.fragment] := by
    obtain ⟨shown, _, rfl⟩ := map_eq_ok_iff.1 h
    exact .fixed _
  cases v with
  | null | truth _ | text _ =>
    cases h
    exact .fixed _
  | integer n | float n | decimal n =>
    simp only [Scope.term, Scope.literalTerm] at h
    exact hnumber h
  | bytes _ | day _ | moment _ => cases h

/-- A value is written as its replacement, filled in. -/
theorem ReplacesValue.fills (h : ReplacesValue o s s₀ holes x x₀) {text : String}
    (hx : o.dialect.formatValue s x = .ok text) :
    ∃ t, s₀.term x₀ = .ok t ∧ o.Fills s holes text [t.fragment] := by
  cases h with
  | literal common =>
    rw [formatValue_of_none (o.value_eq_none common), BuiltIn.formatValue_eq] at hx
    obtain ⟨t, ht, rfl⟩ := map_eq_ok_iff.1 hx
    exact ⟨t, fills_literal ht⟩
  | field kept =>
    obtain ⟨name, hterm, hfills⟩ := kept.fills hx
    exact ⟨.column name, hterm, hfills⟩
  | hole own hole =>
    obtain ⟨name, hterm, hname⟩ := term_of_isHole hole
    exact ⟨.column name, hterm, .hole hname hx⟩

theorem ReplacesValue.eq_null_iff (h : ReplacesValue o s s₀ holes x x₀) :
    x = .lit .null ↔ x₀ = .lit .null := by
  cases h with
  | literal => exact Iff.rfl
  | field kept =>
    obtain ⟨number, node, node₀, _⟩ := kept
    refine iff_of_false (fun h => ?_) fun h => ?_
    · subst h
      cases node
    · subst h
      cases node₀
  | hole own hole =>
    obtain ⟨number, _, node₀, _⟩ := hole
    refine iff_of_false (fun h => ?_) fun h => ?_
    · subst h
      have hcommon : s.graph.IsCommonValue (.lit .null) := trivial
      rw [o.value_eq_none hcommon] at own
      cases own
    · subst h
      cases node₀

theorem fills_all {items items₀ : List Operand}
    (h : List.Forall₂ (ReplacesValue o s s₀ holes) items items₀) {texts : List String}
    (hitems : items.mapM (o.dialect.formatValue s) = .ok texts) :
    ∃ ts, items₀.mapM s₀.term = .ok ts ∧
      List.Forall₂ (fun text t => o.Fills s holes text [t.fragment]) texts ts := by
  rw [mapM_eq_ok_iff] at hitems
  induction h generalizing texts with
  | nil =>
    cases hitems
    exact ⟨[], rfl, .nil⟩
  | cons hx _ ih =>
    cases hitems with
    | cons htext hrest =>
      obtain ⟨t, ht, hfills⟩ := hx.fills htext
      obtain ⟨ts, hts, hall⟩ := ih hrest
      exact ⟨t :: ts, mapM_eq_ok_iff.2 (.cons ht (mapM_eq_ok_iff.1 hts)), .cons hfills hall⟩

section

variable {negated : Bool} {left : String} {t : Term}

theorem fills_among {texts : List String} {ts : List Term}
    (hleft : o.Fills s holes left [t.fragment])
    (hall : List.Forall₂ (fun text t => o.Fills s holes text [t.fragment]) texts ts) :
    o.Fills s holes (left ++ (if negated then " NOT IN (" else " IN (") ++
      ", ".intercalate texts ++ ")") (Predicate.among negated t ts).fragments := by
  have hlisted := ((hleft.append (.fixed (if negated then " NOT IN (" else " IN ("))).append
    (.listed hall)).append (.fixed ")")
  simpa [Predicate.fragments] using hlisted

/-- A comparison with a single value that is not NULL. -/
theorem fills_compared {shown : String} {u : Term} (hleft : o.Fills s holes left [t.fragment])
    (hshown : o.Fills s holes shown [u.fragment]) (hne : u ≠ .null) :
    o.Fills s holes (left ++ (if negated then " <> " else " = ") ++ shown)
      (Predicate.membership negated t [u]).fragments := by
  have hcompare : Predicate.membership negated t [u] =
      .compare (if negated then .unequal else .equal) t u := by
    cases u <;> first | exact absurd rfl hne | rfl
  have hsign : (if negated then Sign.unequal else .equal).write =
      if negated then " <> " else " = " := by cases negated <;> rfl
  rw [hcompare, Predicate.fragments, hsign]
  exact (hleft.append (.fixed (if negated then " <> " else " = "))).append hshown

theorem fills_membership {y y₀ values values₀ : Operand}
    {items items₀ : List Operand} (operand : ReplacesValue o s s₀ holes y y₀)
    (elements : s.graph.elements? values = some items)
    (elements₀ : s₀.graph.elements? values₀ = some items₀)
    (compared : List.Forall₂ (ReplacesValue o s s₀ holes) items items₀) {text : String}
    (h : Dialect.membership s (o.dialect.formatValue s) negated y values = .ok text) :
    ∃ p, s₀.membership negated y₀ values₀ = .ok p ∧ o.Fills s holes text p.fragments := by
  obtain ⟨left, hleft, h⟩ := bind_eq_ok_iff.1 h
  obtain ⟨t, ht, hfills⟩ := operand.fills hleft
  rw [Scope.membership_of_elements elements₀, ht, ok_bind]
  rw [Dialect.valuesOf, elements, ok_bind] at h
  cases compared with
  | nil =>
    cases h
    exact ⟨_, rfl, fills_among hfills .nil⟩
  | @cons z z₀ rest rest₀ hz hrest =>
    cases hrest with
    | nil =>
      by_cases hnull : z = .lit .null
      · obtain rfl := hz.eq_null_iff.1 hnull
        subst hnull
        cases h
        exact ⟨_, rfl, hfills.append (.fixed _)⟩
      · split at h
        · next heq => exact absurd (List.cons.inj heq).1 hnull
        · next only _ heq =>
          obtain rfl := (List.cons.inj heq).1
          obtain ⟨shown, hshown, h⟩ := bind_eq_ok_iff.1 h
          cases h
          obtain ⟨u, hu, hfills'⟩ := hz.fills hshown
          have hne : u ≠ .null := fun h =>
            hnull (hz.eq_null_iff.2 (Scope.eq_null_of_term (h ▸ hu)))
          rw [List.mapM_cons, hu]
          exact ⟨_, rfl, fills_compared hfills hfills' hne⟩
        · next _ honly => exact absurd rfl (honly z)
    | @cons w w₀ rest rest₀ hw hrest =>
      split at h
      · next heq => cases heq
      · next heq => cases heq
      · next items' _ _ =>
        obtain ⟨texts, htexts, h⟩ := bind_eq_ok_iff.1 h
        cases h
        obtain ⟨ts, hts, hall⟩ := fills_all (.cons hz (.cons hw hrest)) htexts
        have hmembership : Predicate.membership negated t ts = .among negated t ts := by
          obtain ⟨u, _, _, hus, rfl⟩ := List.forall₂_cons_left_iff.1 (mapM_eq_ok_iff.1 hts)
          obtain ⟨_, _, _, _, rfl⟩ := List.forall₂_cons_left_iff.1 hus
          cases u <;> rfl
        rw [hts]
        refine ⟨Predicate.membership negated t ts, rfl, ?_⟩
        rw [hmembership]
        exact fills_among hfills hall

end

theorem Replaces.isJunction (h : Replaces o s s₀ holes x x₀) :
    (s₀.graph.node? x₀).any Node.isJunction = (s.graph.node? x).any Node.isJunction := by
  cases h with
  | hole own hole =>
    obtain ⟨number, _, node₀, _⟩ := hole
    obtain ⟨kind, tag, arguments, node⟩ := isCustom_of_isSome own
    rw [node, node₀]
    rfl
  | @join _ _ _ _ _ _ k node node₀ =>
    rw [node, node₀]
    cases k <;> rfl
  | not node node₀ =>
    rw [node, node₀]
    rfl
  | reference node node₀ => rw [node, node₀]
  | @ordering _ _ _ _ _ _ k node node₀ | @equality _ _ _ _ _ _ k _ _ node node₀
  | @nullCheck _ _ _ _ k node node₀ =>
    rw [node, node₀]
    cases k <;> rfl
  | field kept =>
    obtain ⟨number, node, node₀, _⟩ := kept
    rw [node, node₀]

/-- A condition stands for a formula no deeper than the room, which comes to a text once it is
filled in. -/
def StandsFilled (o : Override) (s s₀ : Scope) (holes : String → Option Hole) (x₀ : Operand)
    (room : Nat) (text : String) : Prop :=
  ∃ f, s₀.Stands x₀ f ∧ f.depth ≤ room ∧ o.Fills s holes text f.fragments

namespace StandsFilled

variable {room : Nat} {text text' : String} {l₀ r₀ : Operand}

theorem atom {p : Predicate} (hshape : s₀.shape x₀ = .ok (.atom p))
    (h : o.Fills s holes text p.fragments) : o.StandsFilled s s₀ holes x₀ (room + 1) text :=
  ⟨_, .atom hshape, by simp [Formula.depth], h⟩

theorem join {k : Connective} {l r : Operand} (node₀ : s₀.graph.node? x₀ = some (k.node l₀ r₀))
    (left : o.StandsFilled s s₀ holes l₀ room text)
    (right : o.StandsFilled s s₀ holes r₀ room text')
    (hl : Replaces o s s₀ holes l l₀) (hr : Replaces o s s₀ holes r r₀) :
    o.StandsFilled s s₀ holes x₀ (room + 1)
      (Formula.enclosed ((s.graph.node? l).any Node.isJunction) text ++ k.write ++
        Formula.enclosed ((s.graph.node? r).any Node.isJunction) text') := by
  obtain ⟨f, hf, hdepth, hfills⟩ := left
  obtain ⟨g, hg, hdepth', hfills'⟩ := right
  refine ⟨_, .join (Scope.shape_join node₀) hf hg, by simp only [Formula.depth]; omega, ?_⟩
  rw [← hl.isJunction, ← hr.isJunction, hf.isJunction, hg.isJunction]
  simpa [Formula.fragments] using
    ((hfills.enclosed f.isJunction).append (.fixed k.write)).append
      (hfills'.enclosed g.isJunction)

theorem not (node₀ : s₀.graph.node? x₀ = some (.not l₀))
    (h : o.StandsFilled s s₀ holes l₀ room text) :
    o.StandsFilled s s₀ holes x₀ (room + 1) ("NOT (" ++ text ++ ")") := by
  obtain ⟨f, hf, hdepth, hfills⟩ := h
  refine ⟨_, .not (Scope.shape_not node₀) hf, by simp only [Formula.depth]; omega, ?_⟩
  simpa [Formula.fragments] using ((Fills.fixed "NOT (").append hfills).append (.fixed ")")

theorem named {name body₀ : Operand} (node₀ : s₀.graph.node? x₀ = some (.reference name))
    (resolved₀ : s₀.resolve name = .ok body₀)
    (h : o.StandsFilled s s₀ holes body₀ room text) :
    o.StandsFilled s s₀ holes x₀ (room + 1) text := by
  obtain ⟨f, hf, hdepth, hfills⟩ := h
  have hshape := Scope.shape_reference node₀
  rw [resolved₀, map_ok] at hshape
  exact ⟨_, .named hshape hf, by simp only [Formula.depth]; omega, hfills⟩

/-- A bare field is written as its column. -/
theorem field {number : Operand} {name : String}
    (node₀ : s₀.graph.node? x₀ = some (.field number)) (hname : s₀.column number = .ok name)
    (h : o.Fills s holes text [.column name]) :
    o.StandsFilled s s₀ holes x₀ (room + 1) text := by
  have hshape := Scope.shape_field node₀
  rw [hname, map_ok] at hshape
  exact atom hshape h

end StandsFilled

/-- What an override writes is what the built-in dialect writes with fields in place of all that is
the override's own, once these are filled in. -/
theorem Replaces.fills (h : Replaces o s s₀ holes x x₀) {room : Nat} {path : List Operand}
    {text : String} (hroom : room ≤ s.room)
    (hx : o.dialect.express s room path x = .ok text) :
    o.StandsFilled s s₀ holes x₀ room text := by
  induction h generalizing room path text with
  | hole own hole =>
    obtain ⟨below, rfl, hrun⟩ := exists_operator_of_express hx
    obtain ⟨number, name, node₀, hcolumn, hname⟩ := hole
    exact .field node₀ hcolumn (.hole hname (formatOperator_of_operator (by omega) hrun))
  | @join _ _ l _ r _ k node node₀ left right ihl ihr =>
    obtain ⟨below, rfl, hrun⟩ :=
      exists_commonOperator_of_express node (by cases k <;> simp [Connective.node]) hx
    rw [Dialect.commonOperator_join node] at hrun
    simp only [Dialect.junction, Dialect.side_eq, bind_eq_ok_iff, map_eq_ok_iff] at hrun
    obtain ⟨_, ⟨a, ha, rfl⟩, _, ⟨b, hb, rfl⟩, htext⟩ := hrun
    cases htext
    exact .join node₀ (ihl (by omega) ha) (ihr (by omega) hb) left right
  | not node node₀ operand ih =>
    obtain ⟨below, rfl, hrun⟩ := exists_commonOperator_of_express node (by simp) hx
    rw [Dialect.commonOperator_not node] at hrun
    obtain ⟨a, ha, htext⟩ := bind_eq_ok_iff.1 hrun
    cases htext
    exact .not node₀ (ih (by omega) ha)
  | @ordering _ _ _ _ _ _ greater node node₀ left right =>
    obtain ⟨below, rfl, hrun⟩ :=
      exists_commonOperator_of_express node (by cases greater <;> simp [Node.ordering]) hx
    rw [Dialect.commonOperator_ordering node] at hrun
    obtain ⟨a, ha, hrun⟩ := bind_eq_ok_iff.1 hrun
    obtain ⟨b, hb, htext⟩ := bind_eq_ok_iff.1 hrun
    cases htext
    obtain ⟨t, ht, hfills⟩ := left.fills ha
    obtain ⟨u, hu, hfills'⟩ := right.fills hb
    have hshape := Scope.shape_ordering node₀
    rw [ht, ok_bind, hu, map_ok] at hshape
    exact .atom hshape ((hfills.append (.fixed _)).append hfills')
  | @equality _ _ _ _ _ _ negated _ _ node node₀ operand elements elements₀ compared =>
    obtain ⟨below, rfl, hrun⟩ :=
      exists_commonOperator_of_express node (by cases negated <;> simp [Node.equality]) hx
    rw [Dialect.commonOperator_equality node] at hrun
    obtain ⟨p, hp, hfills⟩ := fills_membership operand elements elements₀ compared hrun
    have hshape := Scope.shape_equality node₀
    rw [hp, map_ok] at hshape
    exact .atom hshape hfills
  | @nullCheck _ _ _ _ negated node node₀ value =>
    obtain ⟨below, rfl, hrun⟩ :=
      exists_commonOperator_of_express node (by cases negated <;> simp [Node.nullCheck]) hx
    rw [Dialect.commonOperator_nullCheck node] at hrun
    obtain ⟨a, ha, htext⟩ := bind_eq_ok_iff.1 hrun
    cases htext
    obtain ⟨t, ht, hfills⟩ := value.fills ha
    have hshape := Scope.shape_nullCheck node₀
    rw [ht, map_ok] at hshape
    exact .atom hshape (hfills.append (.fixed _))
  | field kept =>
    obtain ⟨number, node, node₀, _⟩ := id kept
    obtain ⟨below, rfl, hrun⟩ := exists_commonOperator_of_express node (by simp) hx
    rw [Dialect.commonOperator_field node] at hrun
    obtain ⟨name, hterm, hfills⟩ := kept.fills hrun
    rw [Scope.term_of_field node₀] at hterm
    obtain ⟨name', hname, heq⟩ := map_eq_ok_iff.1 hterm
    cases heq
    exact .field node₀ hname hfills
  | reference node node₀ resolved resolved₀ _ ih =>
    obtain ⟨below, rfl, hrun⟩ := exists_commonOperator_of_express node (by simp) hx
    rw [Dialect.commonOperator_reference node, resolved, ok_bind] at hrun
    exact .named node₀ resolved₀ (ih (by omega) hrun)

end Override

end FilterCompiler
