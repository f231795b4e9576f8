import FilterCompiler.Proofs.Copying
import FilterCompiler.Proofs.Inlining
import Mathlib.Data.Set.Finite.List
import Mathlib.Order.WellFounded

/-! Sharing does not show. A way from a condition to what it is made of, or to what a name in it
stands for, is taken not to lead back. Proved here: then all that conditions are written from has
a copy in which no part stands in two places, and from any copy, shared or not, a condition is
written or fails just as from what was copied, whatever stands on the path above it that it does
not lead to. -/

namespace FilterCompiler

open FilterCompiler.Graph (Copies)

/-! ### What a copy keeps -/

namespace Graph.Copies

variable {g G : Graph} {x x' : Operand}

theorem node? (h : g.Copies G x x') :
    (g.node? x = none ∧ G.node? x' = none) ∨
      ∃ n xs, g.node? x = some n ∧ G.node? x' = some (n.refill xs) ∧
        List.Forall₂ (g.Copies G) n.children xs := by
  have hchildren := h.forall₂
  cases h with
  | lit v => exact .inl ⟨rfl, rfl⟩
  | @part _ _ p xs original copy length _ =>
    simp only [children, part?, original, copy, Part.children_refill length] at hchildren
    cases p with
    | node n =>
      exact .inr ⟨n, xs, by simp [Graph.node?, part?, original],
        by simp [Graph.node?, part?, copy, Part.refill], hchildren⟩
    | _ => exact .inl ⟨by simp [Graph.node?, part?, original],
        by simp [Graph.node?, part?, copy, Part.refill]⟩

theorem kind_eq (h : g.Copies G x x') : G.kind x' = g.kind x := by
  cases h with
  | lit v => rfl
  | @part _ _ p xs original copy _ _ =>
    simp only [kind, original, copy]
    cases p with
    | node n => exact n.kind_refill xs
    | _ => rfl

theorem node?_eq_field_iff (h : g.Copies G x x') (number : Operand) :
    G.node? x' = some (.field number) ↔ g.node? x = some (.field number) := by
  rcases h.node? with ⟨hn, hn'⟩ | ⟨n, xs, hn, hn', _⟩
  · rw [hn, hn']
  · rw [hn, hn', Option.some.injEq, Option.some.injEq, n.refill_eq_field_iff]

theorem isJunction_eq (h : g.Copies G x x') :
    (G.node? x').any Node.isJunction = (g.node? x).any Node.isJunction := by
  rcases h.node? with ⟨hn, hn'⟩ | ⟨n, xs, hn, hn', _⟩
  · rw [hn, hn']
  · rw [hn, hn']
    exact n.isJunction_refill xs

theorem elements? (h : g.Copies G x x') :
    Option.Rel (List.Forall₂ (g.Copies G)) (g.elements? x) (G.elements? x') := by
  have hchildren := h.forall₂
  cases h with
  | lit v =>
    have hlits {items : List Operand} (h : ∀ y ∈ items, ∃ v, y = .lit v) :
        List.Forall₂ (g.Copies G) items items := by
      refine List.forall₂_same.2 fun y hy => ?_
      obtain ⟨v, rfl⟩ := h y hy
      exact .lit v
    cases v with
    | text t => exact .some (hlits (by simp))
    | bytes bs => exact .some (hlits (by simp))
    | _ => exact .none
  | @part _ _ p xs original copy length _ =>
    simp only [children, part?, original, copy, Part.children_refill length] at hchildren
    have hkeys {entries : List (Operand × Operand)}
        (h : List.Forall₂ (g.Copies G) (entries.map Prod.fst ++ entries.map Prod.snd) xs) :
        List.Forall₂ (g.Copies G) (entries.map Prod.fst)
          (((xs.take entries.length).zip (xs.drop entries.length)).map Prod.fst) := by
      have hlength := h.length_eq
      simp only [List.length_append, List.length_map] at hlength
      have htake := List.forall₂_take entries.length h
      rw [List.take_left' (by simp)] at htake
      rwa [List.map_fst_zip (by simp; omega)]
    simp only [Graph.elements?, part?, original, copy, Part.refill]
    cases p with
    | node n => exact .none
    | list items | tuple items | set items => exact .some hchildren
    | record entries | ordered entries => exact .some (hkeys hchildren)

theorem has (h : g.Copies G x x') : G.Has x' := by
  cases h with
  | lit v => trivial
  | part _ copy => exact has_of_get? copy

/-- What has a well-founded tree below it is a copy of itself. -/
theorem refl (hg : g.IsClosed) (hacc : Acc (flip g.Child) x) (hx : g.Has x) : g.Copies g x x := by
  induction hacc with
  | intro x _ ih =>
    cases x with
    | lit v => exact .lit v
    | part n =>
      have hp : g.get? n = some g.parts[n] := Array.getElem?_eq_getElem hx
      have hchildren : g.children (.part n) = g.parts[n].children := by
        simp only [children, part?, hp]
      have hsame : List.Forall₂ (g.Copies g) g.parts[n].children g.parts[n].children := by
        refine List.forall₂_same.2 fun y hy => ?_
        rw [← hchildren] at hy
        exact ih y hy (hg.has_of_mem_children hx hy)
      exact .part hp ((Part.refill_children _).symm ▸ hp) rfl fun e he =>
        (List.forall₂_iff_zip.1 hsame).2 he

end Graph.Copies

/-! ### Copies of scopes -/

namespace Scope

/-- A scope with the same fields, in which each name stands for a copy of what it stood for. -/
structure IsCopy (s s' : Scope) : Prop where
  graph : s.graph.Extends s'.graph
  closed : s'.IsClosed
  fields : s'.fields = s.fields
  definitions : ∀ name,
    Option.Rel (Copies s.graph s'.graph) (s.definitions.find? name) (s'.definitions.find? name)

end Scope

/-- Two runs fail with the same fault, or give related results. -/
inductive Alike {α : Type} (R : α → α → Prop) : Except Fault α → Except Fault α → Prop where
  | ok {a b : α} (related : R a b) : Alike R (.ok a) (.ok b)
  | error (e : Fault) : Alike R (.error e) (.error e)

/-- Shapes of one kind with copies below them. -/
inductive Shape.Copies (g G : Graph) : Shape → Shape → Prop where
  | atom (p : Predicate) : Copies g G (.atom p) (.atom p)
  | join (k : Connective) {l r l' r' : Operand} (left : g.Copies G l l')
      (right : g.Copies G r r') : Copies g G (.join k l r) (.join k l' r')
  | not {y y' : Operand} (operand : g.Copies G y y') : Copies g G (.not y) (.not y')
  | follow {y y' : Operand} (body : g.Copies G y y') : Copies g G (.follow y) (.follow y')

theorem Shape.Copies.below {g G : Graph} {shape shape' : Shape} (h : shape.Copies g G shape') :
    List.Forall₂ (g.Copies G) shape.below shape'.below := by
  cases h with
  | atom p => exact .nil
  | join k left right => exact .cons left (.cons right .nil)
  | not operand => exact .cons operand .nil
  | follow body => exact .cons body .nil

namespace Scope.IsCopy

variable {s s' : Scope} {x x' y y' : Operand} (hs : s.IsClosed) (h : s.IsCopy s')

include hs h

theorem column_eq (hx : s.graph.Has x) : s'.column x = s.column x := by
  rw [← hs.column_eq h.graph hx]
  unfold column column.unknown
  rw [h.fields]
  rfl

theorem term_eq (hx : s.graph.Has x) (hxx' : s.graph.Copies s'.graph x x') :
    s'.term x' = s.term x := by
  have hfield := hxx'.node?_eq_field_iff
  have hkind := hxx'.kind_eq
  cases hxx' with
  | lit v => rfl
  | part =>
    simp only [term, hkind]
    split
    · next number hn' =>
      have hn := (hfield number).1 hn'
      rw [hn, h.column_eq hs (hs.graph.node hx hn number (by simp [Node.arguments]))]
    · next hnot =>
      split
      · next number hn => exact absurd ((hfield number).2 hn) (hnot number)
      · rfl

theorem mapM_term {xs xs' : List Operand} (hxs : ∀ x ∈ xs, s.graph.Has x)
    (hcopies : List.Forall₂ (s.graph.Copies s'.graph) xs xs') :
    xs'.mapM s'.term = xs.mapM s.term := by
  induction hcopies with
  | nil => rfl
  | cons hx _ ih =>
    rw [List.forall_mem_cons] at hxs
    rw [List.mapM_cons, List.mapM_cons, h.term_eq hs hxs.1 hx, ih hxs.2]

theorem membership_eq (negated : Bool) {values values' : Operand} (hx : s.graph.Has x)
    (hxx' : s.graph.Copies s'.graph x x') (hvalues : s.graph.Has values)
    (hcopy : s.graph.Copies s'.graph values values') :
    s'.membership negated x' values' = s.membership negated x values := by
  rw [membership, membership, h.term_eq hs hx hxx', Dialect.valuesOf, Dialect.valuesOf,
    hcopy.kind_eq]
  have helements := hcopy.elements?
  cases s.term x with
  | error e => rfl
  | ok t =>
    have hhas (items : List Operand) (hitems : s.graph.elements? values = some items) :=
      hs.graph.elements hvalues hitems
    generalize s.graph.elements? values = items, s'.graph.elements? values' = items' at *
    cases helements with
    | none => rfl
    | some hcopies =>
      simp only [ok_bind]
      rw [h.mapM_term hs (hhas _ rfl) hcopies]

/-- A name stands for a copy of what it stood for, or is refused as it was. -/
theorem resolve (hx : s.graph.Has x) :
    Alike (s.graph.Copies s'.graph) (s.resolve x) (s'.resolve x) := by
  have hcheck : s'.checkKey x = s.checkKey x := hs.checkKey_eq h.graph hx
  have hundefined : resolve.undefinedName s' x = resolve.undefinedName s x := by
    have htext : s'.text x = s.text x := hs.text_eq h.graph hx
    rw [resolve.undefinedName, resolve.undefinedName, htext]
  have hrefused : Alike (s.graph.Copies s'.graph) (resolve.undefinedName s x)
      (resolve.undefinedName s x) := by
    unfold resolve.undefinedName
    cases s.text x <;> exact .error _
  unfold Scope.resolve
  rw [hcheck, hundefined]
  cases s.checkKey x with
  | error e => exact .error e
  | ok _ =>
    simp only [ok_bind]
    split
    · next t =>
      have hbody := h.definitions t
      generalize s.definitions.find? t = body, s'.definitions.find? t = body' at hbody
      cases hbody with
      | none => exact hrefused
      | some hcopy =>
        cases hcopy with
        | lit v =>
          cases v with
          | null => exact hrefused
          | _ => exact .ok (.lit _)
        | part original copy length children => exact .ok (.part original copy length children)
    · exact hrefused

/-- The shape of a copy is that of what was copied, with copies below it. -/
theorem shape (hx : s.graph.Has x) (hxx' : s.graph.Copies s'.graph x x') :
    Alike (Shape.Copies s.graph s'.graph) (s.shape x) (s'.shape x') := by
  unfold Scope.shape
  rw [hxx'.kind_eq]
  rcases hxx'.node? with ⟨hn, hn'⟩ | ⟨n, xs, hn, hn', hcopies⟩
  · rw [hn, hn']
    exact .error _
  · rw [hn, hn']
    have hhas := hs.graph.node hx hn
    cases n with
    | and l r | or l r =>
      simp only [Node.children, Node.arguments] at hcopies
      rcases hcopies with _ | ⟨hl, _ | ⟨hr, _ | _⟩⟩
      exact .ok (.join _ hl hr)
    | not y =>
      rcases hcopies with _ | ⟨hy, _ | _⟩
      exact .ok (.not hy)
    | lessThan l r | greaterThan l r =>
      rcases hcopies with _ | ⟨hl, _ | ⟨hr, _ | _⟩⟩
      simp only [Node.refill, h.term_eq hs (hhas l (by simp [Node.arguments])) hl,
        h.term_eq hs (hhas r (by simp [Node.arguments])) hr]
      cases s.term l with
      | error e => exact .error e
      | ok t =>
        cases s.term r with
        | error e => exact .error e
        | ok u => exact .ok (.atom _)
    | equal y values | notEqual y values =>
      rcases hcopies with _ | ⟨hy, _ | ⟨hvalues, _ | _⟩⟩
      simp only [Node.refill, h.membership_eq hs _ (hhas y (by simp [Node.arguments])) hy
        (hhas values (by simp [Node.arguments])) hvalues]
      cases s.membership _ y values with
      | error e => exact .error e
      | ok p => exact .ok (.atom p)
    | isEmpty y | notEmpty y =>
      rcases hcopies with _ | ⟨hy, _ | _⟩
      simp only [Node.refill, h.term_eq hs (hhas y (by simp [Node.arguments])) hy]
      cases s.term y with
      | error e => exact .error e
      | ok t => exact .ok (.atom _)
    | field number =>
      simp only [Node.refill, h.column_eq hs (hhas number (by simp [Node.arguments]))]
      cases s.column number with
      | error e => exact .error e
      | ok name => exact .ok (.atom _)
    | reference name =>
      have hresolve := h.resolve hs (hhas name (by simp [Node.arguments]))
      simp only [Node.refill]
      generalize s.resolve name = body, s'.resolve name = body' at hresolve
      cases hresolve with
      | ok hbody => exact .ok (.follow hbody)
      | error e => exact .error e
    | custom kind tag named => exact .error _
    | select q =>
      rcases hcopies with _ | ⟨_, _ | ⟨_, _ | ⟨_, _ | ⟨_, _ | _⟩⟩⟩⟩
      exact .error _

theorem below (hx : s.graph.Has x) (hxx' : s.graph.Copies s'.graph x x') :
    List.Forall₂ (s.graph.Copies s'.graph) (s.below x) (s'.below x') := by
  have hshape := h.shape hs hx hxx'
  rw [below_eq, below_eq]
  generalize s.shape x = shape, s'.shape x' = shape' at hshape
  cases hshape with
  | ok hcopies => exact hcopies.below
  | error e => exact .nil

/-- Ways from a copy end where those from what was copied do. -/
theorem acc (hacc : Acc (flip s.Edge) x) (hx : s.graph.Has x)
    (hxx' : s.graph.Copies s'.graph x x') : Acc (flip s'.Edge) x' := by
  induction hacc generalizing x' with
  | intro x _ ih =>
    refine .intro x' fun y' hy' => ?_
    obtain ⟨y, hy, hyy'⟩ := exists_of_forall₂ (h.below hs hx hxx').flip hy'
    exact ih y hy (hs.has_of_edge hx hy) hyy'

end Scope.IsCopy

/-- Shapes with copies below them are written alike if what is below them is. -/
theorem Shape.Copies.write_eq {s s' : Scope} {shape shape' : Shape}
    (h : shape.Copies s.graph s'.graph shape') {mark : Char} {e e' : Operand → Rendered}
    (hbelow : ∀ y ∈ shape.below, ∀ y' ∈ shape'.below, s.graph.Copies s'.graph y y' →
      e' y' = e y) : shape'.write mark s' e' = shape.write mark s e := by
  cases h with
  | atom p => rfl
  | @join k l r l' r' left right =>
    rw [write_join, write_join, Dialect.side_eq, Dialect.side_eq, Dialect.side_eq, Dialect.side_eq,
      left.isJunction_eq, right.isJunction_eq,
      hbelow l (by simp [Shape.below]) l' (by simp [Shape.below]) left,
      hbelow r (by simp [Shape.below]) r' (by simp [Shape.below]) right]
  | @not y y' operand =>
    rw [write, write, hbelow y (by simp [Shape.below]) y' (by simp [Shape.below]) operand]
  | @follow y y' body => exact hbelow y (by simp [Shape.below]) y' (by simp [Shape.below]) body

/-! ### What is written -/

/-- From a copy a condition is written as from what was copied. On either path stands nothing that
the condition leads to, and nothing below a condition leads back to it. -/
theorem Scope.IsCopy.express_eq {s s' : Scope} (hs : s.IsClosed) (h : s.IsCopy s') (b : BuiltIn)
    (room : Nat) {path path' : List Operand} {x x' : Operand} (hx : s.graph.Has x)
    (hxx' : s.graph.Copies s'.graph x x') (hacc : Acc (flip s.Edge) x)
    (hpath : ∀ p ∈ path, ¬ s.Reaches x p) (hpath' : ∀ p ∈ path', ¬ s'.Reaches x' p) :
    b.dialect.express s' room path' x' = b.dialect.express s room path x := by
  -- what stands on the path of a condition is not reached from below it either
  have step {s : Scope} {x y : Operand} {path : List Operand} (hacc : Acc (flip s.Edge) x)
      (hpath : ∀ p ∈ path, ¬ s.Reaches x p) (hxy : s.Edge x y) :
      ∀ p ∈ x :: path, ¬ s.Reaches y p := by
    intro p hp hyp
    rcases List.mem_cons.1 hp with rfl | hp
    · exact not_transGen_self_of_acc hacc (.head' hxy hyp)
    · exact hpath p hp (.head hxy hyp)
  induction room generalizing path path' x x' with
  | zero => rfl
  | succ room ih =>
    have hshape := h.shape hs hx hxx'
    have hacc' := h.acc hs hacc hx hxx'
    rw [b.express_succ, b.express_succ, if_neg fun hmem => hpath' x' hmem .refl,
      if_neg fun hmem => hpath x hmem .refl]
    cases hr : s.shape x with
    | error e =>
      rw [hr] at hshape
      generalize s'.shape x' = r' at hshape
      cases hshape
      rfl
    | ok shape =>
      cases hr' : s'.shape x' with
      | error e => rw [hr, hr'] at hshape; cases hshape
      | ok shape' =>
        rw [hr, hr'] at hshape
        cases hshape with
        | ok hcopies =>
          refine hcopies.write_eq fun y hy y' hy' hyy' => ?_
          have hxy : s.Edge x y := .of_shape hr hy
          exact ih (hs.has_of_edge hx hxy) hyy' (hacc.inv hxy) (step hacc hpath hxy)
            (step hacc' hpath' (.of_shape hr' hy'))

/-- A shape in writing gives up, or does not notice when what is below it stops giving up. -/
theorem Shape.write_of_gaveUp {mark : Char} {s : Scope} {e e' : Operand → Rendered} {shape : Shape}
    (h : ∀ y ∈ shape.below, e y = .error .nestedTooDeep ∨ e' y = e y) :
    shape.write mark s e = .error .nestedTooDeep ∨
      shape.write mark s e' = shape.write mark s e := by
  cases shape with
  | atom p => exact .inr rfl
  | join k l r =>
    rw [write_join, write_join, Dialect.side_eq, Dialect.side_eq, Dialect.side_eq, Dialect.side_eq]
    rcases h l (by simp [below]) with hl | hl
    · exact .inl (by rw [hl]; rfl)
    rw [hl]
    cases e l with
    | error f => exact .inr rfl
    | ok text =>
      rcases h r (by simp [below]) with hr | hr
      · exact .inl (by rw [hr]; rfl)
      · exact .inr (by rw [hr])
  | not y =>
    rw [write, write]
    rcases h y (by simp [below]) with hy | hy
    · exact .inl (by rw [hy]; rfl)
    · exact .inr (by rw [hy])
  | follow body => exact h body (by simp [below])

/-- With more room a condition is written in the same way or fails with the same fault, unless it
was given up. -/
theorem BuiltIn.express_of_le (b : BuiltIn) (s : Scope) {room room' : Nat} (hroom : room ≤ room')
    (path : List Operand) (x : Operand) :
    b.dialect.express s room path x = .error .nestedTooDeep ∨
      b.dialect.express s room' path x = b.dialect.express s room path x := by
  induction room generalizing room' path x with
  | zero => exact .inl rfl
  | succ room ih =>
    obtain ⟨room', rfl⟩ : ∃ n, room' = n + 1 := ⟨room' - 1, by omega⟩
    rw [b.express_succ, b.express_succ]
    split
    · exact .inr rfl
    · cases s.shape x with
      | error e => exact .inr rfl
      | ok shape =>
        exact Shape.write_of_gaveUp fun y _ => ih (Nat.le_of_succ_le_succ hroom) (x :: path) y

/-! ### Making a copy without sharing -/

/-- A relation without cycles in which only finitely many elements lead anywhere has no way that
goes on for ever. -/
theorem acc_of_acyclic {α : Type} {r : α → α → Prop} {S : Set α} (hfinite : S.Finite)
    (hsources : ∀ x y, r x y → x ∈ S) (hacyclic : ∀ x, ¬ Relation.TransGen r x x) (x : α) :
    Acc (flip r) x := by
  have : Finite S := hfinite.to_subtype
  let leads (a b : S) : Prop := Relation.TransGen r b a
  have : IsTrans S leads := ⟨fun _ _ _ hab hbc => hbc.trans hab⟩
  have : Std.Irrefl leads := ⟨fun a => hacyclic a⟩
  have hwf : WellFounded leads := Finite.wellFounded_of_trans_of_irrefl _
  have hsource (a : S) : Acc (flip r) a := by
    induction a using hwf.induction with
    | h a ih =>
      refine .intro _ fun y hy => ?_
      by_cases hmem : y ∈ S
      · exact ih ⟨y, hmem⟩ (.single hy)
      · exact .intro y fun z hz => absurd (hsources y z hz) hmem
  by_cases hmem : x ∈ S
  · exact hsource ⟨x, hmem⟩
  · exact .intro x fun z hz => absurd (hsources x z hz) hmem

namespace NameTable

variable {α β : Type}

/-- Tables of the same names give related things if they hold related things in the same order. -/
theorem rel_find? {R : α → β → Prop} {t : NameTable α} {ys : List β}
    (h : List.Forall₂ R (t.map Prod.snd) ys) (name : String) :
    Option.Rel R (t.find? name) (NameTable.find? name (t.names.zip ys)) := by
  induction t generalizing ys with
  | nil => exact .none
  | cons e rest ih =>
    obtain ⟨key, x⟩ := e
    obtain ⟨y, ys, hxy, hrest, rfl⟩ := List.forall₂_cons_left_iff.1 h
    have hrel := ih hrest
    simp only [find?, names, List.map_cons, List.zip_cons_cons, List.lookup_cons] at hrel ⊢
    split
    · exact .some hxy
    · exact hrel

end NameTable

namespace Scope

variable {s : Scope} {x : Operand}

/-- From a part to what it is made of, or from a reference to what its name stands for. -/
def Link (s : Scope) (x y : Operand) : Prop := s.graph.Child x y ∨ s.Edge x y

theorem Link.mem_parts {y : Operand} (h : s.Link x y) :
    x ∈ (List.range s.graph.parts.size).map Operand.part := by
  rcases h with h | h
  · unfold Graph.Child Graph.children at h
    split at h
    · next p hp =>
      cases x with
      | lit v => cases hp
      | part n => exact List.mem_map_of_mem (List.mem_range.2 (Graph.has_of_get? hp))
    · cases h
  · exact h.mem_parts

theorem acc_link (hacyclic : ∀ y, ¬ Relation.TransGen s.Link y y) (x : Operand) :
    Acc (flip s.Link) x :=
  acc_of_acyclic (List.finite_toSet _) (fun _ _ h => h.mem_parts) hacyclic x

theorem IsCopy.refl (hs : s.IsClosed) (hacc : ∀ y, Acc (flip s.graph.Child) y) : s.IsCopy s where
  graph := .refl _
  closed := hs
  fields := rfl
  definitions name := by
    have hhas := hs.definitions name
    generalize s.definitions.find? name = body at hhas
    cases body with
    | none => exact .none
    | some body => exact .some (.refl hs.graph (hacc body) (hhas body rfl))

/-- What a condition is written from can be copied so that no part stands in two places. -/
theorem exists_isCopy (hs : s.IsClosed) (hacc : ∀ y, Acc (flip s.graph.Child) y)
    (hx : s.graph.Has x) :
    ∃ s' x', s.IsCopy s' ∧ s'.definitions.names = s.definitions.names ∧
      s.graph.Copies s'.graph x x' ∧
      s.graph.IsFresh s'.graph (x' :: s'.definitions.map Prod.snd) := by
  -- an entry that is never found, as its name comes before, need not be in the graph
  let found (y : Operand) : Operand := if s.graph.Has y then y else .lit .null
  have hfound (y : Operand) : s.graph.Has (found y) := by
    dsimp only [found]
    split
    · assumption
    · trivial
  have hall : ∀ y ∈ x :: (s.definitions.map Prod.snd).map found, s.graph.Has y := by
    refine List.forall_mem_cons.2 ⟨hx, fun y hy => ?_⟩
    obtain ⟨z, _, rfl⟩ := List.mem_map.1 hy
    exact hfound z
  obtain ⟨G, xs, h⟩ := Graph.exists_isCopied_all (.refl _) hs.graph fun y hy G hG hclosed =>
    Graph.exists_isCopied hs.graph (hacc y) (hall y hy) hG hclosed
  obtain ⟨x', bodies, hxx', hbodies, rfl⟩ := List.forall₂_cons_left_iff.1 h.copies
  have hlength : s.definitions.names.length = bodies.length := by
    simpa [NameTable.names] using hbodies.length_eq
  have hdefinitions (name : String) : Option.Rel (s.graph.Copies G) (s.definitions.find? name)
      (NameTable.find? name (s.definitions.names.zip bodies)) := by
    have hrel := NameTable.rel_find? (List.forall₂_map_left_iff.1 hbodies) name
    have hhas := hs.definitions name
    generalize s.definitions.find? name = body,
      NameTable.find? name (s.definitions.names.zip bodies) = body' at hrel hhas
    cases hrel with
    | none => exact .none
    | some hcopy =>
      dsimp only [found] at hcopy
      rw [if_pos (hhas _ rfl)] at hcopy
      exact .some hcopy
  refine ⟨{ s with graph := G, definitions := s.definitions.names.zip bodies }, x',
    ⟨h.larger, ⟨h.closed, fun e he => h.larger.has (hs.fields e he), ?_⟩, rfl, hdefinitions⟩,
    ?_, hxx', ?_⟩
  · intro name body hbody
    have hrel := hdefinitions name
    change NameTable.find? name (s.definitions.names.zip bodies) = some body at hbody
    rw [hbody] at hrel
    generalize s.definitions.find? name = original at hrel
    cases hrel with
    | some hcopy => exact hcopy.has
  · exact List.map_fst_zip (Nat.le_of_eq hlength)
  · rw [List.map_snd_zip (Nat.le_of_eq hlength.symm)]
    exact h.fresh

/-- Where no way leads back, a condition can be copied together with what names stand for so that
no part stands in two places. From any copy it is written or fails as from what was copied. What is
above it does not matter if it does not lead there, but for how much room is left. -/
theorem express_ignores_sharing (b : BuiltIn) (hs : s.IsClosed) (hx : s.graph.Has x)
    (hacyclic : ∀ y, ¬ Relation.TransGen s.Link y y) :
    (∃ s' x', s.IsCopy s' ∧ s'.definitions.names = s.definitions.names ∧
      s.graph.Copies s'.graph x x' ∧
      s.graph.IsFresh s'.graph (x' :: s'.definitions.map Prod.snd)) ∧
    (∀ s' x', s.IsCopy s' → s.graph.Copies s'.graph x x' → ∀ path path',
      (∀ p ∈ path, ¬ s.Reaches x p) → (∀ p ∈ path', ¬ s'.Reaches x' p) → ∀ room,
        b.dialect.express s' room path' x' = b.dialect.express s room path x) ∧
    ∀ path path', (∀ p ∈ path, ¬ s.Reaches x p) → (∀ p ∈ path', ¬ s.Reaches x p) →
      ∀ room room', b.dialect.express s room path x ≠ .error .nestedTooDeep →
        b.dialect.express s room' path' x ≠ .error .nestedTooDeep →
          b.dialect.express s room' path' x = b.dialect.express s room path x := by
  have hchild (y : Operand) : Acc (flip s.graph.Child) y :=
    Subrelation.accessible (fun h => .inl h) (acc_link hacyclic y)
  have hedge : Acc (flip s.Edge) x := Subrelation.accessible (fun h => .inr h) (acc_link hacyclic x)
  refine ⟨exists_isCopy hs hchild hx, ?_, ?_⟩
  · intro s' x' hcopy hxx' path path' hpath hpath' room
    exact hcopy.express_eq hs b room hx hxx' hedge hpath hpath'
  · intro path path' hpath hpath' room room' hdeep hdeep'
    have hself : s.graph.Copies s.graph x x := .refl hs.graph (hchild x) hx
    have heq (room : Nat) :=
      (IsCopy.refl hs hchild).express_eq hs b room hx hself hedge hpath hpath'
    rcases Nat.le_total room room' with hroom | hroom
    · rw [heq]
      exact (b.express_of_le s hroom path x).resolve_left hdeep
    · rw [← heq]
      exact ((b.express_of_le s hroom path' x).resolve_left hdeep').symm

/-- A comparison that stands in a condition and in what a name in it stands for, and a reference
that stands in two places. -/
def sharedComparison : Scope where
  graph := ⟨#[.node (.field (.lit (.integer 1))), .tuple [.lit (.text "x")],
    .node (.equal (.part 0) (.part 1)), .node (.not (.part 2)),
    .node (.reference (.lit (.text "others"))), .node (.and (.part 2) (.part 4)),
    .node (.or (.part 5) (.part 4))]⟩
  fields := [(.lit (.integer 1), some "name")]
  definitions := [("others", .part 3)]

theorem isClosed_sharedComparison : sharedComparison.IsClosed where
  graph := by decide
  fields := by simp [sharedComparison, Graph.Has]
  definitions name body h := by
    change List.lookup name [("others", Operand.part 3)] = some body at h
    rw [List.lookup_cons, List.lookup_nil] at h
    split at h
    · cases h
      decide
    · cases h

/-- Ways lead from a part to earlier ones only. -/
theorem lt_of_transGen_sharedComparison {x y : Operand}
    (h : Relation.TransGen sharedComparison.Link x y) :
    ∃ n, x = .part n ∧ ∀ m, y = .part m → m < n := by
  have hearlier : ∀ n < sharedComparison.graph.parts.size,
      ∀ y ∈ sharedComparison.graph.children (.part n) ++ sharedComparison.below (.part n),
        y ∈ Operand.lit (.text "x") :: (List.range n).map Operand.part := by
    decide +kernel
  have hlink {x y : Operand} (h : sharedComparison.Link x y) :
      ∃ n, x = .part n ∧ ∀ m, y = .part m → m < n := by
    obtain ⟨n, hn, rfl⟩ := List.mem_map.1 h.mem_parts
    refine ⟨n, rfl, fun m hm => ?_⟩
    have hmem := hearlier n (List.mem_range.1 hn) y (List.mem_append.2 h)
    simpa [hm] using hmem
  induction h with
  | single h => exact hlink h
  | tail _ h ih =>
    obtain ⟨n, hx, hlt⟩ := ih
    obtain ⟨m, rfl, hm⟩ := hlink h
    exact ⟨n, hx, fun k hk => (hm k hk).trans (hlt m rfl)⟩

theorem sharedComparison_ignores_sharing :
    (∃ s' x', sharedComparison.IsCopy s' ∧
      sharedComparison.graph.Copies s'.graph (.part 6) x' ∧
      sharedComparison.graph.IsFresh s'.graph (x' :: s'.definitions.map Prod.snd) ∧
      BuiltIn.postgres.dialect.express s' nestingLimit [] x' =
        .ok "(\"name\" = 'x' AND NOT (\"name\" = 'x')) OR NOT (\"name\" = 'x')") ∧
    BuiltIn.postgres.dialect.express sharedComparison nestingLimit [] (.part 4) =
      BuiltIn.postgres.dialect.express sharedComparison 3 [.part 5, .part 6] (.part 4) := by
  have hacyclic : ∀ y, ¬ Relation.TransGen sharedComparison.Link y y := by
    intro y hy
    obtain ⟨n, rfl, hlt⟩ := lt_of_transGen_sharedComparison hy
    exact Nat.lt_irrefl n (hlt n rfl)
  constructor
  · obtain ⟨⟨s', x', hcopy, _, hxx', hfresh⟩, hsame, _⟩ := express_ignores_sharing .postgres
      isClosed_sharedComparison (x := .part 6) (by decide) hacyclic
    refine ⟨s', x', hcopy, hxx', hfresh, ?_⟩
    rw [hsame s' x' hcopy hxx' [] [] (by simp) (by simp)]
    decide +kernel
  · obtain ⟨_, _, hcontexts⟩ := express_ignores_sharing .postgres isClosed_sharedComparison
      (x := .part 4) (by decide) hacyclic
    have hlater {m : Nat} (hm : 4 < m) : ¬ sharedComparison.Reaches (.part 4) (.part m) := by
      intro h
      rcases Relation.reflTransGen_iff_eq_or_transGen.1 h with heq | hway
      · cases heq
        exact Nat.lt_irrefl 4 hm
      · obtain ⟨n, hn, hlt⟩ := lt_of_transGen_sharedComparison
          (hway.lift id fun _ _ => .inr)
        cases hn
        exact Nat.lt_asymm hm (hlt m rfl)
    exact hcontexts _ _ (by simp [hlater]) (by simp) _ _ (by decide +kernel) (by decide +kernel)

end Scope

end FilterCompiler
