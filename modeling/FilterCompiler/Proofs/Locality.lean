import FilterCompiler.Proofs.Meaning
import Mathlib.Data.List.Nodup
import Mathlib.Data.List.Perm.Subperm

/-! Graphs without loose ends. Where every operand that a part holds is there, nothing that is
looked up, compared, shown or written from such an operand is a matter of what else a graph
holds. Proved here: a condition is written from a larger graph as it is from its own. -/

namespace FilterCompiler

namespace Part

/-- The operands that a part is made of. -/
def operands : Part → List Operand
  | .node n => n.arguments
  | .list items | .tuple items | .set items => items
  | .record entries | .ordered entries => entries.map Prod.fst ++ entries.map Prod.snd

end Part

namespace Graph

/-- An operand is a literal or names a part of a graph. -/
def Has (g : Graph) : Operand → Prop
  | .lit _ => True
  | .part n => n < g.parts.size

instance (g : Graph) : DecidablePred g.Has
  | .lit _ => isTrue trivial
  | .part n => inferInstanceAs (Decidable (n < g.parts.size))

/-- No part names another one that is not there. -/
def IsClosed (g : Graph) : Prop := ∀ n p, g.get? n = some p → ∀ x ∈ p.operands, g.Has x

theorem isClosed_iff {g : Graph} :
    g.IsClosed ↔ ∀ p ∈ g.parts.toList, ∀ x ∈ p.operands, g.Has x := by
  constructor
  · intro h p hp
    obtain ⟨n, hn⟩ := List.mem_iff_getElem?.1 hp
    exact h n p (by simpa [get?] using hn)
  · intro h n p hp
    exact h p (List.mem_iff_getElem?.2 ⟨n, by simpa [get?] using hp⟩)

instance (g : Graph) : Decidable g.IsClosed := decidable_of_iff _ isClosed_iff.symm

/-! ### Comparisons that agree -/

/-- Two comparisons agree on some operands. -/
def Comparison.AgreeOn (P : Operand → Prop) (same same' : Comparison) : Prop :=
  ∀ x y, P x → P y → same x y = same' x y

namespace Comparison.AgreeOn

variable {P : Operand → Prop} {same same' : Comparison} (h : AgreeOn P same same')

include h

theorem orIdentical : AgreeOn P (Graph.orIdentical same) (Graph.orIdentical same') := by
  intro x y hx hy
  rw [Graph.orIdentical, Graph.orIdentical, h x y hx hy]

theorem sameAll {xs ys : List Operand} (hxs : ∀ x ∈ xs, P x) (hys : ∀ y ∈ ys, P y) :
    Graph.sameAll same xs ys = Graph.sameAll same' xs ys := by
  induction xs generalizing ys with
  | nil => cases ys <;> rfl
  | cons x xs ih =>
    cases ys with
    | nil => rfl
    | cons y ys =>
      rw [List.forall_mem_cons] at hxs hys
      rw [Graph.sameAll, Graph.sameAll, h x y hxs.1 hys.1, ih hxs.2 hys.2]

theorem lookup? {key : Operand} (hkey : P key) {entries : List (Operand × Operand)}
    (hentries : ∀ e ∈ entries, P e.1) :
    Graph.lookup? same key entries = Graph.lookup? same' key entries := by
  induction entries with
  | nil => rfl
  | cons e rest ih =>
    rw [List.forall_mem_cons] at hentries
    rw [Graph.lookup?, Graph.lookup?, h e.1 key hentries.1 hkey, ih hentries.2]

omit h in
theorem mem_of_lookup? {key found : Operand} {entries : List (Operand × Operand)}
    (hfound : Graph.lookup? same key entries = .ok (some found)) : ∃ e ∈ entries, e.2 = found := by
  induction entries with
  | nil => cases hfound
  | cons e rest ih =>
    rw [Graph.lookup?, bind_eq_ok_iff] at hfound
    obtain ⟨a, _, hfound⟩ := hfound
    split at hfound
    · exact ⟨e, by simp, by simpa using hfound⟩
    · obtain ⟨e', he', hvalue⟩ := ih hfound
      exact ⟨e', by simp [he'], hvalue⟩

theorem sameRecord {xs ys : List (Operand × Operand)} (hxs : ∀ e ∈ xs, P e.1 ∧ P e.2)
    (hys : ∀ e ∈ ys, P e.1 ∧ P e.2) :
    Graph.sameRecord same xs ys = Graph.sameRecord same' xs ys := by
  have hentries (zs : List (Operand × Operand)) (hzs : ∀ e ∈ zs, P e.1 ∧ P e.2) :
      sameEntries same ys zs = sameEntries same' ys zs := by
    induction zs with
    | nil => rfl
    | cons e rest ih =>
      rw [List.forall_mem_cons] at hzs
      rw [sameEntries, sameEntries, h.lookup? hzs.1.1 fun e he => (hys e he).1, ih hzs.2]
      cases hfound : Graph.lookup? same' e.1 ys with
      | error f => rfl
      | ok found =>
        cases found with
        | none => rfl
        | some w =>
          obtain ⟨e', he', rfl⟩ := mem_of_lookup? hfound
          rw [ok_bind, ok_bind]
          dsimp only
          rw [h e.2 e'.2 hzs.1.2 (hys e' he').2]
  rw [Graph.sameRecord, Graph.sameRecord, hentries xs hxs]

theorem samePart {p q : Part} (hp : ∀ x ∈ p.operands, P x) (hq : ∀ y ∈ q.operands, P y) :
    Graph.samePart same p q = Graph.samePart same' p q := by
  have hentries {es : List (Operand × Operand)}
      (hes : ∀ x ∈ es.map Prod.fst ++ es.map Prod.snd, P x) : ∀ e ∈ es, P e.1 ∧ P e.2 :=
    fun e he => ⟨hes e.1 (List.mem_append_left _ (List.mem_map_of_mem he)),
      hes e.2 (List.mem_append_right _ (List.mem_map_of_mem he))⟩
  have hitems {xs : List Operand} (hxs : ∀ x ∈ xs, P x) :
      ∀ e ∈ xs.map fun x => (x, x), P e.1 ∧ P e.2 := by
    intro e he
    obtain ⟨x, hx, rfl⟩ := List.mem_map.1 he
    exact ⟨hxs x hx, hxs x hx⟩
  unfold Graph.samePart
  split
  · split
    · exact h.sameAll hp hq
    · rfl
  · split
    · exact h.sameAll hp hq
    · rfl
  · exact h.sameAll hp hq
  · exact h.sameRecord (hentries hp) (hentries hq)
  · exact h.sameRecord (hentries hp) (hentries hq)
  · exact h.sameRecord (hentries hp) (hentries hq)
  · rw [h.sameRecord (hentries hp) (hentries hq),
      h.sameAll (fun x hx => hp x (List.mem_append_left _ hx))
        fun y hy => hq y (List.mem_append_left _ hy)]
  · exact h.sameRecord (hitems hp) (hitems hq)
  · rfl

end Comparison.AgreeOn

/-! ### Texts that agree -/

theorem partText?_congr {inner inner' : Operand → Option String} {p : Part}
    (h : ∀ x ∈ p.operands, inner x = inner' x) : partText? inner p = partText? inner' p := by
  have hentries {es : List (Operand × Operand)}
      (hes : ∀ x ∈ es.map Prod.fst ++ es.map Prod.snd, inner x = inner' x) :
      ∀ e ∈ es, inner e.1 = inner' e.1 ∧ inner e.2 = inner' e.2 :=
    fun e he => ⟨hes e.1 (List.mem_append_left _ (List.mem_map_of_mem he)),
      hes e.2 (List.mem_append_right _ (List.mem_map_of_mem he))⟩
  cases p with
  | list items | tuple items | set items =>
    have hitems : items.mapM inner = items.mapM inner' := mapM_congr h
    rw [partText?, partText?, hitems]
  | record entries | ordered entries =>
    rw [partText?, partText?]
    refine congrArg _ (mapM_congr fun e he => ?_)
    dsimp only
    rw [(hentries h e he).1, (hentries h e he).2]
  | node n =>
    refine congrArg (· >>= _) (mapM_congr fun e he => ?_)
    have hmem : e.2 ∈ n.arguments := n.named_values ▸ List.mem_map_of_mem he
    dsimp only
    rw [h e.2 hmem]

/-! ### A graph within another one -/

variable {g G : Graph} {x y : Operand}

theorem Extends.get?_eq (h : g.Extends G) {n : Nat} (hn : n < g.parts.size) :
    G.get? n = g.get? n := by
  have hpart : g.get? n = some g.parts[n] := Array.getElem?_eq_getElem hn
  rw [hpart, h n _ hpart]

theorem Extends.part?_eq (h : g.Extends G) (hx : g.Has x) : G.part? x = g.part? x := by
  cases x with
  | lit v => rfl
  | part n => exact h.get?_eq hx

theorem Extends.node?_eq (h : g.Extends G) (hx : g.Has x) : G.node? x = g.node? x := by
  unfold Graph.node?
  rw [h.part?_eq hx]

theorem Extends.elements?_eq (h : g.Extends G) (hx : g.Has x) :
    G.elements? x = g.elements? x := by
  cases x with
  | lit v => cases v <;> rfl
  | part n =>
    have hpart : G.part? (.part n) = g.part? (.part n) := h.part?_eq hx
    simp only [Graph.elements?, hpart]

theorem Extends.kind_eq (h : g.Extends G) (hx : g.Has x) : G.kind x = g.kind x := by
  cases x with
  | lit v => rfl
  | part n => rw [kind, kind, h.get?_eq hx]

theorem Extends.tag_eq (h : g.Extends G) (hx : g.Has x) : G.tag x = g.tag x := by
  rw [tag, tag, h.node?_eq hx, h.kind_eq hx]

theorem has_of_node? {n : Node} (h : g.node? x = some n) : g.Has x := by
  cases x with
  | lit v => trivial
  | part k =>
    by_contra hk
    have hpart : g.parts[k]? = none := Array.getElem?_eq_none (Nat.not_lt.1 hk)
    simp [node?, part?, get?, hpart] at h

theorem Extends.size_le (h : g.Extends G) : g.parts.size ≤ G.parts.size := by
  by_contra hlt
  have hn : G.parts.size < g.parts.size := Nat.not_le.1 hlt
  have hpart := h.get?_eq hn
  simp [get?, hn] at hpart

theorem Extends.has (h : g.Extends G) (hx : g.Has x) : G.Has x := by
  cases x with
  | lit v => trivial
  | part n => exact Nat.lt_of_lt_of_le hx h.size_le

/-! ### One more part -/

theorem has_add (g : Graph) (p : Part) : (g.add p).2.Has (g.add p).1 := by
  simp [Has, add]

theorem node?_add (g : Graph) (n : Node) :
    (g.add (.node n)).2.node? (g.add (.node n)).1 = some n := by
  have hpart := g.get?_add (.node n) g.parts.size
  rw [if_pos rfl] at hpart
  have hroot : (g.add (.node n)).1 = .part g.parts.size := rfl
  simp only [node?, part?, hroot, hpart]

theorem IsClosed.add (hg : g.IsClosed) {p : Part} (hp : ∀ x ∈ p.operands, g.Has x) :
    (g.add p).2.IsClosed := by
  intro n q hq x hx
  rw [get?_add] at hq
  refine (g.extends_add p).has ?_
  split at hq
  · exact hp x (Option.some.inj hq ▸ hx)
  · exact hg n q hq x hx

namespace IsClosed

variable (hg : g.IsClosed) (h : g.Extends G)

include hg

theorem part (hx : g.Has x) {p : Part} (hp : g.part? x = some p) : ∀ y ∈ p.operands, g.Has y := by
  cases x with
  | lit v => cases hp
  | part n => exact hg n p hp

theorem node (hx : g.Has x) {n : Node} (hn : g.node? x = some n) :
    ∀ y ∈ n.arguments, g.Has y := by
  unfold node? at hn
  split at hn
  · next hp =>
    cases hn
    exact hg.part hx hp
  · cases hn

theorem elements (hx : g.Has x) {items : List Operand} (hitems : g.elements? x = some items) :
    ∀ y ∈ items, g.Has y := by
  intro y hy
  cases x with
  | lit v =>
    cases v with
    | text t | bytes bs =>
      obtain rfl := Option.some.inj hitems
      obtain ⟨_, _, rfl⟩ := List.mem_map.1 hy
      trivial
    | _ => cases hitems
  | part n =>
    cases hp : g.part? (.part n) with
    | none => simp [elements?, hp] at hitems
    | some p =>
      have hpart := hg.part hx hp
      simp only [elements?, hp] at hitems
      cases p with
      | node n => cases hitems
      | list items | tuple items | set items =>
        cases hitems
        exact hpart y hy
      | record entries | ordered entries =>
        cases hitems
        exact hpart y (List.mem_append_left _ hy)

include h

theorem agreeOn_same (depth : Nat) :
    Comparison.AgreeOn g.Has (G.same depth) (g.same depth) := by
  induction depth with
  | zero => exact fun _ _ _ _ => rfl
  | succ depth ih =>
    intro x y hx hy
    cases x with
    | lit a => cases y <;> rfl
    | part m =>
      cases y with
      | lit b => rfl
      | part n =>
        simp only [same, h.get?_eq hx, h.get?_eq hy]
        cases hp : g.get? m with
        | none => rfl
        | some p =>
          cases hq : g.get? n with
          | none => rfl
          | some q => exact ih.orIdentical.samePart (hg m p hp) (hg n q hq)

theorem keyFault?_eq (depth : Nat) (hx : g.Has x) : G.keyFault? depth x = g.keyFault? depth x := by
  induction depth generalizing x with
  | zero => rfl
  | succ depth ih =>
    have hall {items : List Operand} (hitems : ∀ y ∈ items, g.Has y) :
        items.findSome? (G.keyFault? depth) = items.findSome? (g.keyFault? depth) := by
      induction items with
      | nil => rfl
      | cons y rest ihrest =>
        rw [List.forall_mem_cons] at hitems
        rw [List.findSome?_cons, List.findSome?_cons, ih hitems.1, ihrest hitems.2]
    unfold keyFault?
    rw [h.part?_eq hx]
    cases hp : g.part? x with
    | none => cases x <;> rfl
    | some p =>
      have hoperands := hg.part hx hp
      cases x with
      | lit v => rfl
      | part n =>
        cases p with
        | tuple items => exact hall hoperands
        | node n => exact hall hoperands
        | _ => exact congrArg (fun kind => some (Fault.keyless kind)) (h.kind_eq hx)

/-- Some part around an operand is shown by dots before the room for parts has run out. -/
theorem nested?_eq (room room' : Nat) {shown : List Nat} (hnodup : shown.Nodup)
    (hshown : ∀ n ∈ shown, n < g.parts.size) (hroom : g.parts.size < room + shown.length)
    (hroom' : g.parts.size < room' + shown.length) (hx : g.Has x) :
    G.nested? room shown x = g.nested? room' shown x := by
  have hlength {shown : List Nat} (hnodup : shown.Nodup)
      (hshown : ∀ n ∈ shown, n < g.parts.size) : shown.length ≤ g.parts.size := by
    have hsubset : shown ⊆ List.range g.parts.size := fun n hn => List.mem_range.2 (hshown n hn)
    simpa using (List.subperm_of_subset hnodup hsubset).length_le
  induction room generalizing room' shown x with
  | zero => have := hlength hnodup hshown; omega
  | succ room ih =>
    obtain ⟨room', rfl⟩ : ∃ n, room' = n + 1 :=
      ⟨room' - 1, by have := hlength hnodup hshown; omega⟩
    cases x with
    | lit v => rfl
    | part n =>
      rw [nested?, nested?, h.get?_eq hx]
      cases hp : g.get? n with
      | none => rfl
      | some p =>
        dsimp only
        split
        · rfl
        · next hn =>
          refine partText?_congr fun y hy => ih room' ?_ ?_ ?_ ?_ (hg n p hp y hy)
          · exact List.nodup_cons.2 ⟨by simpa using hn, hnodup⟩
          · simpa using ⟨hx, hshown⟩
          · rw [List.length_cons]; omega
          · rw [List.length_cons]; omega

theorem text?_eq (hx : g.Has x) : G.text? x = g.text? x := by
  cases x with
  | lit v => rfl
  | part n =>
    have hsize := h.size_le
    exact hg.nested?_eq h _ _ .nil (by simp) (by simp; omega) (by simp) hx

end IsClosed

end Graph

/-! ### Lookups in a larger graph -/

namespace Scope

/-- The graph of a scope has no loose ends, nor have the numbers of the fields and what the names
stand for. -/
structure IsClosed (s : Scope) : Prop where
  graph : s.graph.IsClosed
  fields : ∀ e ∈ s.fields, s.graph.Has e.1
  definitions : ∀ name body, s.definitions.find? name = some body → s.graph.Has body

/-- A scope that looks the same things up in another graph. -/
def on (s : Scope) (G : Graph) : Scope := { s with graph := G }

end Scope

/-- Which sides of a shape stand in parentheses is no matter of the larger graph. -/
theorem Shape.write_on {s : Scope} {G : Graph} (h : s.graph.Extends G) {mark : Char}
    {express : Operand → Rendered} {shape : Shape} (hbelow : ∀ y ∈ shape.below, s.graph.Has y) :
    shape.write mark (s.on G) express = shape.write mark s express := by
  cases shape with
  | join k l r =>
    have hside {y : Operand} (hy : y ∈ (join k l r).below) :
        Dialect.side (s.on G) express y = Dialect.side s express y := by
      rw [Dialect.side_eq, Dialect.side_eq, Scope.on, h.node?_eq (hbelow y hy)]
    rw [write_join, write_join, hside (by simp [below]), hside (by simp [below])]
  | _ => rfl

namespace Scope.IsClosed

variable {s : Scope} {G : Graph} {x : Operand} (hs : s.IsClosed) (h : s.graph.Extends G)

include hs h

theorem text_eq (hx : s.graph.Has x) : (s.on G).text x = s.text x := by
  rw [text, text, on, hs.graph.text?_eq h hx]

theorem checkKey_eq (hx : s.graph.Has x) : (s.on G).checkKey x = s.checkKey x := by
  rw [checkKey, checkKey, on, hs.graph.keyFault?_eq h _ hx]

theorem find?_eq (hx : s.graph.Has x) : s.fields.find? G x = s.fields.find? s.graph x := by
  have find {fields : Fields} (hfields : ∀ e ∈ fields, s.graph.Has e.1) :
      fields.find? G x = fields.find? s.graph x := by
    induction fields with
    | nil => rfl
    | cons e rest ih =>
      obtain ⟨key, column⟩ := e
      have hkey := (hs.graph.agreeOn_same h nestingLimit).orIdentical key x
        (hfields (key, column) (by simp)) hx
      rw [Fields.find?, Fields.find?, Graph.sameKey, Graph.sameKey, hkey,
        ih fun e he => hfields e (by simp [he])]
  exact find hs.fields

theorem column_eq (hx : s.graph.Has x) : (s.on G).column x = s.column x := by
  have hfind : (s.on G).fields.find? (s.on G).graph x = s.fields.find? s.graph x := hs.find?_eq h hx
  unfold column column.unknown
  rw [hs.checkKey_eq h hx, hs.text_eq h hx, hfind]

theorem resolve_eq (hx : s.graph.Has x) : (s.on G).resolve x = s.resolve x := by
  unfold resolve resolve.undefinedName
  rw [hs.checkKey_eq h hx, hs.text_eq h hx]
  rfl

theorem term_eq (hx : s.graph.Has x) : (s.on G).term x = s.term x := by
  cases x with
  | lit v => rfl
  | part n =>
    have hnode : (s.on G).graph.node? (.part n) = s.graph.node? (.part n) := h.node?_eq hx
    have hkind : (s.on G).graph.kind (.part n) = s.graph.kind (.part n) := h.kind_eq hx
    simp only [term, hnode, hkind]
    split
    · next number hn =>
      rw [hs.column_eq h (hs.graph.node hx hn number (by simp [Node.arguments]))]
    · rfl

theorem membership_eq (negated : Bool) {values : Operand} (hx : s.graph.Has x)
    (hvalues : s.graph.Has values) :
    (s.on G).membership negated x values = s.membership negated x values := by
  have hvaluesOf : Dialect.valuesOf (s.on G) values = Dialect.valuesOf s values := by
    unfold Dialect.valuesOf
    rw [on, h.elements?_eq hvalues, h.kind_eq hvalues]
  have mapM {items : List Operand} (hitems : ∀ y ∈ items, s.graph.Has y) :
      items.mapM (s.on G).term = items.mapM s.term := by
    induction items with
    | nil => rfl
    | cons y rest ih =>
      rw [List.forall_mem_cons] at hitems
      rw [List.mapM_cons, List.mapM_cons, hs.term_eq h hitems.1, ih hitems.2]
  rw [membership, membership, hs.term_eq h hx, hvaluesOf]
  cases s.term x with
  | error e => rfl
  | ok t =>
    unfold Dialect.valuesOf
    cases hitems : s.graph.elements? values with
    | none => rfl
    | some items =>
      simp only [ok_bind]
      rw [mapM (hs.graph.elements hvalues hitems)]

theorem shape_eq (hx : s.graph.Has x) : (s.on G).shape x = s.shape x := by
  have hnode : (s.on G).graph.node? x = s.graph.node? x := h.node?_eq hx
  have hkind : (s.on G).graph.kind x = s.graph.kind x := h.kind_eq hx
  unfold shape
  rw [hnode, hkind]
  cases hn : s.graph.node? x with
  | none => rfl
  | some n =>
    have hterm {y : Operand} (hy : y ∈ n.arguments) : (s.on G).term y = s.term y :=
      hs.term_eq h (hs.graph.node hx hn y hy)
    have harguments := hs.graph.node hx hn
    cases n with
    | lessThan l r | greaterThan l r =>
      dsimp only
      rw [hterm (y := l) (by simp [Node.arguments]), hterm (y := r) (by simp [Node.arguments])]
    | equal y values | notEqual y values =>
      dsimp only
      rw [hs.membership_eq h _ (harguments y (by simp [Node.arguments]))
        (harguments values (by simp [Node.arguments]))]
    | isEmpty y | notEmpty y =>
      dsimp only
      rw [hterm (y := y) (by simp [Node.arguments])]
    | field number =>
      dsimp only
      rw [hs.column_eq h (harguments number (by simp [Node.arguments]))]
    | reference name =>
      dsimp only
      rw [hs.resolve_eq h (harguments name (by simp [Node.arguments]))]
    | _ => rfl

theorem below_eq (hx : s.graph.Has x) : (s.on G).below x = s.below x := by
  rw [Scope.below_eq, Scope.below_eq, hs.shape_eq h hx]

theorem extend (hG : G.IsClosed) : (s.on G).IsClosed where
  graph := hG
  fields e he := h.has (hs.fields e he)
  definitions name body hbody := h.has (hs.definitions name body hbody)

omit h in
/-- What is below an operand of the graph is in the graph. -/
theorem has_of_edge {y : Operand} (hx : s.graph.Has x) (hxy : s.Edge x y) : s.graph.Has y := by
  unfold Edge below at hxy
  split at hxy
  · next l r hn => exact hs.graph.node hx hn y (by simpa [Node.arguments] using hxy)
  · next l r hn => exact hs.graph.node hx hn y (by simpa [Node.arguments] using hxy)
  · next z hn => exact hs.graph.node hx hn y (by simpa [Node.arguments] using hxy)
  · next name hn =>
    cases hbody : s.resolve name with
    | error e => simp [hbody, Except.toOption] at hxy
    | ok body =>
      obtain rfl : y = body := by simpa [hbody, Except.toOption] using hxy
      obtain ⟨t, _, hfound, _⟩ := resolve_eq_ok_iff.1 hbody
      exact hs.definitions t _ hfound
  · cases hxy

theorem stands {f : Formula} (hf : s.Stands x f) (hx : s.graph.Has x) : (s.on G).Stands x f := by
  induction hf with
  | atom shape => exact .atom ((hs.shape_eq h hx).trans shape)
  | join shape _ _ ihl ihr =>
    exact .join ((hs.shape_eq h hx).trans shape)
      (ihl (hs.has_of_edge hx (.of_shape shape (by simp [Shape.below]))))
      (ihr (hs.has_of_edge hx (.of_shape shape (by simp [Shape.below]))))
  | not shape _ ih =>
    exact .not ((hs.shape_eq h hx).trans shape)
      (ih (hs.has_of_edge hx (.of_shape shape (by simp [Shape.below]))))
  | named shape _ ih =>
    exact .named ((hs.shape_eq h hx).trans shape)
      (ih (hs.has_of_edge hx (.of_shape shape (by simp [Shape.below]))))

/-- A condition is written from a larger graph as it is from its own. -/
theorem express_eq (b : BuiltIn) (room : Nat) (path : List Operand) (hx : s.graph.Has x) :
    b.dialect.express (s.on G) room path x = b.dialect.express s room path x := by
  induction room generalizing path x with
  | zero => rfl
  | succ room ih =>
    rw [b.express_succ, b.express_succ, hs.shape_eq h hx]
    have hcircular : Dialect.circularAt (s.on G).graph x = Dialect.circularAt s.graph x := by
      unfold Dialect.circularAt Dialect.referenceName?
      rw [on, h.node?_eq hx, h.tag_eq hx]
    rw [hcircular]
    cases hshape : s.shape x with
    | error e => rfl
    | ok shape =>
      have hbelow : ∀ y ∈ shape.below, s.graph.Has y := fun y hy =>
        hs.has_of_edge hx (.of_shape hshape hy)
      rw [ok_bind, ok_bind, Shape.write_on h hbelow]
      rw [Shape.write_congr fun y hy => ih (x :: path) (hbelow y hy)]

end Scope.IsClosed

end FilterCompiler
