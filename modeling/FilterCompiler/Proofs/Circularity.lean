import FilterCompiler.Proofs.Plainness
import FilterCompiler.Proofs.Walk
import Mathlib.Data.List.Perm.Subperm
import Mathlib.Data.List.Nodup

/-! Circular conditions. The path that rendering follows never holds an operand twice, so it
cannot get longer than the graph has parts, and room for one more level is room enough. On the
way to every operator the path is a simple trail from the root. Proved here: a circular
dependency is reported only if a cycle can be reached, no condition that reaches one is ever
written, and if nothing else can go wrong the report names an operand on such a cycle. -/

namespace FilterCompiler

/-! ### Trails -/

/-- A simple trail from a root, the last operand first. -/
structure Scope.IsTrail (s : Scope) (root : Operand) (trail : List Operand) : Prop where
  nodup : trail.Nodup
  edges : trail.IsChain fun y x => s.Edge x y
  start : trail.getLast? = some root

instance (s : Scope) (root : Operand) : DecidablePred (s.IsTrail root) := fun trail =>
  decidable_of_iff
    (trail.Nodup ∧ (trail.IsChain fun y x => s.Edge x y) ∧ trail.getLast? = some root)
    ⟨fun ⟨h, h', h''⟩ => ⟨h, h', h''⟩, fun h => ⟨h.nodup, h.edges, h.start⟩⟩

/-- Rendering that checks the path at every call of an operator. It gives `other` in place of a
call whose path, the node included, is not as `guard` has it, and `stop` where no room is
left. -/
def Dialect.expressGuarded (d : Dialect) (s : Scope) (guard : List Operand → Prop)
    [DecidablePred guard] (other : List Operand → Operand → Rendered) (stop : Rendered) :
    Nat → List Operand → Operand → Rendered
  | 0, _, _ => stop
  | room + 1, path, x =>
    if x ∈ path then .error (circularAt s.graph x)
    else if guard (x :: path) then
      d.operator s (d.formatValue s) (d.expressGuarded s guard other stop room (x :: path)) x
    else other path x

namespace Scope

variable {s : Scope} {x y : Operand}

/-- Only parts of the graph lead anywhere. -/
theorem Edge.mem_parts (h : s.Edge x y) : x ∈ (List.range s.graph.parts.size).map Operand.part := by
  cases x with
  | lit v => simp [Edge, below, Graph.node?, Graph.part?] at h
  | part n =>
    simp only [List.mem_map, List.mem_range, Operand.part.injEq, exists_eq_right]
    by_contra hn
    have : s.graph.parts[n]? = none := Array.getElem?_eq_none (Nat.not_lt.1 hn)
    simp [Edge, below, Graph.node?, Graph.part?, Graph.get?, this] at h

/-- The path on which rendering gets from a root to an operand, the last one above it first. -/
structure IsWay (s : Scope) (root : Operand) (path : List Operand) (x : Operand) : Prop where
  nodup : path.Nodup
  edges : (x :: path).IsChain fun y x => s.Edge x y
  start : (x :: path).getLast? = some root

namespace IsWay

variable {root : Operand} {path : List Operand}

theorem nil (s : Scope) (root : Operand) : s.IsWay root [] root := ⟨.nil, by simp, rfl⟩

theorem step (h : s.IsWay root path x) (hx : x ∉ path) (hxy : s.Edge x y) :
    s.IsWay root (x :: path) y where
  nodup := List.nodup_cons.2 ⟨hx, h.nodup⟩
  edges := List.isChain_cons_cons.2 ⟨hxy, h.edges⟩
  start := by rw [List.getLast?_cons_cons, h.start]

/-- With an operand that is met for the first time the path is a trail. -/
theorem isTrail_cons (h : s.IsWay root path x) (hx : x ∉ path) : s.IsTrail root (x :: path) :=
  ⟨List.nodup_cons.2 ⟨hx, h.nodup⟩, h.edges, h.start⟩

theorem isTrail (h : s.IsWay root path x) (hpath : path ≠ []) : s.IsTrail root path := by
  cases path with
  | nil => contradiction
  | cons p rest =>
    refine ⟨h.nodup, (List.isChain_cons_cons.1 h.edges).2, ?_⟩
    rw [← List.getLast?_cons_cons (a := x), h.start]

theorem subset_parts (h : (x :: path).IsChain fun y x => s.Edge x y) :
    path ⊆ (List.range s.graph.parts.size).map Operand.part := by
  induction path generalizing x with
  | nil => exact List.nil_subset _
  | cons p rest ih =>
    obtain ⟨hpx, hrest⟩ := List.isChain_cons_cons.1 h
    exact List.cons_subset.2 ⟨hpx.mem_parts, ih hrest⟩

theorem length_le (h : s.IsWay root path x) : path.length ≤ s.graph.parts.size := by
  simpa using (List.subperm_of_subset h.nodup (subset_parts h.edges)).length_le

end IsWay

/-- The checks never find anything, and room is left as long as there is more of it than the
graph has parts. -/
theorem expressGuarded_eq (b : BuiltIn) {root : Operand}
    (other : List Operand → Operand → Rendered) (stop : Rendered) (room : Nat)
    {path : List Operand} (hway : s.IsWay root path x)
    (hroom : s.graph.parts.size < room + path.length ∨ stop = .error .nestedTooDeep) :
    b.dialect.expressGuarded s (s.IsTrail root) other stop room path x =
      b.dialect.express s room path x := by
  induction room generalizing x path with
  | zero =>
    have := hway.length_le
    rcases hroom with hroom | rfl
    · omega
    · rfl
  | succ room ih =>
    rw [Dialect.expressGuarded, Dialect.express]
    by_cases hx : x ∈ path
    · rw [if_pos hx, if_pos hx]
    · rw [if_neg hx, if_neg hx, if_pos (hway.isTrail_cons hx)]
      refine b.operator_congr s fun y hy => ih (hway.step hx hy) ?_
      exact hroom.imp_left fun h => by rw [List.length_cons]; omega

/-! ### Cycles and the faults they give -/

/-- An operand can be written as a value. -/
def Writable (s : Scope) (x : Operand) : Prop := ∃ t, s.term x = .ok t

/-- Nothing can go wrong at an operand itself: it is a node of a built-in kind, its values can
be written and its name is defined. -/
def Supported (s : Scope) (x : Operand) : Prop :=
  match s.graph.node? x with
  | some (.and ..) | some (.or ..) | some (.not _) => True
  | some (.lessThan l r) | some (.greaterThan l r) => s.Writable l ∧ s.Writable r
  | some (.equal y values) | some (.notEqual y values) =>
    s.Writable y ∧ ∃ items, s.graph.elements? values = some items ∧ ∀ v ∈ items, s.Writable v
  | some (.isEmpty y) | some (.notEmpty y) => s.Writable y
  | some (.field number) => ∃ name, s.column number = .ok name
  | some (.reference name) => ∃ body, s.resolve name = .ok body
  | _ => False

theorem exists_membership {negated : Bool} {y values : Operand} {items : List Operand}
    (hy : s.Writable y) (hitems : s.graph.elements? values = some items)
    (hv : ∀ v ∈ items, s.Writable v) : ∃ p, s.membership negated y values = .ok p := by
  obtain ⟨t, ht⟩ := hy
  obtain ⟨ts, hts⟩ := exists_mapM_eq_ok_iff.2 hv
  refine ⟨.membership negated t ts, ?_⟩
  simp only [membership, Dialect.valuesOf, ht, hitems, hts, ok_bind, pure_eq_ok]

theorem Supported.exists_shape {x : Operand} (h : s.Supported x) :
    ∃ shape, s.shape x = .ok shape := by
  unfold Supported at h
  unfold shape
  cases hn : s.graph.node? x with
  | none => simp [hn] at h
  | some n =>
    cases n <;> simp only [hn] at h ⊢
    case and | or | not => exact ⟨_, rfl⟩
    case lessThan | greaterThan =>
      obtain ⟨⟨t, ht⟩, u, hu⟩ := h
      exact ⟨_, by rw [ht, ok_bind, hu]; rfl⟩
    case equal | notEqual =>
      obtain ⟨hy, items, hitems, hv⟩ := h
      obtain ⟨p, hp⟩ := exists_membership hy hitems hv
      exact ⟨_, by rw [hp]; rfl⟩
    case isEmpty | notEmpty =>
      obtain ⟨t, ht⟩ := h
      exact ⟨_, by rw [ht]; rfl⟩
    case field =>
      obtain ⟨name, hname⟩ := h
      exact ⟨_, by rw [hname]; rfl⟩
    case reference =>
      obtain ⟨body, hbody⟩ := h
      exact ⟨_, by rw [hbody]; rfl⟩

/-- A circular dependency is reported of an operand on a cycle that can be reached. -/
theorem onCycle_of_express_eq_circular {b : BuiltIn} {room : Nat} {x : Operand} {tag : String}
    {name : Option Operand} (h : b.dialect.express s room [] x = .error (.circular tag name)) :
    ∃ y, s.Reaches x y ∧ s.OnCycle y ∧
      Fault.circular tag name = Dialect.circularAt s.graph y := by
  rcases origin_of_express_eq_error h with h | ⟨y, hxy, hy | hy, h⟩ | ⟨y, _, hy⟩
  · cases h
  · cases hy
  · exact ⟨y, hxy, hy, h⟩
  · exact absurd (s.plain_shape y _ hy) (by simp [Fault.isPlain])

/-- Rendering gives up at the end of a way that takes up all the room, if no node gives up by
itself. -/
theorem exists_way_of_express_eq_nestedTooDeep {b : BuiltIn} {room : Nat} {root : Operand}
    {path : List Operand} {x : Operand} (hway : s.IsWay root path x)
    (h : b.dialect.express s room path x = .error .nestedTooDeep) :
    (∃ y, s.Reaches x y ∧ s.shape y = .error .nestedTooDeep) ∨
      ∃ path' y, s.IsWay root path' y ∧ path'.length = room + path.length := by
  induction room generalizing x path with
  | zero => exact .inr ⟨path, x, hway, (Nat.zero_add _).symm⟩
  | succ room ih =>
    rw [b.express_succ] at h
    split at h
    · cases h
    · next hx =>
      rcases bind_eq_error_iff.1 h with h | ⟨shape, hshape, h⟩
      · exact .inl ⟨x, .refl, h⟩
      · obtain ⟨y, hy, h⟩ := Shape.exists_of_write_eq_error h
        have hxy : s.Edge x y := .of_shape hshape hy
        rcases ih (hway.step hx hxy) h with ⟨z, hyz, hz⟩ | ⟨path', z, hz, hlength⟩
        · exact .inl ⟨z, .head hxy hyz, hz⟩
        · exact .inr ⟨path', z, hz, by rw [hlength, List.length_cons]; omega⟩

/-- Where nothing reached can go wrong by itself and a cycle is reached, the report is of an
operand on a reached cycle, or rendering gives up for want of room. -/
theorem exists_onCycle_of_supported (b : BuiltIn) {x : Operand} (hcycle : s.ReachesCycle x)
    (hsupported : ∀ y, s.Reaches x y → s.Supported y) (room : Nat) :
    (∃ y, s.Reaches x y ∧ s.OnCycle y ∧
        b.dialect.express s room [] x = .error (Dialect.circularAt s.graph y)) ∨
      room ≤ s.graph.parts.size ∧ b.dialect.express s room [] x = .error .nestedTooDeep := by
  have hshape {y : Operand} {e : Fault} (hy : s.Reaches x y) : s.shape y ≠ .error e := by
    obtain ⟨shape, h⟩ := (hsupported y hy).exists_shape
    simp [h]
  cases h : b.dialect.express s room [] x with
  | ok text =>
    obtain ⟨f, hf⟩ := exists_stands_of_express h
    exact absurd hcycle hf.not_reachesCycle
  | error e =>
    rcases origin_of_express_eq_error h with rfl | ⟨y, hy, hpath | hc, rfl⟩ | ⟨y, hy, h⟩
    · refine .inr ⟨?_, rfl⟩
      rcases exists_way_of_express_eq_nestedTooDeep (.nil s x) h with
        ⟨y, hy, hs⟩ | ⟨_, _, hway, hlength⟩
      · exact absurd hs (hshape hy)
      · simpa [hlength] using hway.length_le
    · cases hpath
    · exact .inl ⟨y, hy, hc, rfl⟩
    · exact absurd h (hshape hy)

/-- Rendering ends on its own, at every operator on a simple trail from the root. It reports a
circular dependency only of a cycle, never gets past one, and, if nothing else can go wrong,
reports an operand on one. -/
theorem express_cycles (b : BuiltIn) (s : Scope) (x : Operand) :
    (∀ other stop room, s.graph.parts.size < room ∨ stop = .error .nestedTooDeep →
      b.dialect.expressGuarded s (s.IsTrail x) other stop room [] x =
        b.dialect.express s room [] x) ∧
    (¬ s.ReachesCycle x → ∀ room tag name,
      b.dialect.express s room [] x ≠ .error (.circular tag name)) ∧
    (s.ReachesCycle x → ∀ room text, b.dialect.express s room [] x ≠ .ok text) ∧
    (s.ReachesCycle x → (∀ y, s.Reaches x y → s.Supported y) → ∀ room,
      (∃ y, s.Reaches x y ∧ s.OnCycle y ∧ b.dialect.express s room [] x =
          .error (.circular (s.graph.tag y) (Dialect.referenceName? s.graph y))) ∨
        room ≤ s.graph.parts.size ∧ b.dialect.express s room [] x = .error .nestedTooDeep) := by
  refine ⟨?_, ?_, ?_, ?_⟩
  · intro other stop room hroom
    exact expressGuarded_eq b other stop room (.nil s x) (by simpa using hroom)
  · intro hcycle room tag name h
    obtain ⟨y, hxy, hy, _⟩ := onCycle_of_express_eq_circular h
    exact hcycle ⟨y, hxy, hy⟩
  · intro hcycle room text h
    obtain ⟨f, hf⟩ := exists_stands_of_express h
    exact hf.not_reachesCycle hcycle
  · exact exists_onCycle_of_supported b

/-- A condition that negates itself, and one that is joined with itself. -/
def laps : Scope where
  graph := ⟨#[.node (.not (.part 0)), .node (.isEmpty (.lit .null)),
    .node (.and (.part 1) (.part 1))]⟩

theorem laps_cycles :
    laps.ReachesCycle (.part 0) ∧ ¬ laps.ReachesCycle (.part 2) ∧
      (∀ room, 3 < room → Dialect.postgres.express laps room [] (.part 0) =
        .error (.circular "not" none)) ∧
      ∀ room tag name, Dialect.postgres.express laps room [] (.part 2) ≠
        .error (.circular tag name) := by
  have hedge {y : Operand} : laps.Edge (.part 0) y ↔ y = .part 0 := by
    have : laps.below (.part 0) = [.part 0] := rfl
    simp [Edge, this]
  have hcycle : laps.ReachesCycle (.part 0) := ⟨.part 0, .refl, .single (hedge.2 rfl)⟩
  have hreaches {y : Operand} (h : laps.Reaches (.part 0) y) : y = .part 0 := by
    induction h with
    | refl => rfl
    | tail _ h ih => exact hedge.1 (ih ▸ h)
  have hstands : laps.Stands (.part 1) (.atom (.isNull false .null)) := .atom rfl
  have hjoined : ¬ laps.ReachesCycle (.part 2) :=
    (Stands.join (x := .part 2) (k := .and) rfl hstands hstands).not_reachesCycle
  refine ⟨hcycle, hjoined, fun room hroom => ?_, ?_⟩
  · rcases (express_cycles .postgres laps (.part 0)).2.2.2 hcycle
      (fun y hy => by rw [hreaches hy]; exact trivial) room with ⟨y, hy, _, h⟩ | ⟨h, _⟩
    · rw [hreaches hy] at h
      exact h
    · exact absurd hroom (Nat.not_lt.2 h)
  · exact (express_cycles .postgres laps (.part 2)).2.1 hjoined

end Scope

end FilterCompiler
