import FilterCompiler.Proofs.Formula
import Mathlib.Logic.Relation

/-! What a condition leads to. From a connective one gets to the conditions below it and from
a reference to the condition that its name stands for. An operand stands for a formula when
all it leads to can be written and no way leads back; then a built-in dialect writes exactly
that formula, or gives up because it is nested too deep. Whatever else goes wrong goes wrong
at an operand that can be reached: either the operand cannot be written by itself, or it lies
on a cycle. -/

namespace FilterCompiler

/-! ### Ways in general -/

section ways

variable {α : Type} {r : α → α → Prop} {x : α}

/-- What leads on for a while only does not lead back to where it starts. -/
theorem not_transGen_self_of_acc (h : Acc (flip r) x) : ¬ Relation.TransGen r x x := by
  induction h with
  | intro x _ ih =>
    intro hx
    obtain ⟨y, hxy, hyx⟩ := Relation.TransGen.head'_iff.1 hx
    exact ih y hxy (Relation.TransGen.tail' hyx hxy)

theorem acc_of_reflTransGen {y : α} (h : Acc (flip r) x) (hxy : Relation.ReflTransGen r x y) :
    Acc (flip r) y := by
  induction hxy with
  | refl => exact h
  | tail _ hyz ih => exact ih.inv hyz

/-- Everything on a path leads to its end. -/
theorem transGen_of_isChain {path : List α} (h : (x :: path).IsChain fun y x => r x y) :
    ∀ p ∈ path, Relation.TransGen r p x := by
  have : IsTrans α fun y x => Relation.TransGen r x y := ⟨fun _ _ _ hyx hzy => hzy.trans hyx⟩
  have hchain : (x :: path).IsChain fun y x => Relation.TransGen r x y :=
    h.imp fun _ _ => .single
  exact (List.pairwise_cons.1 (List.isChain_iff_pairwise.1 hchain)).1

end ways

namespace Shape

def below : Shape → List Operand
  | .atom _ => []
  | .join _ l r => [l, r]
  | .not y => [y]
  | .follow body => [body]

def isJunction : Shape → Bool
  | .join .. => true
  | _ => false

end Shape

namespace Scope

/-- The conditions right below an operand: what a connective joins or negates, or the
condition that a reference stands for. -/
def below (s : Scope) (x : Operand) : List Operand :=
  match s.graph.node? x with
  | some (.and l r) | some (.or l r) => [l, r]
  | some (.not y) => [y]
  | some (.reference name) => (s.resolve name).toOption.toList
  | _ => []

def Edge (s : Scope) (x y : Operand) : Prop := y ∈ s.below x

instance (s : Scope) : DecidableRel s.Edge := fun x y => inferInstanceAs (Decidable (y ∈ s.below x))

def Reaches (s : Scope) : Operand → Operand → Prop := Relation.ReflTransGen s.Edge

/-- Whether some way leads from an operand back to it. -/
def OnCycle (s : Scope) (x : Operand) : Prop := Relation.TransGen s.Edge x x

def ReachesCycle (s : Scope) (x : Operand) : Prop := ∃ y, s.Reaches x y ∧ s.OnCycle y

/-- An operand stands for a formula. -/
inductive Stands (s : Scope) : Operand → Formula → Prop where
  | atom {x : Operand} {p : Predicate} (shape : s.shape x = .ok (.atom p)) : Stands s x (.atom p)
  | join {x l r : Operand} {k : Connective} {f g : Formula}
      (shape : s.shape x = .ok (.join k l r)) (left : Stands s l f) (right : Stands s r g) :
      Stands s x (.join k f g)
  | not {x y : Operand} {f : Formula} (shape : s.shape x = .ok (.not y)) (operand : Stands s y f) :
      Stands s x (.not f)
  | named {x y : Operand} {f : Formula} (shape : s.shape x = .ok (.follow y))
      (body : Stands s y f) : Stands s x (.named f)

variable {s : Scope} {x y : Operand}

theorem below_eq (s : Scope) (x : Operand) :
    s.below x = match s.shape x with
      | .ok shape => shape.below
      | .error _ => [] := by
  unfold below shape
  cases s.graph.node? x with
  | none => rfl
  | some n =>
    cases n with
    | lessThan l r | greaterThan l r =>
      dsimp only
      cases s.term l with
      | error f => rfl
      | ok t => cases s.term r <;> rfl
    | equal y values | notEqual y values =>
      dsimp only
      cases s.membership _ y values <;> rfl
    | isEmpty y | notEmpty y =>
      dsimp only
      cases s.term y <;> rfl
    | field number =>
      dsimp only
      cases s.column number <;> rfl
    | reference name =>
      dsimp only
      cases s.resolve name <;> rfl
    | _ => rfl

theorem below_of_shape {shape : Shape} (h : s.shape x = .ok shape) : s.below x = shape.below := by
  rw [below_eq, h]

theorem Edge.of_shape {shape : Shape} (h : s.shape x = .ok shape) (hy : y ∈ shape.below) :
    s.Edge x y := by
  rwa [Edge, below_of_shape h]

theorem isJunction_of_shape {shape : Shape} (h : s.shape x = .ok shape) :
    (s.graph.node? x).any Node.isJunction = shape.isJunction := by
  unfold Scope.shape at h
  cases hn : s.graph.node? x with
  | none => simp [hn] at h
  | some n =>
    cases n <;> simp only [hn, bind_eq_ok_iff, pure_eq_ok, throw_eq_error, Except.ok.injEq,
      reduceCtorEq] at h
    case and | or | not => subst h; rfl
    case lessThan | greaterThan => obtain ⟨_, _, _, _, rfl⟩ := h; rfl
    all_goals obtain ⟨_, _, rfl⟩ := h; rfl

end Scope

/-! ### One step of rendering -/

theorem Dialect.side_eq (s : Scope) (express : Operand → Rendered) (x : Operand) :
    Dialect.side s express x =
      (express x).map (Formula.enclosed ((s.graph.node? x).any Node.isJunction)) := by
  unfold Dialect.side Formula.enclosed
  cases express x with
  | error f => rfl
  | ok text => simp only [ok_bind, map_ok]; split <;> rfl

namespace Shape

variable {mark : Char} {s : Scope} {e e' : Operand → Rendered} {shape : Shape}

theorem write_join {k : Connective} {l r : Operand} :
    (join k l r).write mark s e =
      Dialect.side s e l >>= fun a => (Dialect.side s e r).map fun b => a ++ k.write ++ b := by
  simp only [write, Dialect.junction]
  cases Dialect.side s e l with
  | error f => rfl
  | ok a => cases Dialect.side s e r <;> rfl

theorem write_congr (h : ∀ y ∈ shape.below, e y = e' y) :
    shape.write mark s e = shape.write mark s e' := by
  cases shape with
  | atom p => rfl
  | join k l r =>
    rw [write_join, write_join, Dialect.side_eq, Dialect.side_eq, Dialect.side_eq, Dialect.side_eq,
      h l (by simp [below]), h r (by simp [below])]
  | not y => rw [write, write, h y (by simp [below])]
  | follow body => exact h body (by simp [below])

/-- Nothing below a shape that is written has failed. -/
theorem exists_of_write_eq_ok {text : String} (h : shape.write mark s e = .ok text) :
    ∀ y ∈ shape.below, ∃ text, e y = .ok text := by
  cases shape with
  | atom p => simp [below]
  | join k l r =>
    rw [write_join, Dialect.side_eq, Dialect.side_eq] at h
    simp only [bind_eq_ok_iff, map_eq_ok_iff] at h
    obtain ⟨_, ⟨a, ha, _⟩, _, ⟨b, hb, _⟩, _⟩ := h
    simp [below, ha, hb]
  | not y =>
    obtain ⟨a, ha, _⟩ := map_eq_ok_iff.1 h
    simp [below, ha]
  | follow body => simpa [below] using ⟨text, h⟩

/-- A shape fails as something below it does. -/
theorem exists_of_write_eq_error {f : Fault} (h : shape.write mark s e = .error f) :
    ∃ y ∈ shape.below, e y = .error f := by
  cases shape with
  | atom p => cases h
  | join k l r =>
    rw [write_join, Dialect.side_eq, Dialect.side_eq] at h
    simp only [bind_eq_error_iff, map_eq_error_iff] at h
    rcases h with h | ⟨_, _, h⟩
    · exact ⟨l, by simp [below], h⟩
    · exact ⟨r, by simp [below], h⟩
  | not y => exact ⟨y, by simp [below], map_eq_error_iff.1 h⟩
  | follow body => exact ⟨body, by simp [below], h⟩

end Shape

namespace BuiltIn

variable (b : BuiltIn) (s : Scope)

theorem express_succ (room : Nat) (path : List Operand) (x : Operand) :
    b.dialect.express s (room + 1) path x =
      if x ∈ path then .error (Dialect.circularAt s.graph x)
      else s.shape x >>= Shape.write b.mark s (b.dialect.express s room (x :: path)) := by
  rw [Dialect.express, operator_eq_shape]

/-- What an operator writes depends only on what is right below the node. -/
theorem operator_congr {e e' : Operand → Rendered} {x : Operand}
    (h : ∀ y ∈ s.below x, e y = e' y) :
    b.dialect.operator s (b.dialect.formatValue s) e x =
      b.dialect.operator s (b.dialect.formatValue s) e' x := by
  rw [operator_eq_shape, operator_eq_shape]
  cases hs : s.shape x with
  | error f => rfl
  | ok shape => exact Shape.write_congr fun y hy => h y (Scope.below_of_shape hs ▸ hy)

end BuiltIn

namespace Scope

variable {s : Scope} {x y : Operand} {f : Formula}

/-! ### Standing for a formula -/

theorem Stands.exists_shape (h : s.Stands x f) : ∃ shape, s.shape x = .ok shape := by
  cases h with
  | atom shape | join shape | not shape | named shape => exact ⟨_, shape⟩

theorem Stands.ne_null (h : s.Stands x f) : x ≠ .lit .null := by
  rintro rfl
  obtain ⟨_, hshape⟩ := h.exists_shape
  cases hshape

theorem Stands.isJunction (h : s.Stands x f) :
    (s.graph.node? x).any Node.isJunction = f.isJunction := by
  cases h with
  | atom shape | not shape | named shape => rw [isJunction_of_shape shape]; rfl
  | join shape => rw [isJunction_of_shape shape]; rfl

/-- A condition stands for one formula at most. -/
theorem Stands.unique {f g : Formula} (hf : s.Stands x f) (hg : s.Stands x g) : f = g := by
  induction hf generalizing g with
  | atom shape =>
    cases hg with
    | atom shape' =>
      rw [shape] at shape'
      cases shape'
      rfl
    | join shape' | not shape' | named shape' => rw [shape] at shape'; cases shape'
  | join shape _ _ ihl ihr =>
    cases hg with
    | atom shape' | not shape' | named shape' => rw [shape] at shape'; cases shape'
    | join shape' left right =>
      rw [shape] at shape'
      cases shape'
      rw [ihl left, ihr right]
  | not shape _ ih =>
    cases hg with
    | atom shape' | join shape' | named shape' => rw [shape] at shape'; cases shape'
    | not shape' operand =>
      rw [shape] at shape'
      cases shape'
      rw [ih operand]
  | named shape _ ih =>
    cases hg with
    | atom shape' | join shape' | not shape' => rw [shape] at shape'; cases shape'
    | named shape' body =>
      rw [shape] at shape'
      cases shape'
      rw [ih body]

/-- What is right below an operand stands for a part of its formula. -/
theorem Stands.edge (h : s.Stands x f) (hxy : s.Edge x y) :
    ∃ g, s.Stands y g ∧ g.depth < f.depth := by
  rw [Edge] at hxy
  cases h with
  | atom shape =>
    rw [below_of_shape shape] at hxy
    cases hxy
  | @join _ l r k f g shape left right =>
    rw [below_of_shape shape] at hxy
    simp only [Shape.below, List.mem_cons, List.not_mem_nil, or_false] at hxy
    rcases hxy with rfl | rfl
    · exact ⟨f, left, by simp only [Formula.depth]; omega⟩
    · exact ⟨g, right, by simp only [Formula.depth]; omega⟩
  | not shape operand =>
    rw [below_of_shape shape, Shape.below, List.mem_singleton] at hxy
    exact ⟨_, hxy ▸ operand, by simp [Formula.depth]⟩
  | named shape body =>
    rw [below_of_shape shape, Shape.below, List.mem_singleton] at hxy
    exact ⟨_, hxy ▸ body, by simp [Formula.depth]⟩

/-- All that a condition leads to stands for a formula if the condition does. -/
theorem Stands.of_reaches (h : s.Stands x f) (hxy : s.Reaches x y) : ∃ g, s.Stands y g := by
  induction hxy with
  | refl => exact ⟨f, h⟩
  | tail _ hyz ih =>
    obtain ⟨g, hg⟩ := ih
    obtain ⟨k, hk, _⟩ := hg.edge hyz
    exact ⟨k, hk⟩

/-- A way from an operand that stands for a formula gets to less deep formulas all the time. -/
theorem Stands.not_onCycle (h : s.Stands x f) : ¬ s.OnCycle x := by
  induction hn : f.depth using Nat.strongRecOn generalizing x f with
  | ind n ih =>
    intro hx
    obtain ⟨y, hxy, hyx⟩ := Relation.TransGen.head'_iff.1 hx
    obtain ⟨g, hg, hlt⟩ := h.edge hxy
    exact ih g.depth (hn ▸ hlt) hg rfl (Relation.TransGen.tail' hyx hxy)

theorem Stands.not_reachesCycle (h : s.Stands x f) : ¬ s.ReachesCycle x := by
  rintro ⟨y, hxy, hy⟩
  obtain ⟨g, hg⟩ := h.of_reaches hxy
  exact hg.not_onCycle hy

/-- A condition that stands for a formula is written as the formula, unless it is nested too
deep. Everything above it on the path leads to it, so nothing of it stands on the path. -/
theorem Stands.express (h : s.Stands x f) (b : BuiltIn) (room : Nat) (path : List Operand)
    (hpath : ∀ p ∈ path, Relation.TransGen s.Edge p x) :
    b.dialect.express s room path x =
      if f.depth ≤ room then .ok (f.write b.mark) else .error .nestedTooDeep := by
  induction room generalizing x f path with
  | zero =>
    have := f.depth_pos
    rw [if_neg (by omega)]
    rfl
  | succ room ih =>
    have hx : x ∉ path := fun hx => h.not_onCycle (hpath x hx)
    have below {y : Operand} (hxy : s.Edge x y) :
        ∀ p ∈ x :: path, Relation.TransGen s.Edge p y := by
      intro p hp
      rcases List.mem_cons.1 hp with rfl | hp
      · exact .single hxy
      · exact (hpath p hp).tail hxy
    rw [b.express_succ, if_neg hx]
    cases h with
    | atom shape =>
      rw [shape, if_pos (by simp [Formula.depth])]
      rfl
    | @join _ l r k f g shape left right =>
      have hl : s.Edge x l := .of_shape shape (by simp [Shape.below])
      have hr : s.Edge x r := .of_shape shape (by simp [Shape.below])
      rw [shape, ok_bind, Shape.write_join, Dialect.side_eq, Dialect.side_eq, left.isJunction,
        right.isJunction, ih left _ (below hl), ih right _ (below hr)]
      have hdepth : (Formula.join k f g).depth ≤ room + 1 ↔ f.depth ≤ room ∧ g.depth ≤ room := by
        simp only [Formula.depth]; omega
      simp only [hdepth]
      by_cases hf : f.depth ≤ room <;> by_cases hg : g.depth ≤ room <;>
        simp [Formula.write, hf, hg]
    | @not _ y f shape operand =>
      have hy : s.Edge x y := .of_shape shape (List.mem_singleton_self _)
      rw [shape, ok_bind, Shape.write, ih operand _ (below hy)]
      simp only [Formula.depth, Nat.add_le_add_iff_right]
      split <;> rfl
    | @named _ y f shape body =>
      have hy : s.Edge x y := .of_shape shape (List.mem_singleton_self _)
      rw [shape, ok_bind, Shape.write, ih body _ (below hy)]
      simp only [Formula.depth, Nat.add_le_add_iff_right, Formula.write]

/-- What is written stands for a formula. -/
theorem exists_stands_of_express {b : BuiltIn} {room : Nat} {path : List Operand} {text : String}
    (h : b.dialect.express s room path x = .ok text) : ∃ f, s.Stands x f := by
  induction room generalizing x path text with
  | zero => cases h
  | succ room ih =>
    rw [b.express_succ] at h
    split at h
    · cases h
    · obtain ⟨shape, hshape, h⟩ := bind_eq_ok_iff.1 h
      have hbelow : ∀ y ∈ shape.below, ∃ f, s.Stands y f := by
        intro y hy
        obtain ⟨text, ht⟩ := Shape.exists_of_write_eq_ok h y hy
        exact ih ht
      cases shape with
      | atom p => exact ⟨_, .atom hshape⟩
      | join k l r =>
        obtain ⟨f, hf⟩ := hbelow l (by simp [Shape.below])
        obtain ⟨g, hg⟩ := hbelow r (by simp [Shape.below])
        exact ⟨_, .join hshape hf hg⟩
      | not y =>
        obtain ⟨f, hf⟩ := hbelow y (by simp [Shape.below])
        exact ⟨_, .not hshape hf⟩
      | follow body =>
        obtain ⟨f, hf⟩ := hbelow body (by simp [Shape.below])
        exact ⟨_, .named hshape hf⟩

/-- A condition is written exactly if it stands for a formula that is not too deep. -/
theorem express_eq_ok_iff {b : BuiltIn} {room : Nat} {text : String} :
    b.dialect.express s room [] x = .ok text ↔
      ∃ f, s.Stands x f ∧ f.depth ≤ room ∧ text = f.write b.mark := by
  constructor
  · intro h
    obtain ⟨f, hf⟩ := exists_stands_of_express h
    rw [hf.express b room [] (by simp)] at h
    split at h
    · next hdepth => exact ⟨f, hf, hdepth, (Except.ok.inj h).symm⟩
    · cases h
  · rintro ⟨f, hf, hdepth, rfl⟩
    rw [hf.express b room [] (by simp), if_pos hdepth]

/-! ### Where a fault comes from -/

/-- A fault other than giving up comes from an operand that can be reached: one that is met
again on the way to it, or one that cannot be written by itself. -/
theorem origin_of_express_eq_error {b : BuiltIn} {room : Nat} {path : List Operand} {e : Fault}
    (h : b.dialect.express s room path x = .error e) :
    e = .nestedTooDeep ∨
      (∃ y, s.Reaches x y ∧ (y ∈ path ∨ s.OnCycle y) ∧ e = Dialect.circularAt s.graph y) ∨
      ∃ y, s.Reaches x y ∧ s.shape y = .error e := by
  induction room generalizing x path with
  | zero =>
    cases h
    exact .inl rfl
  | succ room ih =>
    rw [b.express_succ] at h
    split at h
    · next hx =>
      cases h
      exact .inr (.inl ⟨x, .refl, .inl hx, rfl⟩)
    · rcases bind_eq_error_iff.1 h with h | ⟨shape, hshape, h⟩
      · exact .inr (.inr ⟨x, .refl, h⟩)
      · obtain ⟨y, hy, h⟩ := Shape.exists_of_write_eq_error h
        have hxy : s.Edge x y := .of_shape hshape hy
        rcases ih h with h | ⟨z, hyz, hz, h⟩ | ⟨z, hyz, h⟩
        · exact .inl h
        · refine .inr (.inl ⟨z, .head hxy hyz, ?_, h⟩)
          rcases hz with hz | hz
          · rcases List.mem_cons.1 hz with rfl | hz
            · exact .inr (.head' hxy hyz)
            · exact .inl hz
          · exact .inr hz
        · exact .inr (.inr ⟨z, .head hxy hyz, h⟩)

end Scope

end FilterCompiler
