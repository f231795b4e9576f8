import FilterCompiler.Proofs.Circularity
import FilterCompiler.Proofs.Locality
import FilterCompiler.Proofs.Precedence

/-! References put in. A condition is inlined when every reference in it whose name stands for
something is replaced by what it stands for, and so on inside of that. Proved here: a condition
that reaches no cycle can be inlined, it then fails with the same fault or is written with the
same predicates in the same order, and all that comes in is a pair of parentheses wherever a
reference right below a connective led to a connective. -/

namespace FilterCompiler

/-! ### Formulas without references -/

namespace Formula

/-- A formula with its references forgotten. -/
def inlined : Formula → Formula
  | atom p => .atom p
  | join k f g => .join k f.inlined g.inlined
  | not f => .not f.inlined
  | named f => f.inlined

/-- How many references stand right below a connective and lead to one: their connectives are
written without parentheses. -/
def bare : Formula → Nat
  | atom _ => 0
  | join _ f g => f.bare + g.bare + (f.hidden?.toList.length + g.hidden?.toList.length)
  | not f | named f => f.bare

theorem depth_inlined_le (f : Formula) : f.inlined.depth ≤ f.depth := by
  induction f with
  | atom p => exact Nat.le_refl _
  | join k f g ihf ihg => simp only [inlined, depth]; omega
  | not f ih => exact Nat.succ_le_succ ih
  | named f ih => exact Nat.le_succ_of_le ih

theorem isJunction_inlined (f : Formula) : f.inlined.isJunction = f.top?.isSome := by
  induction f with
  | named f ih => exact ih
  | _ => rfl

theorem length_enclosed (needed : Bool) (text : String) :
    (enclosed needed text).length = text.length + 2 * needed.toNat := by
  cases needed with
  | false => simp [enclosed]
  | true =>
    have hopening : "(".length = 1 := rfl
    have hclosing : ")".length = 1 := rfl
    simp only [enclosed, if_true, String.length_append, hopening, hclosing, Bool.toNat_true]
    omega

/-- Without its reference a side is put in parentheses if it hid a connective. -/
theorem toNat_isJunction_inlined (f : Formula) :
    f.inlined.isJunction.toNat = f.isJunction.toNat + f.hidden?.toList.length := by
  rw [isJunction_inlined]
  cases f with
  | named f => cases h : f.top? <;> simp [top?, hidden?, isJunction, h]
  | _ => rfl

/-- Inlining adds a pair of parentheses for each reference that hides a connective. -/
theorem length_write_inlined (mark : Char) (f : Formula) :
    (f.inlined.write mark).length = (f.write mark).length + 2 * f.bare := by
  induction f with
  | atom p => rfl
  | join k f g ihf ihg =>
    have hf := f.toNat_isJunction_inlined
    have hg := g.toNat_isJunction_inlined
    simp only [inlined, write, bare, String.length_append, length_enclosed, ihf, ihg]
    omega
  | not f ih => simp only [inlined, write, bare, String.length_append, ih]; omega
  | named f ih => exact ih

theorem write_inlined_of_bare (mark : Char) {f : Formula} (h : f.bare = 0) :
    f.inlined.write mark = f.write mark := by
  induction f with
  | atom p => rfl
  | join k f g ihf ihg =>
    have hside {f : Formula} (hf : f.hidden?.toList.length = 0) :
        f.inlined.isJunction = f.isJunction := by
      have := f.toNat_isJunction_inlined
      rw [hf, Nat.add_zero] at this
      revert this
      cases f.inlined.isJunction <;> cases f.isJunction <;> simp
    simp only [bare] at h
    simp only [inlined, write]
    rw [hside (f := f) (by omega), hside (f := g) (by omega), ihf (by omega), ihg (by omega)]
  | not f ih => simp only [inlined, write, ih h]
  | named f ih => exact ih h

end Formula

namespace BuiltIn

variable (b : BuiltIn) (table limit : Option String) (f : Formula)

theorem length_frame_inlined :
    (b.frame table limit (some (f.inlined.write b.mark))).length =
      (b.frame table limit (some (f.write b.mark))).length + 2 * f.bare := by
  obtain ⟨before, after, hframe⟩ := b.exists_frame_eq table limit
  simp only [hframe, String.length_append, f.length_write_inlined]
  omega

theorem frame_inlined_eq_iff :
    b.frame table limit (some (f.inlined.write b.mark)) =
      b.frame table limit (some (f.write b.mark)) ↔ f.bare = 0 := by
  constructor
  · intro h
    have hlength := b.length_frame_inlined table limit f
    rw [h] at hlength
    omega
  · intro h
    rw [f.write_inlined_of_bare b.mark h]

end BuiltIn

/-! ### Conditions without references -/

namespace Scope

variable {s : Scope} {x x' y l r : Operand}

theorem below_join {k : Connective} (h : s.graph.node? x = some (k.node l r)) :
    s.below x = [l, r] := by
  rw [below_of_shape (shape_join h), Shape.below]

theorem below_not (h : s.graph.node? x = some (.not y)) : s.below x = [y] := by
  rw [below_of_shape (shape_not h), Shape.below]

theorem below_reference {name : Operand} (h : s.graph.node? x = some (.reference name))
    (hname : s.resolve name = .ok y) : s.below x = [y] := by
  have hshape : s.shape x = .ok (.follow y) := by rw [shape_reference h, hname]; rfl
  rw [below_of_shape hshape, Shape.below]

/-- A condition joins two others, negates one, refers to one, or holds none. -/
theorem below_cases (s : Scope) (x : Operand) :
    (∃ k l r, s.graph.node? x = some (Connective.node k l r)) ∨
      (∃ y, s.graph.node? x = some (.not y)) ∨
      (∃ name y, s.graph.node? x = some (.reference name) ∧ s.resolve name = .ok y) ∨
      s.below x = [] := by
  unfold below
  cases hn : s.graph.node? x with
  | none => exact .inr (.inr (.inr rfl))
  | some n =>
    cases n with
    | and l r => exact .inl ⟨.and, l, r, rfl⟩
    | or l r => exact .inl ⟨.or, l, r, rfl⟩
    | not y => exact .inr (.inl ⟨y, rfl⟩)
    | reference name =>
      cases hbody : s.resolve name with
      | error e => exact .inr (.inr (.inr (by simp [hbody, Except.toOption])))
      | ok y => exact .inr (.inr (.inl ⟨name, y, rfl, hbody⟩))
    | _ => exact .inr (.inr (.inr rfl))

/-- An operand is a condition in which every reference whose name stands for something has been
replaced by what it stands for. All else has been left as it was, however much of the graph the
two of them share. -/
inductive Inlines (s : Scope) : Operand → Operand → Prop where
  | reference {x name body x' : Operand} (node : s.graph.node? x = some (.reference name))
      (found : s.resolve name = .ok body) (inlined : Inlines s body x') : Inlines s x x'
  | join {x x' l l' r r' : Operand} {k : Connective} (node : s.graph.node? x = some (k.node l r))
      (node' : s.graph.node? x' = some (k.node l' r')) (left : Inlines s l l')
      (right : Inlines s r r') : Inlines s x x'
  | not {x x' y y' : Operand} (node : s.graph.node? x = some (.not y))
      (node' : s.graph.node? x' = some (.not y')) (operand : Inlines s y y') : Inlines s x x'
  | leaf {x : Operand} (below : s.below x = []) : Inlines s x x

/-! ### Ways that end -/

theorem Inlines.acc (h : s.Inlines x x') : Acc (flip s.Edge) x ∧ Acc (flip s.Edge) x' := by
  have intro {x : Operand} (h : ∀ y ∈ s.below x, Acc (flip s.Edge) y) : Acc (flip s.Edge) x :=
    .intro x h
  induction h with
  | reference node found _ ih =>
    refine ⟨intro ?_, ih.2⟩
    simpa [below_reference node found] using ih.1
  | join node node' _ _ ihl ihr =>
    refine ⟨intro ?_, intro ?_⟩
    · simpa [below_join node] using ⟨ihl.1, ihr.1⟩
    · simpa [below_join node'] using ⟨ihl.2, ihr.2⟩
  | not node node' _ ih =>
    refine ⟨intro ?_, intro ?_⟩
    · simpa [below_not node] using ih.1
    · simpa [below_not node'] using ih.2
  | leaf below => exact ⟨intro (by simp [below]), intro (by simp [below])⟩

namespace IsWay

variable {root : Operand} {path : List Operand}

theorem reaches (h : s.IsWay root path x) : s.Reaches root x := by
  rcases List.mem_cons.1 (List.mem_of_getLast? h.start) with rfl | hroot
  · exact .refl
  · exact (transGen_of_isChain h.edges root hroot).to_reflTransGen

/-- A path from where no cycle can be reached cannot go on for ever. -/
theorem acc (hacyclic : ¬ s.ReachesCycle root) (room : Nat) (h : s.IsWay root path x)
    (hroom : s.graph.parts.size < room + path.length) : Acc (flip s.Edge) x := by
  induction room generalizing x path with
  | zero => have := h.length_le; omega
  | succ room ih =>
    have hx : x ∉ path := fun hx => hacyclic ⟨x, h.reaches, transGen_of_isChain h.edges x hx⟩
    refine .intro x fun y hxy => ih (h.step hx hxy) ?_
    rw [List.length_cons]
    omega

end IsWay

theorem acc_of_not_reachesCycle (h : ¬ s.ReachesCycle x) : Acc (flip s.Edge) x :=
  IsWay.acc h (s.graph.parts.size + 1) (.nil s x) (by simp)

/-! ### What inlining keeps -/

theorem Inlines.stands (h : s.Inlines x x') {f : Formula} (hf : s.Stands x f) :
    s.Stands x' f.inlined := by
  induction h generalizing f with
  | reference node found _ ih =>
    have hbelow := below_reference node found
    cases hf with
    | atom shape | join shape | not shape =>
      rw [shape_reference node, found] at shape
      cases shape
    | named shape body =>
      rw [shape_reference node, found] at shape
      cases shape
      have hbody := ih body
      exact hbody
  | join node node' _ _ ihl ihr =>
    cases hf with
    | atom shape | not shape | named shape => rw [shape_join node] at shape; cases shape
    | join shape left right =>
      rw [shape_join node] at shape
      cases shape
      exact .join (shape_join node') (ihl left) (ihr right)
  | not node node' _ ih =>
    cases hf with
    | atom shape | join shape | named shape => rw [shape_not node] at shape; cases shape
    | not shape operand =>
      rw [shape_not node] at shape
      cases shape
      exact .not (shape_not node') (ih operand)
  | leaf below =>
    cases hf with
    | atom shape => exact .atom shape
    | join shape | not shape | named shape => rw [below_of_shape shape] at below; cases below

theorem Inlines.ne_null (h : s.Inlines x x') (hx : x ≠ .lit .null) : x' ≠ .lit .null := by
  induction h with
  | reference _ found _ ih =>
    obtain ⟨_, _, _, hbody⟩ := resolve_eq_ok_iff.1 found
    exact ih hbody
  | join _ node' | not _ node' => rintro rfl; cases node'
  | leaf => exact hx

theorem Inlines.has (h : s.Inlines x x') (hs : s.IsClosed) (hx : s.graph.Has x) :
    s.graph.Has x' := by
  induction h with
  | reference node found _ ih =>
    exact ih (hs.has_of_edge hx (by simp [Edge, below_reference node found]))
  | join _ node' | not _ node' => exact Graph.has_of_node? node'
  | leaf => exact hx

/-- What is written is written as the formula without its references, with no more room. -/
theorem Inlines.express_of_ok (h : s.Inlines x x') (b : BuiltIn) {room room' : Nat}
    {path path' : List Operand} (hroom : room ≤ room')
    (hpath : ∀ p ∈ path, Relation.TransGen s.Edge p x)
    (hpath' : ∀ p ∈ path', Relation.TransGen s.Edge p x') {text : String}
    (hx : b.dialect.express s room path x = .ok text) :
    ∃ f, s.Stands x f ∧ text = f.write b.mark ∧
      b.dialect.express s room' path' x' = .ok (f.inlined.write b.mark) := by
  obtain ⟨f, hf⟩ := exists_stands_of_express hx
  rw [hf.express b room path hpath] at hx
  split at hx
  · next hdepth =>
    refine ⟨f, hf, (Except.ok.inj hx).symm, ?_⟩
    rw [(h.stands hf).express b room' path' hpath', if_pos]
    exact (f.depth_inlined_le.trans hdepth).trans hroom
  · cases hx

/-- A condition that fails, but not for want of room, fails in the same way without its
references. -/
theorem Inlines.express_of_error (h : s.Inlines x x') (b : BuiltIn) {room room' : Nat}
    {path path' : List Operand} (hroom : room ≤ room')
    (hpath : ∀ p ∈ path, Relation.TransGen s.Edge p x)
    (hpath' : ∀ p ∈ path', Relation.TransGen s.Edge p x') {e : Fault} (he : e ≠ .nestedTooDeep)
    (hx : b.dialect.express s room path x = .error e) :
    b.dialect.express s room' path' x' = .error e := by
  have step {x y : Operand} {path : List Operand} (hpath : ∀ p ∈ path, Relation.TransGen s.Edge p x)
      (hxy : s.Edge x y) : ∀ p ∈ x :: path, Relation.TransGen s.Edge p y := by
    intro p hp
    rcases List.mem_cons.1 hp with rfl | hp
    · exact .single hxy
    · exact (hpath p hp).tail hxy
  induction h generalizing room room' path path' with
  | @reference x name body x' node found inlined ih =>
    have hnot : x ∉ path := fun h =>
      not_transGen_self_of_acc (Inlines.reference node found inlined).acc.1 (hpath x h)
    cases room with
    | zero => exact absurd (Except.error.inj hx).symm he
    | succ room =>
      rw [b.express_succ, if_neg hnot, shape_reference node, found] at hx
      refine ih (Nat.le_of_succ_le hroom) (step hpath ?_) hpath' hx
      simp [Edge, below_reference node found]
  | @join x x' l l' r r' k node node' left right ihl ihr =>
    have hacc := (Inlines.join node node' left right).acc
    have hnot : x ∉ path := fun h => not_transGen_self_of_acc hacc.1 (hpath x h)
    have hnot' : x' ∉ path' := fun h => not_transGen_self_of_acc hacc.2 (hpath' x' h)
    cases room with
    | zero => exact absurd (Except.error.inj hx).symm he
    | succ room =>
      obtain ⟨room', rfl⟩ : ∃ n, room' = n + 1 := ⟨room' - 1, by omega⟩
      have hroom : room ≤ room' := Nat.le_of_succ_le_succ hroom
      have hl := step hpath (y := l) (by simp [Edge, below_join node])
      have hr := step hpath (y := r) (by simp [Edge, below_join node])
      have hl' := step hpath' (y := l') (by simp [Edge, below_join node'])
      have hr' := step hpath' (y := r') (by simp [Edge, below_join node'])
      rw [b.express_succ, if_neg hnot, shape_join node, ok_bind, Shape.write_join, Dialect.side_eq,
        Dialect.side_eq, bind_eq_error_iff] at hx
      simp only [map_eq_error_iff, map_eq_ok_iff] at hx
      rw [b.express_succ, if_neg hnot', shape_join node', ok_bind, Shape.write_join,
        Dialect.side_eq, Dialect.side_eq]
      rcases hx with hx | ⟨_, ⟨a, hx, _⟩, hx'⟩
      · rw [ihl hroom hl hl' hx]
        rfl
      · obtain ⟨_, _, _, hx⟩ := left.express_of_ok b hroom hl hl' hx
        rw [hx, ihr hroom hr hr' hx']
        rfl
  | @not x x' y y' node node' operand ih =>
    have hacc := (Inlines.not node node' operand).acc
    have hnot : x ∉ path := fun h => not_transGen_self_of_acc hacc.1 (hpath x h)
    have hnot' : x' ∉ path' := fun h => not_transGen_self_of_acc hacc.2 (hpath' x' h)
    cases room with
    | zero => exact absurd (Except.error.inj hx).symm he
    | succ room =>
      obtain ⟨room', rfl⟩ : ∃ n, room' = n + 1 := ⟨room' - 1, by omega⟩
      rw [b.express_succ, if_neg hnot, shape_not node, ok_bind, Shape.write, map_eq_error_iff] at hx
      rw [b.express_succ, if_neg hnot', shape_not node', ok_bind, Shape.write,
        ih (Nat.le_of_succ_le_succ hroom) (step hpath (by simp [Edge, below_not node]))
          (step hpath' (by simp [Edge, below_not node'])) hx]
      rfl
  | @leaf x below =>
    have hacc := (Inlines.leaf below).acc.1
    have hnot : x ∉ path := fun h => not_transGen_self_of_acc hacc (hpath x h)
    have hnot' : x ∉ path' := fun h => not_transGen_self_of_acc hacc (hpath' x h)
    cases room with
    | zero => exact absurd (Except.error.inj hx).symm he
    | succ room =>
      obtain ⟨room', rfl⟩ : ∃ n, room' = n + 1 := ⟨room' - 1, by omega⟩
      rw [b.express_succ, if_neg hnot] at hx
      rw [b.express_succ, if_neg hnot']
      rcases bind_eq_error_iff.1 hx with hshape | ⟨shape, hshape, hx⟩
      · rw [hshape]
        rfl
      · obtain ⟨y, hy, _⟩ := Shape.exists_of_write_eq_error hx
        rw [← below_of_shape hshape, below] at hy
        cases hy

/-! ### Inlining a condition -/

theorem Inlines.extend {G : Graph} (h : s.Inlines x x') (hs : s.IsClosed)
    (hG : s.graph.Extends G) (hx : s.graph.Has x) : (s.on G).Inlines x x' := by
  have hedge {x y : Operand} (hx : s.graph.Has x) (hxy : y ∈ s.below x) : s.graph.Has y :=
    hs.has_of_edge hx hxy
  induction h with
  | reference node found _ ih =>
    refine .reference (hG.node? node) ?_ (ih (hedge hx (by simp [below_reference node found])))
    rw [hs.resolve_eq hG (hs.graph.node hx node _ (by simp [Node.arguments]))]
    exact found
  | join node node' _ _ ihl ihr =>
    exact .join (hG.node? node) (hG.node? node') (ihl (hedge hx (by simp [below_join node])))
      (ihr (hedge hx (by simp [below_join node])))
  | not node node' _ ih =>
    exact .not (hG.node? node) (hG.node? node') (ih (hedge hx (by simp [below_not node])))
  | leaf below => exact .leaf ((hs.below_eq hG hx).trans below)

/-- A condition that reaches no cycle can be inlined by adding parts to the graph. -/
theorem exists_inlines (hs : s.IsClosed) (hacc : Acc (flip s.Edge) x) (hx : s.graph.Has x)
    {G : Graph} (hG : s.graph.Extends G) (hclosed : G.IsClosed) :
    ∃ G' x', G.Extends G' ∧ G'.IsClosed ∧ G'.Has x' ∧ (s.on G').Inlines x x' := by
  induction hacc generalizing G with
  | intro x _ ih =>
    have hedge {y : Operand} (hxy : y ∈ s.below x) : s.graph.Has y := hs.has_of_edge hx hxy
    rcases s.below_cases x with ⟨k, l, r, hn⟩ | ⟨y, hn⟩ | ⟨name, y, hn, hname⟩ | hbelow
    · have hl : l ∈ s.below x := by simp [below_join hn]
      have hr : r ∈ s.below x := by simp [below_join hn]
      obtain ⟨G₁, l', hG₁, hclosed₁, hl', hleft⟩ := ih l hl (hedge hl) hG hclosed
      obtain ⟨G₂, r', hG₂, hclosed₂, hr', hright⟩ := ih r hr (hedge hr) (hG.trans hG₁) hclosed₁
      have hadd := G₂.extends_add (.node (k.node l' r'))
      have hoperands : ∀ z ∈ (Part.node (k.node l' r')).operands, G₂.Has z := by
        cases k <;> simpa [Part.operands, Connective.node, Node.arguments] using ⟨hG₂.has hl', hr'⟩
      have hG' := hG.trans (hG₁.trans hG₂)
      refine ⟨_, _, hG₁.trans (hG₂.trans hadd), hclosed₂.add hoperands, G₂.has_add _,
        .join ((hG'.trans hadd).node? hn) (G₂.node?_add _) ?_ ?_⟩
      · exact hleft.extend (hs.extend (hG.trans hG₁) hclosed₁) (hG₂.trans hadd)
          ((hG.trans hG₁).has (hedge hl))
      · exact hright.extend (hs.extend hG' hclosed₂) hadd (hG'.has (hedge hr))
    · have hy : y ∈ s.below x := by simp [below_not hn]
      obtain ⟨G₁, y', hG₁, hclosed₁, hy', hoperand⟩ := ih y hy (hedge hy) hG hclosed
      have hadd := G₁.extends_add (.node (.not y'))
      have hoperands : ∀ z ∈ (Part.node (.not y')).operands, G₁.Has z := by
        simpa [Part.operands, Node.arguments] using hy'
      have hG' := hG.trans hG₁
      refine ⟨_, _, hG₁.trans hadd, hclosed₁.add hoperands, G₁.has_add _,
        .not ((hG'.trans hadd).node? hn) (G₁.node?_add _) ?_⟩
      exact hoperand.extend (hs.extend hG' hclosed₁) hadd (hG'.has (hedge hy))
    · have hy : y ∈ s.below x := by simp [below_reference hn hname]
      obtain ⟨G', x', hG', hclosed', hx', hinlines⟩ := ih y hy (hedge hy) hG hclosed
      refine ⟨G', x', hG', hclosed', hx', .reference ((hG.trans hG').node? hn) ?_ hinlines⟩
      rw [hs.resolve_eq (hG.trans hG') (hs.graph.node hx hn _ (by simp [Node.arguments]))]
      exact hname
    · exact ⟨G, x, .refl G, hclosed, hG.has hx, .leaf ((hs.below_eq hG hx).trans hbelow)⟩

end Scope

/-! ### Compiling what has been inlined -/

namespace Compiler

/-- What a condition is looked up in, the query around it left out. -/
def setting (c : Compiler) (g : Graph) (fields : Fields) : Scope :=
  ⟨g, fields, c.definitions, c.room⟩

variable {c : Compiler} {g : Graph} {fields : Fields} {table : Option String} {x : Operand}

/-- A condition compiles to its own text in a frame. -/
theorem compile_eq_of_has (b : BuiltIn) (hregistry : c.registry = .builtin)
    (htable : c.table = tableOperand table) (limit : Option Nat)
    (hs : (c.setting g fields).IsClosed) (hx : g.Has x) (hne : x ≠ .lit .null) :
    c.compile g b.name fields ⟨x, limitOperand limit⟩ =
      told b.name (b.framed (namedTable table) (limitText limit)
        ((b.dialect.express (c.setting g fields) c.room [] x).map some)) := by
  rw [compile_eq_framed hregistry htable rfl, conditionText, if_neg hne]
  have hexpress := hs.express_eq
    (g.extends_add (.node (.select (c.selection ⟨x, limitOperand limit⟩)))) b c.room [] hx
  rw [← hexpress]
  rfl

/-- A condition that reaches no cycle can be inlined. Then it fails with the same fault, or it is
written with as many pairs of parentheses more as it has references right below a connective that
lead to a connective, and with the same text only if it has none. -/
theorem compile_inlined (b : BuiltIn) (hregistry : c.registry = .builtin)
    (htable : c.table = tableOperand table) (limit : Option Nat)
    (hs : (c.setting g fields).IsClosed) (hx : g.Has x) (hne : x ≠ .lit .null)
    (hacyclic : ¬ (c.setting g fields).ReachesCycle x) :
    (∃ g' x', g.Extends g' ∧ (c.setting g' fields).IsClosed ∧
      (c.setting g' fields).Inlines x x') ∧
    ∀ g' x', g.Extends g' → (c.setting g' fields).IsClosed → (c.setting g' fields).Inlines x x' →
      c.compile g b.name fields ⟨x, limitOperand limit⟩ ≠
        .failed (Fault.nestedTooDeep.within b.name) →
      (∃ e, c.compile g b.name fields ⟨x, limitOperand limit⟩ = .failed e ∧
        c.compile g' b.name fields ⟨x', limitOperand limit⟩ = .failed e) ∨
      ∃ f sql sql', (c.setting g fields).Stands x f ∧
        c.compile g b.name fields ⟨x, limitOperand limit⟩ = .ok sql ∧
        c.compile g' b.name fields ⟨x', limitOperand limit⟩ = .ok sql' ∧
        sql'.length = sql.length + 2 * f.bare ∧ (sql' = sql ↔ f.bare = 0) := by
  constructor
  · obtain ⟨g', x', hg, hclosed, _, hinlines⟩ := Scope.exists_inlines hs
      (Scope.acc_of_not_reachesCycle hacyclic) hx (.refl g) hs.graph
    exact ⟨g', x', hg, hs.extend hg hclosed, hinlines⟩
  · intro g' x' hg hs' hinlines hdeep
    rw [compile_eq_of_has b hregistry htable limit hs hx hne] at hdeep ⊢
    rw [compile_eq_of_has b hregistry htable limit hs' (hinlines.has hs' (hg.has hx))
      (hinlines.ne_null hne)]
    have hexpress := hs.express_eq hg b c.room [] hx
    cases hr : b.dialect.express (c.setting g fields) c.room [] x with
    | ok text =>
      obtain ⟨f, hf, hdepth, rfl⟩ := Scope.express_eq_ok_iff.1 hr
      have hr' := (hinlines.stands (hs.stands hg hf hx)).express b c.room [] (by simp)
      rw [if_pos (f.depth_inlined_le.trans hdepth)] at hr'
      rw [hr', map_ok, map_ok]
      cases limitText limit with
      | ok shown =>
        rw [b.framed_ok, b.framed_ok]
        refine .inr ⟨f, _, _, hf, rfl, rfl, ?_, ?_⟩
        · rw [String.length_append, String.length_append, b.length_frame_inlined]
          omega
        · rw [String.append_left_inj, b.frame_inlined_eq_iff]
      | error e =>
        rw [b.framed_of_limit_eq_error, b.framed_of_limit_eq_error]
        exact .inl ⟨_, rfl, rfl⟩
    | error e =>
      rw [hr, map_error] at hdeep
      rw [map_error]
      rcases b.framed_of_condition_eq_error (namedTable table) (limitText limit) e with
        hfault | ⟨e', hfault⟩
      · have he : e ≠ .nestedTooDeep := by
          rintro rfl
          exact hdeep (by rw [hfault]; rfl)
        have hr' : b.dialect.express (c.setting g' fields) c.room [] x' = .error e :=
          hinlines.express_of_error b (Nat.le_refl _) (by simp) (by simp) he (hexpress.trans hr)
        rw [hr', map_error, hfault]
        exact .inl ⟨_, rfl, rfl⟩
      · rw [hfault, hfault]
        exact .inl ⟨_, rfl, rfl⟩

/-- The reference put in: an AND of a null check and the AND that was there before. -/
def spilledInlined : Graph := (spilledAnd.add (.node (.and (.part 0) (.part 2)))).2

theorem isClosed_spilledAnd : (spilledCompiler.setting spilledAnd []).IsClosed where
  graph := by decide
  fields e he := nomatch he
  definitions name body h := by
    change List.lookup name [("both", Operand.part 2)] = some body at h
    rw [List.lookup_cons, List.lookup_nil] at h
    split at h
    · cases h
      decide
    · cases h

theorem spilledAnd_inlined :
    ∃ sql sql',
      spilledCompiler.compile spilledAnd "postgres" [] ⟨.part 4, .lit .null⟩ = .ok sql ∧
      spilledCompiler.compile spilledInlined "postgres" [] ⟨.part 5, .lit .null⟩ = .ok sql' ∧
      sql'.length = sql.length + 2 ∧ sql' ≠ sql := by
  have hstands : (spilledCompiler.setting spilledAnd []).Stands (.part 4) spilledFormula :=
    .join rfl (.atom rfl) (.named rfl (.join rfl (.atom rfl) (.atom rfl)))
  have hextends : spilledAnd.Extends spilledInlined := spilledAnd.extends_add _
  have hclosed : (spilledCompiler.setting spilledInlined []).IsClosed :=
    isClosed_spilledAnd.extend hextends (by decide)
  have hboth : (spilledCompiler.setting spilledInlined []).Inlines (.part 2) (.part 2) :=
    .join (k := .and) rfl rfl (.leaf rfl) (.leaf rfl)
  have hinlines : (spilledCompiler.setting spilledInlined []).Inlines (.part 4) (.part 5) :=
    .join (k := .and) rfl rfl (.leaf rfl) (.reference rfl rfl hboth)
  have htable : spilledCompiler.table = tableOperand none := rfl
  have hcompile : spilledCompiler.compile spilledAnd BuiltIn.postgres.name []
      ⟨.part 4, limitOperand none⟩ = _ := compile_spilledAnd
  obtain ⟨_, h⟩ := compile_inlined .postgres rfl htable none isClosed_spilledAnd (by decide)
    (by simp) hstands.not_reachesCycle
  rcases h _ _ hextends hclosed hinlines (by rw [hcompile]; exact Outcome.ok_ne_failed) with
    ⟨e, he, _⟩ | ⟨f, sql, sql', hf, hsql, hsql', hlength, heq⟩
  · rw [hcompile] at he
    cases he
  · obtain rfl := hf.unique hstands
    exact ⟨sql, sql', hsql, hsql', hlength, fun h => absurd (heq.1 h) (by decide)⟩

end Compiler

end FilterCompiler
