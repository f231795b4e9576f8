import FilterCompiler.Proofs.Locality

/-! Copies of what stands below an operand. In a graph one part may stand in many places; a copy
has the same tree below it, but its parts are others. Proved here: what has a well-founded tree
below it can be copied in such a way that no part stands in two places. -/

namespace FilterCompiler

/-! ### What a part is made of -/

namespace Node

/-- The arguments of a node that are copied with it. The number of a field and the name in a
reference are what the node says, not something of its own. -/
def children : Node → List Operand
  | field _ | reference _ => []
  | n => n.arguments

/-- A node with other children. -/
def refill : Node → List Operand → Node
  | and .., [l, r] => and l r
  | or .., [l, r] => or l r
  | not _, [x] => not x
  | lessThan .., [l, r] => lessThan l r
  | greaterThan .., [l, r] => greaterThan l r
  | equal .., [x, values] => equal x values
  | notEqual .., [x, values] => notEqual x values
  | isEmpty _, [x] => isEmpty x
  | notEmpty _, [x] => notEmpty x
  | custom kind tag named, xs => custom kind tag ((named.map Prod.fst).zip xs)
  | select _, [list, source, condition, limit] => select ⟨list, source, condition, limit⟩
  | n, _ => n

theorem children_refill {n : Node} {xs : List Operand} (h : xs.length = n.children.length) :
    (n.refill xs).children = xs := by
  cases n with
  | field number | reference name => obtain rfl := List.eq_nil_of_length_eq_zero h; rfl
  | not x | isEmpty x | notEmpty x =>
    obtain ⟨x', rfl⟩ := List.length_eq_one_iff.1 h
    rfl
  | custom kind tag named =>
    have hlength : xs.length ≤ (named.map Prod.fst).length := by
      simpa [children, arguments] using Nat.le_of_eq h
    exact List.map_snd_zip hlength
  | select q =>
    obtain ⟨_, ys, rfl⟩ := List.exists_cons_of_length_eq_add_one h
    obtain ⟨_, _, _, rfl⟩ := List.length_eq_three.1 (Nat.succ.inj h)
    rfl
  | _ =>
    obtain ⟨l, r, rfl⟩ := List.length_eq_two.1 h
    rfl

theorem kind_refill (n : Node) (xs : List Operand) : (n.refill xs).kind = n.kind := by
  unfold refill
  split <;> rfl

theorem isJunction_refill (n : Node) (xs : List Operand) :
    (n.refill xs).isJunction = n.isJunction := by
  unfold refill
  split <;> rfl

theorem refill_eq_field_iff (n : Node) {xs : List Operand} {number : Operand} :
    n.refill xs = field number ↔ n = field number := by
  unfold refill
  split <;> simp

theorem refill_children (n : Node) : n.refill n.children = n := by
  cases n with
  | custom kind tag named =>
    exact congrArg (custom kind tag) (List.zip_of_prod rfl rfl).symm
  | _ => rfl

/-- A node with other children has them as arguments, or it has none and stays as it is. -/
theorem children_refill_eq (n : Node) (xs : List Operand) :
    (n.refill xs).children = (n.refill xs).arguments ∨ n.refill xs = n := by
  unfold refill
  split
  case h_12 => exact .inr rfl
  all_goals exact .inl rfl

end Node

namespace Part

def children : Part → List Operand
  | .node n => n.children
  | p => p.operands

/-- A part with other children. -/
def refill : Part → List Operand → Part
  | .node n, xs => .node (n.refill xs)
  | .list _, xs => .list xs
  | .tuple _, xs => .tuple xs
  | .set _, xs => .set xs
  | .record entries, xs => .record ((xs.take entries.length).zip (xs.drop entries.length))
  | .ordered entries, xs => .ordered ((xs.take entries.length).zip (xs.drop entries.length))

variable {p : Part} {xs : List Operand}

theorem children_refill (h : xs.length = p.children.length) : (p.refill xs).children = xs := by
  have hentries {entries : List (Operand × Operand)}
      (h : xs.length = (entries.map Prod.fst ++ entries.map Prod.snd).length) :
      ((xs.take entries.length).zip (xs.drop entries.length)).map Prod.fst ++
        ((xs.take entries.length).zip (xs.drop entries.length)).map Prod.snd = xs := by
    simp only [List.length_append, List.length_map] at h
    rw [List.map_fst_zip (by simp; omega), List.map_snd_zip (by simp; omega),
      List.take_append_drop]
  cases p with
  | node n => exact Node.children_refill h
  | list items | tuple items | set items => rfl
  | record entries | ordered entries => exact hentries h

theorem refill_children (p : Part) : p.refill p.children = p := by
  have hentries (entries : List (Operand × Operand)) :
      ((entries.map Prod.fst ++ entries.map Prod.snd).take entries.length).zip
        ((entries.map Prod.fst ++ entries.map Prod.snd).drop entries.length) = entries := by
    rw [List.take_left' (by simp), List.drop_left' (by simp)]
    exact (List.zip_of_prod rfl rfl).symm
  cases p with
  | node n => exact congrArg Part.node n.refill_children
  | list items | tuple items | set items => rfl
  | record entries => exact congrArg Part.record (hentries entries)
  | ordered entries => exact congrArg Part.ordered (hentries entries)

theorem mem_operands_refill {y : Operand} (h : xs.length = p.children.length)
    (hy : y ∈ (p.refill xs).operands) : y ∈ xs ∨ y ∈ p.operands := by
  have heq : (p.refill xs).children = (p.refill xs).operands ∨ p.refill xs = p := by
    cases p with
    | node n =>
      exact (n.children_refill_eq xs).imp_right (congrArg Part.node)
    | _ => exact .inl rfl
  rcases heq with heq | heq
  · rw [← heq, children_refill h] at hy
    exact .inl hy
  · rw [heq] at hy
    exact .inr hy

theorem children_subset (p : Part) : p.children ⊆ p.operands := by
  cases p with
  | node n => cases n <;> simp [children, Node.children, operands]
  | _ => exact List.Subset.refl _

end Part

/-! ### What stands below an operand -/

namespace Graph

variable {g G G' : Graph} {x x' y : Operand} {xs xs' : List Operand} {place : List Nat} {n : Nat}

def children (g : Graph) (x : Operand) : List Operand :=
  match g.part? x with
  | some p => p.children
  | none => []

/-- From a part to one of those that are copied with it. -/
def Child (g : Graph) (x y : Operand) : Prop := y ∈ g.children x

/-- A part stands among operands or somewhere below them: its place leads to it from child to
child. -/
inductive Occurs (g : Graph) : List Operand → List Nat → Nat → Prop where
  | here {xs : List Operand} {i n : Nat} (item : xs[i]? = some (.part n)) : Occurs g xs [i] n
  | inside {xs : List Operand} {i : Nat} {x : Operand} {place : List Nat} {n : Nat}
      (item : xs[i]? = some x) (deeper : Occurs g (g.children x) place n) :
      Occurs g xs (i :: place) n

/-- Each place among operands and below them has a part of its own, and one that is new. -/
structure IsFresh (g G : Graph) (xs : List Operand) : Prop where
  new : ∀ place n, G.Occurs xs place n → ¬ g.Has (.part n)
  apart : ∀ place place' n, G.Occurs xs place n → G.Occurs xs place' n → place = place'

/-- An operand of one graph and one of another with the same tree below them: parts of one kind
that say the same stand in the same places. -/
inductive Copies (g G : Graph) : Operand → Operand → Prop where
  | lit (v : Literal) : Copies g G (.lit v) (.lit v)
  | part {n n' : Nat} {p : Part} {xs : List Operand} (original : g.get? n = some p)
      (copy : G.get? n' = some (p.refill xs)) (length : xs.length = p.children.length)
      (children : ∀ e ∈ p.children.zip xs, Copies g G e.1 e.2) : Copies g G (.part n) (.part n')

theorem has_of_get? {p : Part} (h : g.get? n = some p) : g.Has (.part n) := by
  rw [get?, Array.getElem?_eq_some_iff] at h
  exact h.1

theorem IsClosed.has_of_mem_children (hg : g.IsClosed) (hx : g.Has x) (hy : y ∈ g.children x) :
    g.Has y := by
  unfold children at hy
  split at hy
  · next p hp => exact hg.part hx hp y (p.children_subset hy)
  · cases hy

theorem Extends.children_eq (h : g.Extends G) (hx : g.Has x) : G.children x = g.children x := by
  rw [children, children, h.part?_eq hx]

theorem Occurs.has (h : g.Occurs xs place n) (hg : g.IsClosed) (hxs : ∀ x ∈ xs, g.Has x) :
    g.Has (.part n) := by
  induction h with
  | here item => exact hxs _ (List.mem_of_getElem? item)
  | inside item _ ih =>
    exact ih fun y hy => hg.has_of_mem_children (hxs _ (List.mem_of_getElem? item)) hy

/-- Below operands of a graph stands nothing more in a larger graph. -/
theorem Occurs.restrict (h : G.Occurs xs place n) (hg : g.IsClosed) (hG : g.Extends G)
    (hxs : ∀ x ∈ xs, g.Has x) : g.Occurs xs place n := by
  induction h with
  | here item => exact .here item
  | inside item _ ih =>
    have hx := hxs _ (List.mem_of_getElem? item)
    rw [hG.children_eq hx] at ih
    exact .inside item (ih fun y hy => hg.has_of_mem_children hx hy)

theorem Copies.extend (h : g.Copies G x x') (hG : G.Extends G') : g.Copies G' x x' := by
  induction h with
  | lit v => exact .lit v
  | part original copy length _ ih => exact .part original (hG _ _ copy) length ih

theorem Copies.forall₂ (h : g.Copies G x x') :
    List.Forall₂ (g.Copies G) (g.children x) (G.children x') := by
  cases h with
  | lit v => exact .nil
  | part original copy length copied =>
    simp only [children, part?, original, copy, Part.children_refill length]
    exact List.forall₂_iff_zip.2 ⟨length.symm, fun h => copied _ h⟩

/-! ### Making a copy -/

/-- Some operands have been copied into the second of two graphs to give a third one. -/
structure IsCopied (g G G' : Graph) (xs xs' : List Operand) : Prop where
  larger : G.Extends G'
  closed : G'.IsClosed
  has : ∀ x ∈ xs', G'.Has x
  copies : List.Forall₂ (g.Copies G') xs xs'
  fresh : G.IsFresh G' xs'

namespace IsCopied

theorem nil (hG : G.IsClosed) : IsCopied g G G [] [] where
  larger := .refl G
  closed := hG
  has := by simp
  copies := .nil
  fresh := { new := by rintro _ _ (h | h) <;> cases h
             apart := by rintro _ _ _ (h | h) <;> cases h }

theorem lit (v : Literal) (hG : G.IsClosed) : IsCopied g G G [.lit v] [.lit v] := by
  have hnone {place : List Nat} {n : Nat} (h : G.Occurs [.lit v] place n) : False := by
    rcases h with @⟨_, i, _, item⟩ | @⟨_, i, y, _, _, item, deeper⟩ <;>
      obtain ⟨hi, hitem⟩ := List.getElem?_eq_some_iff.1 item <;>
      obtain rfl : i = 0 := by simpa using hi
    · cases hitem
    · obtain rfl : Operand.lit v = y := hitem
      rcases deeper with item | item <;> cases item
  exact ⟨.refl G, hG, by simp [Has], .cons (.lit v) .nil, fun _ _ h => (hnone h).elim,
    fun _ _ _ h => (hnone h).elim⟩

/-- Copies made one after the other have nothing in common. -/
theorem cons (h : IsCopied g G G' [x] [x']) {G'' : Graph} (h' : IsCopied g G' G'' xs xs') :
    IsCopied g G G'' (x :: xs) (x' :: xs') := by
  have hhead {place : List Nat} {n : Nat} (hn : G''.Occurs (x' :: xs') (0 :: place) n) :
      G'.Occurs [x'] (0 :: place) n := by
    refine Occurs.restrict ?_ h.closed h'.larger h.has
    cases hn with
    | here item => exact .here item
    | inside item deeper => exact .inside item deeper
  have htail {i : Nat} {place : List Nat} {n : Nat}
      (hn : G''.Occurs (x' :: xs') ((i + 1) :: place) n) : G''.Occurs xs' (i :: place) n := by
    cases hn with
    | here item => exact .here item
    | inside item deeper => exact .inside item deeper
  have happart {i : Nat} {place place' : List Nat} {n : Nat}
      (hn : G''.Occurs (x' :: xs') (0 :: place) n)
      (hn' : G''.Occurs (x' :: xs') ((i + 1) :: place') n) : False :=
    h'.fresh.new _ _ (htail hn') ((hhead hn).has h.closed h.has)
  refine ⟨h.larger.trans h'.larger, h'.closed, ?_, ?_, ?_, ?_⟩
  · exact List.forall_mem_cons.2 ⟨h'.larger.has (h.has x' (by simp)), h'.has⟩
  · obtain ⟨hx, _⟩ := List.forall₂_cons.1 h.copies
    exact .cons (hx.extend h'.larger) h'.copies
  · rintro (_ | ⟨_ | i, place⟩) n hn
    · cases hn
    · exact h.fresh.new _ _ (hhead hn)
    · exact fun hold => h'.fresh.new _ _ (htail hn) (h.larger.has hold)
  · rintro (_ | ⟨_ | i, place⟩) (_ | ⟨_ | j, place'⟩) n hn hn'
    any_goals cases hn <;> done
    any_goals cases hn' <;> done
    · exact h.fresh.apart _ _ _ (hhead hn) (hhead hn')
    · exact (happart hn hn').elim
    · exact (happart hn' hn).elim
    · have hplace := h'.fresh.apart _ _ _ (htail hn) (htail hn')
      simp only [List.cons.injEq] at hplace ⊢
      exact ⟨by omega, hplace.2⟩

/-- A new part around copies of the children of a part is a copy of that part. -/
theorem add {p : Part} (hp : g.get? n = some p) (hg : g.IsClosed) (hG : g.Extends G)
    (h : IsCopied g G G' p.children xs') :
    IsCopied g G (G'.add (p.refill xs')).2 [.part n] [(G'.add (p.refill xs')).1] := by
  have hlength : xs'.length = p.children.length := h.copies.length_eq.symm
  have hadd := G'.extends_add (p.refill xs')
  have hget : (G'.add (p.refill xs')).2.get? G'.parts.size = some (p.refill xs') := by
    rw [get?_add, if_pos rfl]
  have hchildren : (G'.add (p.refill xs')).2.children (.part G'.parts.size) = xs' := by
    simp only [children, part?, hget, Part.children_refill hlength]
  have hoperands : ∀ y ∈ (p.refill xs').operands, G'.Has y := by
    intro y hy
    rcases Part.mem_operands_refill hlength hy with hy | hy
    · exact h.has y hy
    · exact h.larger.has (hG.has (hg n p hp y hy))
  -- what stands at the new part itself, and what stands below it
  have hplaces {place : List Nat} {m : Nat}
      (hm : (G'.add (p.refill xs')).2.Occurs [.part G'.parts.size] place m) :
      (place = [0] ∧ m = G'.parts.size) ∨
        ∃ deeper, place = 0 :: deeper ∧ G'.Occurs xs' deeper m := by
    rcases hm with @⟨_, i, _, item⟩ | @⟨_, i, y, deeper, _, item, hm⟩ <;>
      obtain ⟨hi, hitem⟩ := List.getElem?_eq_some_iff.1 item <;>
      obtain rfl : i = 0 := by simpa using hi
    · exact .inl ⟨rfl, (Operand.part.inj hitem).symm⟩
    · obtain rfl : Operand.part G'.parts.size = y := hitem
      rw [hchildren] at hm
      exact .inr ⟨deeper, rfl, hm.restrict h.closed hadd h.has⟩
  have hlt {place : List Nat} {m : Nat} (hm : G'.Occurs xs' place m) : m < G'.parts.size :=
    hm.has h.closed h.has
  refine ⟨h.larger.trans hadd, h.closed.add hoperands, ?_, ?_, ?_, ?_⟩
  · simpa using G'.has_add _
  · refine .cons (.part hp hget hlength fun e he => ?_) .nil
    exact ((List.forall₂_iff_zip.1 h.copies).2 he).extend hadd
  · intro place m hm
    rcases hplaces hm with ⟨_, rfl⟩ | ⟨deeper, _, hm⟩
    · exact fun hold => absurd (h.larger.has hold) (Nat.lt_irrefl _)
    · exact h.fresh.new deeper m hm
  · intro place place' m hm hm'
    rcases hplaces hm with ⟨rfl, rfl⟩ | ⟨deeper, rfl, hdeeper⟩ <;>
      rcases hplaces hm' with ⟨rfl, hroot⟩ | ⟨deeper', rfl, hdeeper'⟩
    · rfl
    · exact absurd (hlt hdeeper') (Nat.lt_irrefl _)
    · exact absurd (hroot ▸ hlt hdeeper) (Nat.lt_irrefl _)
    · rw [h.fresh.apart _ _ _ hdeeper hdeeper']

end IsCopied

theorem exists_isCopied_all (hG : g.Extends G) (hclosed : G.IsClosed)
    (h : ∀ x ∈ xs, ∀ G, g.Extends G → G.IsClosed → ∃ G' x', IsCopied g G G' [x] [x']) :
    ∃ G' xs', IsCopied g G G' xs xs' := by
  induction xs generalizing G with
  | nil => exact ⟨G, [], .nil hclosed⟩
  | cons x rest ih =>
    rw [List.forall_mem_cons] at h
    obtain ⟨G₁, x', hx⟩ := h.1 G hG hclosed
    obtain ⟨G₂, rest', hrest⟩ := ih (hG.trans hx.larger) hx.closed h.2
    exact ⟨G₂, x' :: rest', hx.cons hrest⟩

/-- What has a well-founded tree below it can be copied. -/
theorem exists_isCopied (hg : g.IsClosed) (hacc : Acc (flip g.Child) x) (hx : g.Has x)
    (hG : g.Extends G) (hclosed : G.IsClosed) : ∃ G' x', IsCopied g G G' [x] [x'] := by
  induction hacc generalizing G with
  | intro x _ ih =>
    cases x with
    | lit v =>
      exact ⟨G, .lit v, .lit v hclosed⟩
    | part n =>
      have hp : g.get? n = some g.parts[n] := Array.getElem?_eq_getElem hx
      have hchildren : g.children (.part n) = g.parts[n].children := by
        simp only [children, part?, hp]
      have hbelow : ∀ y ∈ g.parts[n].children, ∀ G, g.Extends G → G.IsClosed →
          ∃ G' y', IsCopied g G G' [y] [y'] := by
        intro y hy G hG hclosed
        rw [← hchildren] at hy
        exact ih y hy (hg.has_of_mem_children hx hy) hG hclosed
      obtain ⟨G', xs', hcopied⟩ := exists_isCopied_all hG hclosed hbelow
      exact ⟨_, _, hcopied.add hp hg hG⟩

end Graph

end FilterCompiler
