import FilterCompiler.DefinitionFile.Shape
import FilterCompiler.Proofs.Locality
import Mathlib.Logic.Relation

/-! The shape of data. Nested data unfold to a tree of their elements, a part that stands in several
places to several subtrees, unless they hold themselves. Proved here: the check of a shape finds
just what is wrong with that tree, and refuses whatever has none. What markup gives is data of a
kind of its own, in which tuples stand in few places; the check does not look into these. -/

namespace FilterCompiler

/-! ### Trees of elements -/

/-- The elements of nested data: something that holds no further ones, or a collection. -/
inductive Tree where
  | scalar
  | collection (branches : List Tree)

namespace Tree

/-- The elements right below the root. -/
def branches : Tree → List Tree
  | scalar => []
  | collection ts => ts

mutual

/-- How many elements there are, the root counted. -/
def size : Tree → Nat
  | scalar => 1
  | collection ts => sizeAll ts + 1

def sizeAll : List Tree → Nat
  | [] => 0
  | t :: ts => t.size + sizeAll ts

end

mutual

/-- How far the deepest element lies below the root. -/
def height : Tree → Nat
  | scalar => 0
  | collection ts => heightAll ts

def heightAll : List Tree → Nat
  | [] => 0
  | t :: ts => max (t.height + 1) (heightAll ts)

end

theorem sizeAll_append (ts us : List Tree) : sizeAll (ts ++ us) = sizeAll ts + sizeAll us := by
  induction ts with
  | nil => simp [sizeAll]
  | cons t ts ih => rw [List.cons_append, sizeAll, sizeAll, ih, Nat.add_assoc]

theorem sizeAll_reverse (ts : List Tree) : sizeAll ts.reverse = sizeAll ts := by
  induction ts with
  | nil => rfl
  | cons t ts ih =>
    rw [List.reverse_cons, sizeAll_append, ih, sizeAll, sizeAll, sizeAll]
    omega

theorem size_eq (t : Tree) : t.size = sizeAll t.branches + 1 := by
  cases t with
  | scalar => rfl
  | collection ts => rw [size, branches]

theorem heightAll_le_iff {ts : List Tree} {n : Nat} :
    heightAll ts ≤ n ↔ ∀ t ∈ ts, t.height < n := by
  induction ts with
  | nil => simp [heightAll]
  | cons t ts ih => rw [heightAll, Nat.max_le, ih, List.forall_mem_cons, Nat.succ_le_iff]

/-- A tree is as high as what stands below its root needs it to be. -/
theorem height_le_iff {t : Tree} {n : Nat} : t.height ≤ n ↔ ∀ u ∈ t.branches, u.height < n := by
  cases t with
  | scalar => simp [height, branches]
  | collection ts => exact heightAll_le_iff

end Tree

namespace Graph

/-- What a list or record holds: its items, or its values without the keys. -/
def inner? (g : Graph) (x : Operand) : Option (List Operand) :=
  match g.part? x with
  | some (.list items) => some items
  | some (.record entries) | some (.ordered entries) => some (entries.map Prod.snd)
  | _ => none

/-- One operand holds another one. -/
def Inner (g : Graph) (x y : Operand) : Prop := ∃ ys, g.inner? x = some ys ∧ y ∈ ys

mutual

/-- Data unfold to a tree. -/
def Unfolds (g : Graph) : Operand → Tree → Prop
  | x, .scalar => g.inner? x = none
  | x, .collection ts => ∃ ys, g.inner? x = some ys ∧ UnfoldAll g ys ts

def UnfoldAll (g : Graph) : List Operand → List Tree → Prop
  | [], [] => True
  | y :: ys, t :: ts => g.Unfolds y t ∧ UnfoldAll g ys ts
  | _, _ => False

end

variable {g G : Graph} {x y : Operand} {t : Tree}

theorem unfoldAll_iff {ys : List Operand} {ts : List Tree} :
    g.UnfoldAll ys ts ↔ List.Forall₂ g.Unfolds ys ts := by
  induction ys generalizing ts with
  | nil => cases ts <;> simp [UnfoldAll]
  | cons y ys ih => cases ts <;> simp [UnfoldAll, ih]

theorem children_eq (g : Graph) (x : Operand) :
    DefinitionFile.children g x = (g.inner? x).getD [] := by
  unfold DefinitionFile.children inner?
  cases g.part? x with
  | none => rfl
  | some p => cases p <;> rfl

/-- What an operand holds unfolds to what stands below the root of its tree. -/
theorem unfolds_iff : g.Unfolds x t ↔ (t = .scalar ↔ g.inner? x = none) ∧
    List.Forall₂ g.Unfolds (DefinitionFile.children g x) t.branches := by
  rw [children_eq]
  cases t with
  | scalar => simp +contextual [Unfolds, Tree.branches]
  | collection ts =>
    simp only [Unfolds, unfoldAll_iff, Tree.branches]
    cases g.inner? x <;> simp

theorem inner_iff : g.Inner x y ↔ y ∈ DefinitionFile.children g x := by
  rw [children_eq, Inner]
  cases g.inner? x <;> simp

theorem Unfolds.exists_inner (h : g.Unfolds x t) (hy : g.Inner x y) :
    ∃ u ∈ t.branches, g.Unfolds y u :=
  exists_of_forall₂ (unfolds_iff.1 h).2 (inner_iff.1 hy)

/-- An operand has a tree if all that it holds have one. -/
theorem exists_unfolds (h : ∀ y, g.Inner x y → ∃ t, g.Unfolds y t) : ∃ t, g.Unfolds x t := by
  cases hx : g.inner? x with
  | none => exact ⟨.scalar, by rw [Unfolds, hx]⟩
  | some ys =>
    have htrees (ys : List Operand) (h : ∀ y ∈ ys, ∃ t, g.Unfolds y t) :
        ∃ ts, List.Forall₂ g.Unfolds ys ts := by
      induction ys with
      | nil => exact ⟨[], .nil⟩
      | cons y ys ih =>
        rw [List.forall_mem_cons] at h
        obtain ⟨t, ht⟩ := h.1
        obtain ⟨ts, hts⟩ := ih h.2
        exact ⟨t :: ts, .cons ht hts⟩
    obtain ⟨ts, hts⟩ := htrees ys fun y hy => h y ⟨ys, hx, hy⟩
    exact ⟨.collection ts, by rw [Unfolds]; exact ⟨ys, hx, unfoldAll_iff.2 hts⟩⟩

/-- What has a tree holds others for a while only. -/
theorem Unfolds.acc (h : g.Unfolds x t) : Acc (flip g.Inner) x := by
  induction hn : t.height using Nat.strongRecOn generalizing x t with
  | _ n ih =>
    refine .intro x fun y hy => ?_
    obtain ⟨u, hu, hunfolds⟩ := h.exists_inner hy
    exact ih u.height (hn ▸ Tree.height_le_iff.1 (Nat.le_refl _) u hu) hunfolds rfl

/-- What leads to something that holds itself has no tree. -/
theorem not_unfolds_of_transGen (hxy : Relation.ReflTransGen g.Inner x y)
    (hy : Relation.TransGen g.Inner y y) (t : Tree) : ¬ g.Unfolds x t := fun h =>
  not_transGen_self_of_acc (acc_of_reflTransGen h.acc hxy) hy

end Graph

namespace DefinitionFile

/-! ### Counting -/

variable {g : Graph} {stack : List (Operand × Nat)} {ts : List (Tree × Nat)} {allowance : Nat}

/-- Each element that is still to be counted has a tree, which begins at its depth. -/
def Unfold (g : Graph) : List (Operand × Nat) → List (Tree × Nat) → Prop :=
  List.Forall₂ fun e t => g.Unfolds e.1 t.1 ∧ e.2 = t.2

/-- How many elements trees have together. -/
def count (ts : List (Tree × Nat)) : Nat := Tree.sizeAll (ts.map Prod.fst)

/-- No element lies too deep. -/
def Fits (ts : List (Tree × Nat)) : Prop := ∀ t ∈ ts, t.2 + t.1.height ≤ depthLimit

/-- The trees that are left once the root of the first one has been counted. -/
def afterRoot (t : Tree) (depth : Nat) (ts : List (Tree × Nat)) : List (Tree × Nat) :=
  (t.branches.map fun u => (u, depth + 1)).reverse ++ ts

theorem count_afterRoot (t : Tree) (depth : Nat) (ts : List (Tree × Nat)) :
    count (afterRoot t depth ts) + 1 = count ((t, depth) :: ts) := by
  have hbelow : (t.branches.map fun u => (u, depth + 1)).map Prod.fst = t.branches := by
    rw [List.map_map]
    exact List.map_id _
  rw [count, afterRoot, List.map_append, List.map_reverse, hbelow, Tree.sizeAll_append,
    Tree.sizeAll_reverse, count, List.map_cons, Tree.sizeAll, t.size_eq]
  omega

theorem fits_afterRoot {t : Tree} {depth : Nat} (hdepth : depth ≤ depthLimit) :
    Fits (afterRoot t depth ts) ↔ Fits ((t, depth) :: ts) := by
  have hroot : depth + t.height ≤ depthLimit ↔
      ∀ u ∈ t.branches, depth + 1 + u.height ≤ depthLimit := by
    rw [show depth + t.height ≤ depthLimit ↔ t.height ≤ depthLimit - depth by omega,
      Tree.height_le_iff]
    exact forall₂_congr fun u _ => by omega
  simp only [Fits, afterRoot, List.mem_append, List.mem_reverse, List.mem_map, List.mem_cons,
    forall_eq_or_imp, hroot]
  constructor
  · exact fun h => ⟨fun u hu => h _ (.inl ⟨u, hu, rfl⟩), fun u hu => h u (.inr hu)⟩
  · rintro ⟨h, hrest⟩ u (⟨v, hv, rfl⟩ | hu)
    · exact h v hv
    · exact hrest u hu

/-- Counting a root leaves its children to be counted, one level deeper. -/
theorem Unfold.afterRoot {x : Operand} {t : Tree} {depth : Nat} (hx : g.Unfolds x t)
    (h : Unfold g stack ts) :
    Unfold g (((children g x).map fun y => (y, depth + 1)).reverse ++ stack)
      (afterRoot t depth ts) := by
  have hbelow := (Graph.unfolds_iff.1 hx).2
  refine List.rel_append (List.rel_reverse ?_) h
  exact List.forall₂_map_left_iff.2
    (List.forall₂_map_right_iff.2 (hbelow.imp fun _ _ hu => ⟨hu, rfl⟩))

/-- Counting comes to its end, or to one of the two limits. -/
theorem measure_cases (allowance : Nat) (h : Unfold g stack ts) :
    (measure g allowance stack = .ok () ∧ count ts ≤ allowance ∧ Fits ts) ∨
    (measure g allowance stack = .error .tooMany ∧ allowance < count ts) ∨
    (measure g allowance stack = .error .tooDeep ∧ ¬ Fits ts) := by
  induction allowance generalizing stack ts with
  | zero =>
    cases h with
    | nil => exact .inl ⟨rfl, Nat.le_refl _, by simp [Fits]⟩
    | @cons e t stack ts ht h =>
      obtain ⟨t, depth⟩ := t
      have hcount := count_afterRoot t depth ts
      exact .inr (.inl ⟨rfl, by omega⟩)
  | succ allowance ih =>
    cases h with
    | nil => exact .inl ⟨rfl, Nat.zero_le _, by simp [Fits]⟩
    | @cons e t stack ts ht h =>
      obtain ⟨x, depth⟩ := e
      obtain ⟨t, _⟩ := t
      obtain ⟨hx : g.Unfolds x t, rfl : depth = _⟩ := ht
      rw [measure]
      by_cases hdeep : depthLimit < depth
      · rw [if_pos hdeep]
        refine .inr (.inr ⟨rfl, fun hfits => ?_⟩)
        have := hfits _ (List.mem_cons_self)
        omega
      · have hcount := count_afterRoot t depth ts
        rw [if_neg hdeep, ← fits_afterRoot (Nat.not_lt.1 hdeep)]
        refine (ih (Unfold.afterRoot hx h)).imp ?_ (.imp_left ?_)
        · exact fun ⟨hrun, hle, hfits⟩ => ⟨hrun, by omega, hfits⟩
        · exact fun ⟨hrun, hlt⟩ => ⟨hrun, by omega⟩

/-- What is counted to the end has trees. -/
theorem exists_unfolds_of_measure (h : measure g allowance stack = .ok ()) :
    ∀ e ∈ stack, ∃ t, g.Unfolds e.1 t := by
  induction allowance generalizing stack with
  | zero =>
    cases stack with
    | nil => simp
    | cons e stack => cases h
  | succ allowance ih =>
    cases stack with
    | nil => simp
    | cons e stack =>
      obtain ⟨x, depth⟩ := e
      rw [measure] at h
      split at h
      · cases h
      · have htrees := ih h
        refine List.forall_mem_cons.2 ⟨Graph.exists_unfolds fun y hy => ?_, fun e he => ?_⟩
        · exact htrees (y, depth + 1) (by simp [Graph.inner_iff.1 hy])
        · exact htrees e (by simp [he])

/-- The check of data that have a tree finds just what is wrong with it. -/
theorem checkShape_cases {x : Operand} {t : Tree} (h : g.Unfolds x t) :
    (checkShape g x = .ok () ∧ t.size ≤ countLimit ∧ t.height ≤ depthLimit) ∨
    (checkShape g x = .error .tooMany ∧ countLimit < t.size) ∨
    (checkShape g x = .error .tooDeep ∧ depthLimit < t.height) := by
  have hunfold : Unfold g [(x, 0)] [(t, 0)] := .cons ⟨h, rfl⟩ .nil
  have hcases := measure_cases countLimit hunfold
  simpa [checkShape, count, Fits, Tree.sizeAll] using hcases

theorem exists_unfolds_of_checkShape {x : Operand} (h : checkShape g x = .ok ()) :
    ∃ t, g.Unfolds x t ∧ t.size ≤ countLimit ∧ t.height ≤ depthLimit := by
  obtain ⟨t, ht⟩ := exists_unfolds_of_measure h (x, 0) (by simp)
  rcases checkShape_cases ht with ⟨_, hle⟩ | ⟨hrun, _⟩ | ⟨hrun, _⟩
  · exact ⟨t, ht, hle⟩
  · cases h.symm.trans hrun
  · cases h.symm.trans hrun

/-- Only the two limits are checked. -/
theorem measure_eq_error {p : Problem} (h : measure g allowance stack = .error p) :
    p = .tooMany ∨ p = .tooDeep := by
  induction allowance generalizing stack with
  | zero =>
    cases stack with
    | nil => cases h
    | cons e stack =>
      cases h
      exact .inl rfl
  | succ allowance ih =>
    cases stack with
    | nil => cases h
    | cons e stack =>
      obtain ⟨x, depth⟩ := e
      rw [measure] at h
      split at h
      · cases h
        exact .inr rfl
      · exact ih h

end DefinitionFile

/-! ### Data of markup -/

namespace Graph

/-- An operand is a tuple. -/
def IsTuple (g : Graph) (x : Operand) : Prop := ∃ items, g.part? x = some (.tuple items)

/-- Data as markup gives them: nothing in them is missing, and a tuple stands only in a list that
begins with one. That the reader gives such data is `Markup.Reader.read_isData`. -/
structure IsData (g : Graph) (x : Operand) : Prop where
  closed : g.IsClosed
  has : g.Has x
  tuples : ∀ y z, Relation.ReflTransGen g.Inner x y → g.Inner y z → g.IsTuple z →
    ∃ first rest, g.part? y = some (.list (first :: rest)) ∧ g.IsTuple first

variable {g : Graph} {x y : Operand}

theorem IsClosed.inner (hg : g.IsClosed) (hx : g.Has x) (h : g.Inner x y) : g.Has y := by
  obtain ⟨ys, hys, hy⟩ := h
  unfold inner? at hys
  split at hys
  · next hp =>
    cases hys
    exact hg.part hx hp y hy
  · next hp =>
    cases hys
    exact hg.part hx hp y (List.mem_append_right _ hy)
  · next hp =>
    cases hys
    exact hg.part hx hp y (List.mem_append_right _ hy)
  · cases hys

/-- Without tuples nothing has to be known of where they stand. -/
theorem IsData.of_no_tuple (hg : g.IsClosed) (hx : g.Has x)
    (h : ∀ p ∈ g.parts.toList, ∀ items, p ≠ .tuple items) : g.IsData x where
  closed := hg
  has := hx
  tuples := by
    rintro y (v | n) _ _ ⟨items, hitems⟩
    · cases hitems
    · exact absurd rfl (h _ (Array.mem_toList_iff.2 (Array.mem_of_getElem? hitems)) items)

theorem IsData.has_of_reaches (h : g.IsData x) (hy : Relation.ReflTransGen g.Inner x y) :
    g.Has y := by
  induction hy with
  | refl => exact h.has
  | tail _ hyz ih => exact h.closed.inner ih hyz

/-- A row that is no tuple and begins with a text holds its arguments, none of which is a tuple. -/
theorem IsData.arguments (h : g.IsData x) (hy : Relation.ReflTransGen g.Inner x y)
    (hrow : ¬ g.IsTuple y) {tag : String} {arguments : List Operand}
    (items : g.items? y = some (.lit (.text tag) :: arguments)) {z : Operand}
    (hz : z ∈ arguments) : g.Inner y z ∧ ¬ g.IsTuple z := by
  have hlist : g.part? y = some (.list (.lit (.text tag) :: arguments)) := by
    unfold items? at items
    split at items
    · next hp => rw [hp, Option.some.inj items]
    · next hp => exact absurd ⟨_, hp⟩ hrow
    · cases items
  have hinner : g.Inner y z :=
    ⟨.lit (.text tag) :: arguments, by simp [inner?, hlist], List.mem_cons_of_mem _ hz⟩
  refine ⟨hinner, fun htuple => ?_⟩
  obtain ⟨first, rest, hfirst, _, hpart⟩ := h.tuples y z hy hinner htuple
  cases hlist.symm.trans hfirst
  cases hpart

/-- The values of a record are no tuples. -/
theorem IsData.not_isTuple_of_entries (h : g.IsData x) {rows : List (Operand × Operand)}
    (hrows : g.entries? x = some rows) {row : Operand × Operand} (hrow : row ∈ rows) :
    g.Inner x row.2 ∧ ¬ g.IsTuple row.2 := by
  have hpart : ∃ p, g.part? x = some p ∧ (p = .record rows ∨ p = .ordered rows) := by
    unfold entries? at hrows
    split at hrows
    · next hp => exact ⟨_, hp, .inl (by rw [Option.some.inj hrows])⟩
    · next hp => exact ⟨_, hp, .inr (by rw [Option.some.inj hrows])⟩
    · cases hrows
  obtain ⟨p, hp, hpart⟩ := hpart
  have hinner : g.Inner x row.2 := by
    refine ⟨rows.map Prod.snd, ?_, List.mem_map_of_mem hrow⟩
    rcases hpart with rfl | rfl <;> simp [inner?, hp]
  refine ⟨hinner, fun htuple => ?_⟩
  obtain ⟨first, rest, hfirst, _⟩ := h.tuples x row.2 .refl hinner htuple
  rw [hp] at hfirst
  rcases hpart with rfl | rfl <;> cases hfirst

end Graph

end FilterCompiler
