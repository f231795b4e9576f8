import FilterCompiler.Proofs.PlainReading

/-! Sharing is read as sharing. In a raw form some rows are read as conditions, and a row may stand
in many places. Proved here, for readings without custom tags and whatever stands in what: a raw
form is read as a plain reader would read it, conditions are read in the same places as they stand
in, two of them are one node exactly if their rows are one, and each field that stands as a value is
a node of its own. -/

namespace FilterCompiler

open RawForm (Head Memory Reading)

/-! ### What stands where -/

/-- The operand at a place below another one, each number on the way leading to one of those right
below. -/
def reach? (below : Operand → Option (List Operand)) : List Nat → Operand → Option Operand
  | [], x => some x
  | i :: place, x => (below x).bind fun ys => ys[i]?.bind (reach? below place)

namespace RawForm.Head

/-- The arguments behind a tag that are conditions. -/
def conditions (arguments : List Operand) : Head → List Operand
  | join _ | not => arguments
  | _ => []

/-- The arguments behind a tag that are values. -/
def values (arguments : List Operand) : Head → List Operand
  | ordering _ | equality _ | nullCheck _ => arguments
  | _ => []

end RawForm.Head

namespace Node

/-- The arguments of a node that are conditions. -/
def conditions : Node → List Operand
  | .and l r | .or l r => [l, r]
  | .not y => [y]
  | _ => []

/-- The values that a node is made of; what something is compared with is taken one by one. -/
def values? (g : Graph) : Node → Option (List Operand)
  | .lessThan l r | .greaterThan l r => some [l, r]
  | .equal y values | .notEqual y values => (g.items? values).map (y :: ·)
  | .isEmpty y | .notEmpty y => some [y]
  | _ => some []

variable (g : Graph) (k : Connective) (choice : Bool) (x y : Operand)

@[simp] theorem conditions_join : (k.node x y).conditions = [x, y] := by cases k <;> rfl

@[simp] theorem conditions_ordering : (ordering choice x y).conditions = [] := by
  cases choice <;> rfl

@[simp] theorem conditions_equality : (equality choice x y).conditions = [] := by
  cases choice <;> rfl

@[simp] theorem conditions_nullCheck : (nullCheck choice x).conditions = [] := by
  cases choice <;> rfl

@[simp] theorem values?_join : (k.node x y).values? g = some [] := by cases k <;> rfl

@[simp] theorem values?_ordering : (ordering choice x y).values? g = some [x, y] := by
  cases choice <;> rfl

@[simp] theorem values?_equality :
    (equality choice x y).values? g = (g.items? y).map (x :: ·) := by
  cases choice <;> rfl

@[simp] theorem values?_nullCheck : (nullCheck choice x).values? g = some [x] := by
  cases choice <;> rfl

end Node

namespace Graph

/-- A row that begins with a tag. -/
def row? (g : Graph) (raw : Operand) : Option (Head × List Operand) :=
  match g.items? raw with
  | some (.lit (.text t) :: arguments) => (RawForm.head? t).map (·, arguments)
  | _ => none

def rowConditions? (g : Graph) (raw : Operand) : Option (List Operand) :=
  (g.row? raw).map fun (head, arguments) => head.conditions arguments

def rowValues? (g : Graph) (raw : Operand) : Option (List Operand) :=
  (g.row? raw).map fun (head, arguments) => head.values arguments

def conditions? (g : Graph) (x : Operand) : Option (List Operand) :=
  (g.node? x).map Node.conditions

def values? (g : Graph) (x : Operand) : Option (List Operand) := (g.node? x).bind (Node.values? g)

/-- A value as it is read: a literal is itself, and a row is a node for a field. -/
inductive ValueOf (g : Graph) : Operand → Operand → Prop where
  | literal (v : Literal) : ValueOf g (.lit v) (.lit v)
  | field {raw k : Nat} {n : Int} (node : g.node? (.part k) = some (.field (.lit (.integer n)))) :
      ValueOf g (.part raw) (.part k)

/-- A part that is made for a condition: its node, or one of its values. -/
def Owns (g : Graph) (x : Operand) (k : Nat) : Prop :=
  ∃ vs, g.values? x = some vs ∧ Operand.part k ∈ vs ++ [x]

/-- In a raw form and in what was read of it conditions stand in the same places. Two nodes of
conditions are one exactly if their rows are. Every row that stands as a value is a field of its
own, which is new and stands in no other place as a value and nowhere as a condition. -/
structure Mirrors (g G : Graph) (raw x : Operand) : Prop where
  places : ∀ p, (reach? g.rowConditions? p raw).isSome = (reach? G.conditions? p x).isSome
  conditions : ∀ p q r r' y y', reach? g.rowConditions? p raw = some r →
    reach? g.rowConditions? q raw = some r' → reach? G.conditions? p x = some y →
    reach? G.conditions? q x = some y' → (y = y' ↔ r = r')
  values : ∀ p r y, reach? g.rowConditions? p raw = some r → reach? G.conditions? p x = some y →
    ∃ us vs, g.rowValues? r = some us ∧ G.values? y = some vs ∧ List.Forall₂ G.ValueOf us vs
  fields : ∀ p q y y' (vs vs' : List Operand) (i j k k' : Nat),
    reach? G.conditions? p x = some y → reach? G.conditions? q x = some y' →
    G.values? y = some vs → G.values? y' = some vs' →
    vs[i]? = some (.part k) → vs'[j]? = some (.part k') →
    ¬ g.Has (.part k) ∧ y' ≠ .part k ∧ (k = k' ↔ y = y' ∧ i = j)

variable {g G : Graph} {x u v : Operand}

theorem Extends.conditions? (h : g.Extends G) {ys : List Operand} (hx : g.conditions? x = some ys) :
    G.conditions? x = some ys := by
  obtain ⟨n, hn, rfl⟩ := Option.map_eq_some_iff.1 hx
  rw [Graph.conditions?, h.node? hn, Option.map_some]

theorem Extends.values? (h : g.Extends G) {vs : List Operand} (hx : g.values? x = some vs) :
    G.values? x = some vs := by
  obtain ⟨n, hn, hvs⟩ := Option.bind_eq_some_iff.1 hx
  rw [Graph.values?, h.node? hn, Option.bind_some]
  cases n with
  | equal y values | notEqual y values =>
    obtain ⟨items, hitems, rfl⟩ := Option.map_eq_some_iff.1 hvs
    rw [Node.values?, h.items? hitems, Option.map_some]
  | _ => exact hvs

theorem Extends.valueOf (h : g.Extends G) (huv : g.ValueOf u v) : G.ValueOf u v := by
  cases huv with
  | literal v => exact .literal v
  | field node => exact .field (h.node? node)

end Graph

/-! ### Parts in the order they were added -/

/-- The parts among operands are in the order of their numbers and between two bounds. -/
structure Rising (lo hi : Nat) (xs : List Operand) : Prop where
  ordered : xs.Pairwise fun x y => ∀ k l, x = .part k → y = .part l → k < l
  within : ∀ k, Operand.part k ∈ xs → lo ≤ k ∧ k < hi

namespace Rising

variable {lo lo' mid hi hi' : Nat} {xs ys : List Operand}

theorem nil (lo hi : Nat) : Rising lo hi [] := ⟨.nil, by simp⟩

theorem literal (lo hi : Nat) (v : Literal) : Rising lo hi [.lit v] := ⟨by simp, by simp⟩

theorem single {k : Nat} (hlo : lo ≤ k) (hhi : k < hi) : Rising lo hi [.part k] where
  ordered := by simp
  within l hl := by
    obtain rfl : l = k := by simpa using hl
    exact ⟨hlo, hhi⟩

theorem widen (h : Rising lo hi xs) (hlo : lo' ≤ lo) (hhi : hi ≤ hi') : Rising lo' hi' xs where
  ordered := h.ordered
  within k hk :=
    ⟨Nat.le_trans hlo (h.within k hk).1, Nat.lt_of_lt_of_le (h.within k hk).2 hhi⟩

theorem append (h : Rising lo mid xs) (h' : Rising mid hi ys) (hlo : lo ≤ mid) (hhi : mid ≤ hi) :
    Rising lo hi (xs ++ ys) where
  ordered := by
    refine List.pairwise_append.2 ⟨h.ordered, h'.ordered, ?_⟩
    rintro _ hx _ hy k l rfl rfl
    exact Nat.lt_of_lt_of_le (h.within k hx).2 (h'.within l hy).1
  within k hk := by
    rcases List.mem_append.1 hk with hk | hk
    · exact ⟨(h.within k hk).1, Nat.lt_of_lt_of_le (h.within k hk).2 hhi⟩
    · exact ⟨Nat.le_trans hlo (h'.within k hk).1, (h'.within k hk).2⟩

/-- A part stands in one place only. -/
theorem eq_of_getElem? (h : Rising lo hi xs) {i j k : Nat} (hi : xs[i]? = some (.part k))
    (hj : xs[j]? = some (.part k)) : i = j := by
  obtain ⟨hi, hxi⟩ := List.getElem?_eq_some_iff.1 hi
  obtain ⟨hj, hxj⟩ := List.getElem?_eq_some_iff.1 hj
  have hlt := List.pairwise_iff_getElem.1 h.ordered
  rcases Nat.lt_trichotomy i j with hij | hij | hij
  · exact absurd (hlt i j hi hj hij k k hxi hxj) (Nat.lt_irrefl k)
  · exact hij
  · exact absurd (hlt j i hj hi hij k k hxj hxi) (Nat.lt_irrefl k)

end Rising

namespace RawForm

/-! ### Readings that succeed -/

/-- If a reading succeeds from a memory, what it leaves and what it gives are as asked. -/
def Ensures {α : Type} (r : Reading α) (m : Memory) (Q : Memory → α → Prop) : Prop :=
  ∀ a m', r m = .ok (a, m') → Q m' a

variable {α β : Type} {g : Graph} {m m' m'' : Memory} {raw x : Operand} {lo hi : Nat}
  {xs ys above : List Operand}

namespace Ensures

variable {r : Reading α} {Q : Memory → α → Prop} {R : Memory → β → Prop}

theorem mono (h : Ensures r m Q) {Q' : Memory → α → Prop} (hQ : ∀ m' a, Q m' a → Q' m' a) :
    Ensures r m Q' :=
  fun a m' hrun => hQ m' a (h a m' hrun)

theorem bind {f : α → Reading β} (h : Ensures r m Q)
    (hf : ∀ m' a, Q m' a → Ensures (f a) m' R) : Ensures (r >>= f) m R := by
  intro b m' hrun
  have hrun : (r m >>= fun p => f p.1 p.2) = .ok (b, m') := hrun
  obtain ⟨⟨a, m₁⟩, h₁, h₂⟩ := bind_eq_ok_iff.1 hrun
  exact hf m₁ a (h a m₁ h₁) b m' h₂

theorem pure {a : α} (h : Q m a) : Ensures (Pure.pure a) m Q := by
  intro b m' hrun
  have hrun : (Except.ok (a, m) : Except Fault (α × Memory)) = .ok (b, m') := hrun
  cases hrun
  exact h

theorem throw (e : Fault) : Ensures (throw e : Reading α) m Q := fun _ _ hrun => nomatch hrun

theorem refuse (problem : Problem) (place : Place) : Ensures (RawForm.refuse problem place) m Q :=
  .throw _

theorem wrongCount (tag : String) (expected : Nat) (arguments : List Operand) (place : Place) :
    Ensures (RawForm.wrongCount tag expected arguments place) m Q :=
  .throw _

theorem look {f : Memory → α} {k : α → Reading β} (h : Ensures (k (f m)) m R) :
    Ensures (RawForm.look f >>= k) m R :=
  fun b m' hrun => h b m' hrun

end Ensures

/-! ### Parts that are added -/

/-- A reading has added parts, of which it gives some, and has learned nothing. -/
structure Memory.Adds (m m' : Memory) (xs : List Operand) : Prop where
  known : m'.known = m.known
  graph : m.graph.Extends m'.graph
  rising : Rising m.graph.parts.size m'.graph.parts.size xs

theorem Memory.Adds.append (h : m.Adds m' xs) (h' : m'.Adds m'' ys) : m.Adds m'' (xs ++ ys) where
  known := h'.known.trans h.known
  graph := h.graph.trans h'.graph
  rising := h.rising.append h'.rising h.graph.size_le h'.graph.size_le

/-- Not all that is added has to count. -/
theorem Memory.Adds.skip (h : m.Adds m' xs) (h' : m'.Adds m'' ys) : m.Adds m'' xs where
  known := h'.known.trans h.known
  graph := h.graph.trans h'.graph
  rising := h.rising.widen (Nat.le_refl _) h'.graph.size_le

namespace Ensures

theorem addPart (p : Part) :
    Ensures (RawForm.addPart p) m fun m' x => m.Adds m' [x] ∧ m'.graph.part? x = some p := by
  intro x m' hrun
  cases hrun
  refine ⟨⟨rfl, m.graph.extends_add p, .single (Nat.le_refl _) ?_⟩, ?_⟩
  · simp
  · simp [Graph.part?, Graph.get?]

theorem addNode (n : Node) :
    Ensures (RawForm.addNode n) m fun m' x => m.Adds m' [x] ∧ m'.graph.node? x = some n :=
  (Ensures.addPart (.node n)).mono fun m' x ⟨hadds, hx⟩ =>
    ⟨hadds, by simp only [Graph.node?, hx]⟩

theorem readField (arguments : List Operand) (place : Place) :
    Ensures (RawForm.readField arguments place) m fun m' x => m.Adds m' [x] ∧
      ∃ n, m'.graph.node? x = some (.field (.lit (.integer n))) := by
  unfold RawForm.readField
  split
  · next n => exact (Ensures.addNode _).mono fun m' x ⟨hadds, hx⟩ => ⟨hadds, n, hx⟩
  · exact .refuse _ _
  · exact .wrongCount _ _ _ _

theorem readValue (place : Place) (raw : Operand) :
    Ensures (RawForm.readValue place raw) m fun m' v => m.Adds m' [v] ∧
      m'.graph.ValueOf raw v := by
  unfold RawForm.readValue
  refine .look ?_
  cases raw with
  | lit v =>
    dsimp only
    split
    · exact .pure ⟨⟨rfl, .refl _, .literal _ _ v⟩, .literal v⟩
    · exact .refuse _ _
  | part raw =>
    dsimp only
    split
    · next heq => cases heq
    · next arguments _ _ =>
      refine (Ensures.readField arguments place).mono fun m' x ⟨hadds, n, hx⟩ => ⟨hadds, ?_⟩
      cases x with
      | lit v => cases hx
      | part k => exact .field hx
    · exact .refuse _ _

theorem readValues (place : Place) (i : Nat) (raws : List Operand) :
    Ensures (RawForm.readValues place i raws) m fun m' vs => m.Adds m' vs ∧
      List.Forall₂ m'.graph.ValueOf raws vs := by
  induction raws generalizing m i with
  | nil => exact .pure ⟨⟨rfl, .refl _, .nil _ _⟩, .nil⟩
  | cons raw rest ih =>
    refine (Ensures.readValue _ raw).bind fun m₁ v ⟨hadds₁, hv⟩ =>
      (ih (i + 1)).bind fun m₂ vs ⟨hadds₂, hvs⟩ => .pure ⟨hadds₁.append hadds₂, ?_⟩
    exact .cons (hadds₂.graph.valueOf hv) hvs

end Ensures

/-! ### What is known of rows -/

/-- A node is what a tag and its arguments are read as: it holds the nodes of the conditions, which
are known, and then its values, and what was made for it lies between two bounds. -/
def Memory.Made (m : Memory) (lo hi : Nat) (head : Head) (arguments : List Operand)
    (x : Operand) : Prop :=
  ∃ ys vs, m.graph.conditions? x = some ys ∧ m.graph.values? x = some vs ∧
    List.Forall₂ (fun raw y => known? m raw = some y) (head.conditions arguments) ys ∧
    List.Forall₂ m.graph.ValueOf (head.values arguments) vs ∧ Rising lo hi (vs ++ [x])

/-- Each row that is known was read with all that is in it, and nothing was made for two rows. -/
structure Memory.Linked (g : Graph) (hi : Nat) (m : Memory) : Prop where
  graph : g.Extends m.graph
  read : ∀ (n : Nat) (x : Operand), m.known[n]? = some x → ∃ head arguments,
    g.row? (.part n) = some (head, arguments) ∧ m.Made g.parts.size hi head arguments x
  apart : ∀ (n n' : Nat) (x x' : Operand) (k : Nat), m.known[n]? = some x →
    m.known[n']? = some x' → m.graph.Owns x k → m.graph.Owns x' k → n = n'

/-- A reading has added parts and learned of rows, but nothing new of those around it. -/
structure Memory.Continues (above : List Operand) (m m' : Memory) : Prop where
  graph : m.graph.Extends m'.graph
  keeps : ∀ (n : Nat) (x : Operand), m.known[n]? = some x → m'.known[n]? = some x
  around : ∀ n : Nat, .part n ∈ above → m'.known[n]? = m.known[n]?

theorem Memory.Continues.refl (above : List Operand) (m : Memory) : m.Continues above m :=
  ⟨.refl _, fun _ _ h => h, fun _ _ => rfl⟩

theorem Memory.Continues.trans (h : m.Continues above m') (h' : m'.Continues above m'') :
    m.Continues above m'' where
  graph := h.graph.trans h'.graph
  keeps n x hx := h'.keeps n x (h.keeps n x hx)
  around n hn := (h'.around n hn).trans (h.around n hn)

theorem Memory.Continues.tail (h : m.Continues (raw :: above) m') : m.Continues above m' :=
  ⟨h.graph, h.keeps, fun n hn => h.around n (List.mem_cons_of_mem _ hn)⟩

theorem Memory.Continues.known? (h : m.Continues above m') (hx : RawForm.known? m raw = some x) :
    RawForm.known? m' raw = some x := by
  cases raw with
  | lit v => cases hx
  | part n => exact h.keeps n x hx

theorem Memory.Adds.continues (h : m.Adds m' xs) (above : List Operand) : m.Continues above m' where
  graph := h.graph
  keeps n x hx := by rwa [h.known]
  around n _ := by rw [h.known]

theorem Memory.Continues.remember {n : Nat} (hnew : m.known[n]? = none) (hn : .part n ∉ above) :
    m.Continues above ⟨m.graph, m.known.insert n x⟩ where
  graph := .refl _
  keeps k y hy := by
    have hne : n ≠ k := by rintro rfl; rw [hnew] at hy; cases hy
    rwa [Std.HashMap.getElem?_insert, if_neg (by simpa using hne)]
  around k hk := by
    have hne : n ≠ k := by rintro rfl; exact hn hk
    rw [Std.HashMap.getElem?_insert, if_neg (by simpa using hne)]

theorem Memory.Made.continue {head : Head} {arguments : List Operand}
    (h : m.Made lo hi head arguments x) (hm : m.Continues above m') :
    m'.Made lo hi head arguments x :=
  have ⟨ys, vs, hys, hvs, hconditions, hvalues, hrising⟩ := h
  ⟨ys, vs, hm.graph.conditions? hys, hm.graph.values? hvs,
    hconditions.imp fun _ _ => hm.known?, hvalues.imp fun _ _ => hm.graph.valueOf, hrising⟩

theorem Memory.Made.widen {head : Head} {arguments : List Operand}
    (h : m.Made lo hi head arguments x) {lo' hi' : Nat} (hlo : lo' ≤ lo) (hhi : hi ≤ hi') :
    m.Made lo' hi' head arguments x :=
  have ⟨ys, vs, hys, hvs, hconditions, hvalues, hrising⟩ := h
  ⟨ys, vs, hys, hvs, hconditions, hvalues, hrising.widen hlo hhi⟩

theorem Memory.Made.rising {head : Head} {arguments vs : List Operand}
    (h : m.Made lo hi head arguments x) (hvs : m.graph.values? x = some vs) :
    Rising lo hi (vs ++ [x]) := by
  obtain ⟨_, vs', _, hvs', _, _, hrising⟩ := h
  rw [hvs] at hvs'
  cases hvs'
  exact hrising

theorem Memory.Made.owns {head : Head} {arguments : List Operand}
    (h : m.Made lo hi head arguments x) {k : Nat} (hk : m.graph.Owns x k) : lo ≤ k ∧ k < hi :=
  have ⟨_, hvs, hk⟩ := hk
  (h.rising hvs).within k hk

namespace Memory.Linked

theorem start (g : Graph) : Linked g g.parts.size ⟨g, {}⟩ := ⟨.refl g, by simp, by simp⟩

/-- Adding parts changes nothing in what is known. -/
theorem adds (h : m.Linked g hi) (hm : m.Adds m' xs) : m'.Linked g hi where
  graph := h.graph.trans hm.graph
  read n x hx := by
    rw [hm.known] at hx
    obtain ⟨head, arguments, hrow, hmade⟩ := h.read n x hx
    exact ⟨head, arguments, hrow, hmade.continue (hm.continues [])⟩
  apart n n' x x' k hx hx' hk hk' := by
    rw [hm.known] at hx hx'
    have hback {n : Nat} {x : Operand} (hx : m.known[n]? = some x) (hk : m'.graph.Owns x k) :
        m.graph.Owns x k := by
      obtain ⟨_, _, _, _, vs, _, hvs, _⟩ := h.read n x hx
      obtain ⟨vs', hvs', hk⟩ := hk
      rw [hm.graph.values? hvs] at hvs'
      cases hvs'
      exact ⟨vs, hvs, hk⟩
    exact h.apart n n' x x' k hx hx' (hback hx hk) (hback hx' hk')

/-- A row may be remembered with a node that was made after all that was known. -/
theorem remember (h : m.Linked g lo) (hlo : g.parts.size ≤ lo) (hhi : lo ≤ hi) {n : Nat}
    (hnew : m.known[n]? = none) {head : Head} {arguments : List Operand}
    (hrow : g.row? (.part n) = some (head, arguments)) (hmade : m.Made lo hi head arguments x) :
    Linked g hi ⟨m.graph, m.known.insert n x⟩ := by
  have hcontinues : m.Continues [] ⟨m.graph, m.known.insert n x⟩ := .remember hnew (by simp)
  have hcases {k : Nat} {y : Operand} (hy : (m.known.insert n x)[k]? = some y) :
      (k = n ∧ y = x) ∨ m.known[k]? = some y := by
    rw [Std.HashMap.getElem?_insert] at hy
    split at hy
    · next hk => exact .inl ⟨(eq_of_beq hk).symm, (Option.some.inj hy).symm⟩
    · exact .inr hy
  have hbelow {k l : Nat} {y : Operand} (hy : m.known[k]? = some y) (hl : m.graph.Owns y l) :
      l < lo :=
    have ⟨_, _, _, hmade⟩ := h.read k y hy
    (hmade.owns hl).2
  refine ⟨h.graph, fun k y hy => ?_, fun k k' y y' l hy hy' hl hl' => ?_⟩
  · rcases hcases hy with ⟨rfl, rfl⟩ | hy
    · exact ⟨head, arguments, hrow, (hmade.continue hcontinues).widen hlo (Nat.le_refl _)⟩
    · obtain ⟨head', arguments', hrow', hmade'⟩ := h.read k y hy
      exact ⟨head', arguments', hrow', (hmade'.continue hcontinues).widen (Nat.le_refl _) hhi⟩
  · rcases hcases hy with ⟨rfl, rfl⟩ | hold <;> rcases hcases hy' with ⟨rfl, rfl⟩ | hold'
    · rfl
    · exact absurd (hmade.owns hl).1 (Nat.not_le.2 (hbelow hold' hl'))
    · exact absurd (hmade.owns hl').1 (Nat.not_le.2 (hbelow hold hl))
    · exact h.apart k k' y y' l hold hold' hl hl'

end Memory.Linked

/-! ### Reading row by row -/

/-- A row has been read as a condition. -/
structure Memory.Reads (g : Graph) (above : List Operand) (m : Memory) (raw : Operand) (m' : Memory)
    (x : Operand) : Prop where
  linked : m'.Linked g m'.graph.parts.size
  continues : m.Continues above m'
  known : known? m' raw = some x

/-- A tag and what follows it have been read as a node, which was made after all that is known. -/
def Memory.Makes (g : Graph) (above : List Operand) (m : Memory) (arguments : List Operand)
    (head : Head) (m' : Memory) (x : Operand) : Prop :=
  ∃ lo, g.parts.size ≤ lo ∧ lo ≤ m'.graph.parts.size ∧ m'.Linked g lo ∧ m.Continues above m' ∧
    m'.Made lo m'.graph.parts.size head arguments x

/-- After the conditions in it have been read, a node is made of them or of values. -/
theorem Memory.Linked.makes (h : m'.Linked g m'.graph.parts.size) (hm : m.Continues above m')
    {arguments : List Operand} {head : Head} (vs : List Operand) (hx : m'.Adds m'' (vs ++ [x]))
    (hys : m''.graph.conditions? x = some ys) (hvs : m''.graph.values? x = some vs)
    (hconditions : List.Forall₂ (fun raw y => RawForm.known? m' raw = some y)
      (head.conditions arguments) ys)
    (hvalues : List.Forall₂ m''.graph.ValueOf (head.values arguments) vs) :
    m.Makes g above arguments head m'' x :=
  have hm' := hx.continues above
  ⟨_, h.graph.size_le, hx.graph.size_le, h.adds hx, hm.trans hm', ys, vs, hys, hvs,
    hconditions.imp fun _ _ => hm'.known?, hvalues, hx.rising⟩

namespace Ensures

variable {arguments : List Operand} {condition : Place → Operand → Reading Operand}

theorem readPair {make : Operand → Operand → Node} {tag : String}
    {child : Nat → Operand → Reading Operand} {place : Place} {Q : Memory → Operand → Prop}
    (h : ∀ l r, arguments = [l, r] → Ensures (child 1 l) m fun m₁ y =>
      Ensures (child 2 r) m₁ fun m₂ z => ∀ m₃ x, m₂.Adds m₃ [x] →
        m₃.graph.node? x = some (make y z) → Q m₃ x) :
    Ensures (RawForm.readPair make tag child arguments place) m Q := by
  unfold RawForm.readPair
  split
  · next l r =>
    exact (h l r rfl).bind fun m₁ y hy => hy.bind fun m₂ z hz =>
      (Ensures.addNode _).mono fun m₃ x ⟨hx, hnode⟩ => hz m₃ x hx hnode
  · exact .wrongCount _ _ _ _

theorem readSingle {make : Operand → Node} {tag : String}
    {child : Nat → Operand → Reading Operand} {place : Place} {Q : Memory → Operand → Prop}
    (h : ∀ y, arguments = [y] → Ensures (child 1 y) m fun m₁ z => ∀ m₂ x, m₁.Adds m₂ [x] →
      m₂.graph.node? x = some (make z) → Q m₂ x) :
    Ensures (RawForm.readSingle make tag child arguments place) m Q := by
  unfold RawForm.readSingle
  split
  · next y =>
    exact (h y rfl).bind fun m₁ z hz =>
      (Ensures.addNode _).mono fun m₂ x ⟨hx, hnode⟩ => hz m₂ x hx hnode
  · exact .wrongCount _ _ _ _

theorem readMembership (hm : m.Linked g m.graph.parts.size) (negated : Bool) (tag : String)
    (place : Place) :
    Ensures (RawForm.readMembership (.equality negated) tag arguments place) m
      (m.Makes g above arguments (.equality negated)) := by
  unfold RawForm.readMembership
  split
  · next y z rest =>
    refine (Ensures.readValue _ y).bind fun m₁ operand ⟨ho, hy⟩ =>
      (Ensures.readValues _ 2 (z :: rest)).bind fun m₂ xs ⟨hxs, hrest⟩ =>
      (Ensures.addPart _).bind fun m₃ values ⟨hvalues, htuple⟩ =>
      (Ensures.addNode _).mono fun m₄ x ⟨hx, hnode⟩ => ?_
    have hitems : m₄.graph.items? values = some xs := by
      rw [Graph.items?, hx.graph.part? htuple]
    have hraws : List.Forall₂ m₂.graph.ValueOf (y :: z :: rest) (operand :: xs) :=
      .cons (hxs.graph.valueOf hy) hrest
    exact hm.makes (.refl above m) (operand :: xs)
      (((ho.append hxs).skip hvalues).append hx) (by simp [Graph.conditions?, hnode])
      (by simp [Graph.values?, hnode, hitems]) .nil
      (hraws.imp fun _ _ h => hx.graph.valueOf (hvalues.graph.valueOf h))
  · exact .refuse _ _

theorem readReference (hm : m.Linked g m.graph.parts.size) (place : Place) :
    Ensures (RawForm.readReference arguments place) m
      (m.Makes g above arguments .reference) := by
  unfold RawForm.readReference
  split
  · exact (Ensures.addNode _).mono fun m₁ x ⟨hx, hnode⟩ =>
      hm.makes (.refl above m) [] hx (by simp [Graph.conditions?, hnode, Node.conditions])
        (by simp [Graph.values?, hnode, Node.values?]) .nil .nil
  · exact .refuse _ _
  · exact .wrongCount _ _ _ _

/-- A tag and what follows it are read as a node, made after all that is known. -/
theorem readHead (hm : m.Linked g m.graph.parts.size)
    (hcondition : ∀ (m : Memory) (place : Place), ∀ raw ∈ arguments,
      m.Linked g m.graph.parts.size → Ensures (condition place raw) m (m.Reads g above raw))
    (head : Head) (place : Place) :
    Ensures (head.read condition arguments place) m (m.Makes g above arguments head) := by
  cases head with
  | join k =>
    dsimp only [Head.read]
    refine .readPair fun l r harguments => ?_
    subst harguments
    exact (hcondition m _ l (by simp) hm).mono fun m₁ y hy =>
      (hcondition m₁ _ r (by simp) hy.linked).mono fun m₂ z hz m₃ x hx hnode =>
      hz.linked.makes (hy.continues.trans hz.continues) [] hx
        (by simp [Graph.conditions?, hnode]) (by simp [Graph.values?, hnode])
        (.cons (hz.continues.known? hy.known) (.cons hz.known .nil)) .nil
  | not =>
    dsimp only [Head.read]
    refine .readSingle fun y harguments => ?_
    subst harguments
    exact (hcondition m _ y (by simp) hm).mono fun m₁ z hz m₂ x hx hnode =>
      hz.linked.makes hz.continues [] hx
        (by simp [Graph.conditions?, hnode, Node.conditions])
        (by simp [Graph.values?, hnode, Node.values?]) (.cons hz.known .nil) .nil
  | ordering greater =>
    dsimp only [Head.read]
    refine .readPair fun l r harguments => ?_
    subst harguments
    exact (Ensures.readValue _ l).mono fun m₁ y ⟨hy, hl⟩ =>
      (Ensures.readValue _ r).mono fun m₂ z ⟨hz, hr⟩ m₃ x hx hnode =>
      hm.makes (.refl above m) [y, z] ((hy.append hz).append hx)
        (by simp [Graph.conditions?, hnode]) (by simp [Graph.values?, hnode]) .nil
        (.cons (hx.graph.valueOf (hz.graph.valueOf hl)) (.cons (hx.graph.valueOf hr) .nil))
  | equality negated => exact .readMembership hm negated _ place
  | nullCheck negated =>
    dsimp only [Head.read]
    refine .readSingle fun y harguments => ?_
    subst harguments
    exact (Ensures.readValue _ y).mono fun m₁ z ⟨hz, hy⟩ m₂ x hx hnode =>
      hm.makes (.refl above m) [z] (hz.append hx) (by simp [Graph.conditions?, hnode])
        (by simp [Graph.values?, hnode]) .nil (.cons (hx.graph.valueOf hy) .nil)
  | reference => exact .readReference hm place
  | field =>
    exact (Ensures.readField arguments place).mono fun m₁ x ⟨hx, n, hnode⟩ =>
      hm.makes (.refl above m) [] hx (by simp [Graph.conditions?, hnode, Node.conditions])
        (by simp [Graph.values?, hnode, Node.values?]) .nil .nil

/-- A row with a tag is read as a node that it may be remembered with. -/
theorem readTagged (hm : m.Linked g m.graph.parts.size) {t : String}
    (hitems : g.items? raw = some (.lit (.text t) :: arguments))
    (hcondition : ∀ (m : Memory) (place : Place), ∀ raw ∈ arguments,
      m.Linked g m.graph.parts.size → Ensures (condition place raw) m (m.Reads g above raw))
    (place : Place) :
    Ensures (RawForm.readTagged [] condition t arguments place) m fun m' x => ∃ head,
      g.row? raw = some (head, arguments) ∧ m.Makes g above arguments head m' x := by
  cases hhead : head? t with
  | none =>
    rw [readTagged_unknown hhead]
    exact .refuse _ _
  | some head =>
    have hrow : g.row? raw = some (head, arguments) := by
      rw [Graph.row?, hitems]
      simp only [hhead, Option.map_some]
    rw [← head?_eq_some_iff.1 hhead, readTagged_tag]
    exact (Ensures.readHead hm hcondition head place).mono fun m' x hx => ⟨head, hrow, hx⟩

theorem remember (n : Nat) (x : Operand) :
    Ensures (RawForm.remember (.part n) x) m fun m' _ => m' = ⟨m.graph, m.known.insert n x⟩ := by
  intro _ m' hrun
  cases hrun
  rfl

/-- Whatever is read as a condition is known from then on. -/
theorem readCondition (hg : g.IsClosed) {room : Nat} (place : Place) (hraw : g.Has raw)
    (hm : m.Linked g m.graph.parts.size) :
    Ensures (RawForm.readCondition [] room above place raw) m (m.Reads g above raw) := by
  induction room generalizing m above place raw with
  | zero => exact .throw _
  | succ room ih =>
    rw [RawForm.readCondition]
    refine .look ?_
    rw [hm.graph.items?_eq hraw]
    split
    · exact .refuse _ _
    · exact .refuse _ _
    · next tag arguments hitems =>
      split
      · exact .look (.throw _)
      · next hmem =>
        refine .look ?_
        cases hknown : known? m raw with
        | some x => exact .pure ⟨hm, .refl above m, hknown⟩
        | none =>
          dsimp only
          split
          · next t =>
            cases raw with
            | lit v => cases hitems
            | part n =>
              refine (Ensures.readTagged hm hitems (fun m place y hy => ih place
                (hg.items hraw hitems y (List.mem_cons_of_mem _ hy))) place).bind
                fun m₁ x hx => (Ensures.remember n x).bind ?_
              obtain ⟨head, hrow, lo, hlo, hhi, hlinked, hcontinues, hmade⟩ := hx
              -- what is in a row does not make the row itself known
              have hnew : m₁.known[n]? = none :=
                (hcontinues.around n List.mem_cons_self).trans hknown
              rintro _ _ rfl
              exact .pure ⟨hlinked.remember hlo hhi hnew hrow hmade,
                hcontinues.tail.trans (.remember hnew hmem), by simp [known?]⟩
          · exact .refuse _ _

end Ensures

/-! ### What was read -/

theorem Memory.Linked.exists_made (h : m.Linked g hi) (hx : known? m raw = some x) :
    ∃ head arguments, g.row? raw = some (head, arguments) ∧
      m.Made g.parts.size hi head arguments x := by
  cases raw with
  | lit v => cases hx
  | part n => exact h.read n x hx

/-- What is known of a row is known of all that stands in it as conditions, place by place. -/
theorem Memory.Linked.rel_reach? (h : m.Linked g hi) (hx : known? m raw = some x) (p : List Nat) :
    Option.Rel (fun r y => known? m r = some y) (reach? g.rowConditions? p raw)
      (reach? m.graph.conditions? p x) := by
  induction p generalizing raw x with
  | nil => exact .some hx
  | cons i p ih =>
    obtain ⟨head, arguments, hrow, ys, _, hys, _, hconditions, _⟩ := h.exists_made hx
    have hrow : g.rowConditions? raw = some (head.conditions arguments) := by
      rw [Graph.rowConditions?, hrow, Option.map_some]
    rw [reach?, reach?, hrow, hys, Option.bind_some, Option.bind_some]
    rcases Nat.lt_or_ge i ys.length with hi | hi
    · have hi' : i < (head.conditions arguments).length := hconditions.length_eq ▸ hi
      rw [List.getElem?_eq_getElem hi, List.getElem?_eq_getElem hi']
      exact ih (hconditions.get hi' hi)
    · have hi' : (head.conditions arguments).length ≤ i := hconditions.length_eq ▸ hi
      rw [List.getElem?_eq_none hi, List.getElem?_eq_none hi']
      exact .none

theorem Memory.Linked.exists_row (h : m.Linked g hi) (hx : known? m raw = some x) {p : List Nat}
    {y : Operand} (hy : reach? m.graph.conditions? p x = some y) :
    ∃ r, reach? g.rowConditions? p raw = some r ∧ known? m r = some y := by
  have hrel := h.rel_reach? hx p
  rw [hy] at hrel
  generalize reach? g.rowConditions? p raw = r at hrel ⊢
  cases hrel with
  | some hr => exact ⟨_, rfl, hr⟩

/-- No part is made for two rows. -/
theorem Memory.Linked.eq_of_owns (h : m.Linked g hi) {raw' x' : Operand}
    (hx : known? m raw = some x) (hx' : known? m raw' = some x') {k : Nat}
    (hk : m.graph.Owns x k) (hk' : m.graph.Owns x' k) : raw = raw' ∧ x = x' := by
  cases raw with
  | lit v => cases hx
  | part n =>
    cases raw' with
    | lit v => cases hx'
    | part n' =>
      obtain rfl := h.apart n n' x x' k hx hx' hk hk'
      exact ⟨rfl, Option.some.inj (hx.symm.trans hx')⟩

theorem Memory.Linked.owns_self (h : m.Linked g hi) (hx : known? m raw = some x) :
    ∃ k, x = .part k ∧ m.graph.Owns x k := by
  obtain ⟨_, _, _, ys, vs, hys, hvs, _⟩ := h.exists_made hx
  cases x with
  | lit v => cases hys
  | part k => exact ⟨k, rfl, vs, hvs, by simp⟩

/-- What is known of a row mirrors it: what was made for a row was made for no other one. -/
theorem Memory.Linked.mirrors (h : m.Linked g hi) (hx : known? m raw = some x) :
    g.Mirrors m.graph raw x where
  places p := by
    have hrel := h.rel_reach? hx p
    generalize reach? g.rowConditions? p raw = r, reach? m.graph.conditions? p x = y at hrel ⊢
    cases hrel <;> rfl
  conditions p q r r' y y' hr hr' hy hy' := by
    obtain ⟨_, hp, hknown⟩ := h.exists_row hx hy
    obtain ⟨_, hq, hknown'⟩ := h.exists_row hx hy'
    rw [hr] at hp
    rw [hr'] at hq
    cases hp
    cases hq
    constructor
    · rintro rfl
      obtain ⟨k, _, hk⟩ := h.owns_self hknown
      exact (h.eq_of_owns hknown hknown' hk hk).1
    · rintro rfl
      exact Option.some.inj (hknown.symm.trans hknown')
  values p r y hr hy := by
    obtain ⟨_, hp, hknown⟩ := h.exists_row hx hy
    rw [hr] at hp
    cases hp
    obtain ⟨head, arguments, hrow, _, vs, _, hvs, _, hvalues, _⟩ := h.exists_made hknown
    exact ⟨_, vs, by rw [Graph.rowValues?, hrow, Option.map_some], hvs, hvalues⟩
  fields p q y y' vs vs' i j k k' hy hy' hvs hvs' hi hj := by
    obtain ⟨r, _, hknown⟩ := h.exists_row hx hy
    obtain ⟨r', _, hknown'⟩ := h.exists_row hx hy'
    have howns : m.graph.Owns y k :=
      ⟨vs, hvs, List.mem_append_left _ (List.mem_of_getElem? hi)⟩
    have howns' : m.graph.Owns y' k' :=
      ⟨vs', hvs', List.mem_append_left _ (List.mem_of_getElem? hj)⟩
    obtain ⟨_, _, _, hmade⟩ := h.exists_made hknown
    have hrising := hmade.rising hvs
    obtain ⟨hlength, -⟩ := List.getElem?_eq_some_iff.1 hi
    have hi : (vs ++ [y])[i]? = some (.part k) := by rwa [List.getElem?_append_left hlength]
    refine ⟨Nat.not_lt.2 (hmade.owns howns).1, ?_, ?_, ?_⟩
    · -- the node of a condition stands behind the values in it
      rintro rfl
      obtain ⟨l, hl, hself⟩ := h.owns_self hknown'
      cases hl
      obtain ⟨rfl, rfl⟩ := h.eq_of_owns hknown hknown' howns hself
      have := hrising.eq_of_getElem? hi (List.getElem?_concat_length)
      omega
    · rintro rfl
      obtain ⟨rfl, rfl⟩ := h.eq_of_owns hknown hknown' howns howns'
      rw [hvs] at hvs'
      cases hvs'
      obtain ⟨hlength', -⟩ := List.getElem?_eq_some_iff.1 hj
      exact ⟨rfl, hrising.eq_of_getElem? hi (by rwa [List.getElem?_append_left hlength'])⟩
    · rintro ⟨rfl, rfl⟩
      rw [hvs] at hvs'
      cases hvs'
      rw [List.getElem?_append_left hlength, hj] at hi
      cases hi
      rfl

theorem readBy_mirrors (hg : g.IsClosed) (hraw : g.Has raw) {limit : Nat} {G : Graph}
    (h : readBy (readCondition [] limit) g raw = .ok (x, G)) : g.Mirrors G raw x := by
  obtain ⟨⟨x', m⟩, hrun, hresult⟩ := bind_eq_ok_iff.1 h
  cases hresult
  have hreads := Ensures.readCondition hg [] hraw (Memory.Linked.start g) x m hrun
  exact hreads.linked.mirrors hreads.known

/-- The reader with a memory and the plain one refuse with the same fault or read the same
condition, unless the first one gives up; it never does if it may follow more levels than there are
parts. What it reads mirrors the raw form, shared where that is shared. -/
theorem memory_agrees_and_mirrors (hg : g.IsClosed) (hraw : g.Has raw) {room : Nat}
    (hroom : g.parts.size < room) :
    read [] g raw = readBy (readCondition [] nestingLimit) g raw ∧
      readBy (readPlainly room) g raw ≠ .error .nestedTooDeep ∧
      ∀ limit, (g.parts.size < limit →
          readBy (readCondition [] limit) g raw ≠ .error .nestedTooDeep) ∧
        (readBy (readCondition [] limit) g raw ≠ .error .nestedTooDeep →
          (∀ e, readBy (readCondition [] limit) g raw = .error e ↔
            readBy (readPlainly room) g raw = .error e) ∧
          ∀ x G, readBy (readCondition [] limit) g raw = .ok (x, G) → g.Mirrors G raw x ∧
            ∃ y G' c, readBy (readPlainly room) g raw = .ok (y, G') ∧ G.Builds x c ∧
              G'.Builds y c) := by
  refine ⟨read_eq_readBy g raw, ?_, fun limit => ⟨fun hlimit => ?_, fun hdeep => ?_⟩⟩
  · rcases readBy_cases hg hraw room hroom with ⟨_, _, _, _, _, hy, _⟩ | ⟨e, he, _, hy⟩ | ⟨_, hle⟩
    · simp [hy]
    · simpa [hy] using he
    · omega
  · rcases readBy_cases hg hraw limit hroom with ⟨_, _, _, _, hx, _⟩ | ⟨e, he, hx, _⟩ | ⟨_, hle⟩
    · simp [hx]
    · simpa [hx] using he
    · omega
  · rcases readBy_cases hg hraw limit hroom with
      ⟨x, G, y, G', hx, hy, _, _, c, hc, hc'⟩ | ⟨e, _, hx, hy⟩ | ⟨hx, _⟩
    · refine ⟨fun e => by simp [hx, hy], fun x' G₁ hx' => ⟨readBy_mirrors hg hraw hx', ?_⟩⟩
      rw [hx] at hx'
      cases hx'
      exact ⟨y, G', c, hy, hc, hc'⟩
    · exact ⟨fun e' => by rw [hx, hy], fun _ _ hx' => by rw [hx] at hx'; cases hx'⟩
    · exact absurd hx hdeep

/-- A comparison that stands in two places, of a field that stands in it twice and next to it. -/
def sharedOrdering : Graph :=
  ⟨#[.tuple [.lit (.text "field"), .lit (.integer 2)], .list [.lit (.text "<"), .part 0, .part 0],
    .list [.lit (.text "and"), .part 1, .part 0], .tuple [.lit (.text "or"), .part 2, .part 1]]⟩

theorem sharedOrdering_mirrored :
    sharedOrdering.IsClosed ∧ sharedOrdering.Has (.part 3) ∧ sharedOrdering.parts.size < 5 ∧
      ∃ x G y k k', read [] sharedOrdering (.part 3) = .ok (x, G) ∧
        reach? G.conditions? [0, 0] x = some y ∧ reach? G.conditions? [1] x = some y ∧
        G.values? y = some [.part k, .part k'] ∧ k ≠ k' := by
  have hg : sharedOrdering.IsClosed := by decide
  have hraw : sharedOrdering.Has (.part 3) := by decide
  have hroom : sharedOrdering.parts.size < 5 := by decide
  obtain ⟨hread, _, hlimit⟩ := memory_agrees_and_mirrors hg hraw hroom
  obtain ⟨hdeep, hboth⟩ := hlimit nestingLimit
  obtain ⟨herror, hmirrors⟩ := hboth (hdeep (by decide))
  have hplainly : (readBy (readPlainly 5) sharedOrdering (.part 3)).isOk = true := by decide +kernel
  cases hrun : readBy (readCondition [] nestingLimit) sharedOrdering (.part 3) with
  | error e =>
    rw [(herror e).1 hrun] at hplainly
    cases hplainly
  | ok result =>
    obtain ⟨x, G⟩ := result
    obtain ⟨h, _⟩ := hmirrors x G hrun
    obtain ⟨y, hy⟩ := Option.isSome_iff_exists.1 ((h.places [0, 0]).symm.trans rfl)
    obtain ⟨y', hy'⟩ := Option.isSome_iff_exists.1 ((h.places [1]).symm.trans rfl)
    obtain rfl := (h.conditions [0, 0] [1] _ _ y y' rfl rfl hy hy').2 rfl
    obtain ⟨us, vs, hus, hvs, hvalues⟩ := h.values [0, 0] _ y rfl hy
    cases hus
    cases hvalues with
    | cons hk hvalues =>
      cases hvalues with
      | cons hk' hvalues =>
        cases hvalues
        cases hk with
        | @field _ k _ _ =>
          cases hk' with
          | @field _ k' _ _ =>
            refine ⟨hg, hraw, hroom, x, G, y, k, k', hread ▸ hrun, hy, hy', hvs, fun heq => ?_⟩
            have hfields := h.fields [0, 0] [0, 0] y y _ _ 0 1 k k' hy hy hvs hvs rfl rfl
            exact absurd (hfields.2.2.1 heq).2 (by decide)

end RawForm

end FilterCompiler
