import FilterCompiler.Proofs.Grammar

/-! What is read and what is refused. A reading keeps to the raw forms that the graph held when it
began: whatever it adds is behind them, and of every row that it remembers it has the node of the
condition that the row spells. Proved here, for readings without custom tags and data in which no
row holds itself: what is of the grammar is read, anything else is refused as malformed and never
for another reason, the root that is read is built as the condition that the raw form spells, and
every condition is read from its raw form. All of it may be too deep to be read, but not with fewer
rows in each other than levels are followed. -/

namespace FilterCompiler

namespace RawForm.Form

mutual

/-- How many rows stand in each other. -/
def depth : Form → Nat
  | literal _ => 0
  | row items => depthAll items + 1

def depthAll : List Form → Nat
  | [] => 0
  | form :: forms => max form.depth (depthAll forms)

end

theorem depth_le_depthAll {form : Form} {forms : List Form} (h : form ∈ forms) :
    form.depth ≤ depthAll forms := by
  induction forms with
  | nil => cases h
  | cons other forms ih =>
    rw [depthAll]
    rcases List.mem_cons.1 h with rfl | h
    · exact Nat.le_max_left _ _
    · exact Nat.le_trans (ih h) (Nat.le_max_right _ _)

end RawForm.Form

namespace Graph

open RawForm (Form)

/-- An operand is built as a condition is: node by node, and what its comparisons are with are
tuples. -/
inductive Builds (g : Graph) : Operand → Condition → Prop where
  | join {x l r : Operand} {k : Connective} {c d : Condition}
      (node : g.node? x = some (k.node l r)) (left : Builds g l c) (right : Builds g r d) :
      Builds g x (.join k c d)
  | not {x y : Operand} {c : Condition} (node : g.node? x = some (.not y))
      (operand : Builds g y c) : Builds g x (.not c)
  | ordering {x l r : Operand} {greater : Bool} {u v : Value}
      (node : g.node? x = some (.ordering greater l r)) (left : g.HoldsValue l u)
      (right : g.HoldsValue r v) : Builds g x (.ordering greater u v)
  | equality {x y values : Operand} {negated : Bool} {items : List Operand} {u : Value}
      {vs : List Value} (node : g.node? x = some (.equality negated y values))
      (operand : g.HoldsValue y u) (tuple : g.part? values = some (.tuple items))
      (compared : List.Forall₂ g.HoldsValue items vs) : Builds g x (.equality negated u vs)
  | nullCheck {x y : Operand} {negated : Bool} {u : Value}
      (node : g.node? x = some (.nullCheck negated y)) (value : g.HoldsValue y u) :
      Builds g x (.nullCheck negated u)
  | field {x : Operand} {n : Int} (node : g.node? x = some (.field (.lit (.integer n)))) :
      Builds g x (.field n)
  | reference {x : Operand} {name : String}
      (node : g.node? x = some (.reference (.lit (.text name)))) : Builds g x (.reference name)

variable {g G : Graph} {root x y : Operand}

theorem Builds.extend {c : Condition} (h : g.Builds x c) (hG : g.Extends G) : G.Builds x c := by
  induction h with
  | join node _ _ ihl ihr => exact .join (hG.node? node) ihl ihr
  | not node _ ih => exact .not (hG.node? node) ih
  | ordering node left right =>
    exact .ordering (hG.node? node) (hG.holdsValue left) (hG.holdsValue right)
  | equality node operand tuple compared =>
    exact .equality (hG.node? node) (hG.holdsValue operand) (hG.part? tuple)
      (compared.imp fun _ _ => hG.holdsValue)
  | nullCheck node value => exact .nullCheck (hG.node? node) (hG.holdsValue value)
  | field node => exact .field (hG.node? node)
  | reference node => exact .reference (hG.node? node)

/-! ### Rows in rows -/

theorem Extends.items?_eq (h : g.Extends G) (hx : g.Has x) : G.items? x = g.items? x := by
  unfold Graph.items?
  rw [h.part?_eq hx]

theorem IsClosed.items (hg : g.IsClosed) (hx : g.Has x) {items : List Operand}
    (hitems : g.items? x = some items) : ∀ y ∈ items, g.Has y := by
  unfold items? at hitems
  split at hitems
  · next hp => exact Option.some.inj hitems ▸ hg.part hx hp
  · next hp => exact Option.some.inj hitems ▸ hg.part hx hp
  · cases hitems

/-- An operand stands in rows that stand in each other, the nearest first and the last one a
root. -/
inductive Under (g : Graph) (root : Operand) : List Operand → Operand → Prop where
  | root : Under g root [] root
  | item {above : List Operand} {x y : Operand} (up : Under g root above x) (item : g.Item x y) :
      Under g root (x :: above) y

/-- Below a root there are rows in rows for more levels than are followed. -/
def IsTooDeep (g : Graph) (root : Operand) : Prop :=
  ∃ above x, g.Under root above x ∧ above.length = nestingLimit

theorem Under.inside {above : List Operand} (h : g.Under root above x) : g.Inside root x := by
  induction h with
  | root => exact .refl
  | item _ hitem ih => exact ih.tail hitem

theorem Under.transGen {above : List Operand} (h : g.Under root above x) (hy : y ∈ above) :
    Relation.TransGen g.Item y x := by
  induction h with
  | root => cases hy
  | item _ hitem ih =>
    rcases List.mem_cons.1 hy with rfl | hy
    · exact .single hitem
    · exact (ih hy).tail hitem

/-- No row holds itself, so that none is met again in the rows that it stands in. -/
theorem Under.notMem {above : List Operand} (h : g.Under root above x)
    (hroot : g.IsWellFounded root) : x ∉ above :=
  fun hx => hroot x h.inside (h.transGen hx)

/-- What stands in rows of a form is itself a form, the less deep the more rows there are. -/
theorem Under.exists_spells {above : List Operand} {form : Form} (h : g.Under root above x)
    (hroot : g.Spells root form) :
    ∃ inner : Form, g.Spells x inner ∧ inner.depth + above.length ≤ form.depth := by
  induction h with
  | root => exact ⟨form, hroot, Nat.le_refl _⟩
  | @item above x y _ hitem ih =>
    obtain ⟨outer, hx, hdepth⟩ := ih
    obtain ⟨items, hitems, hy⟩ := hitem
    cases outer with
    | literal v =>
      rw [spells_literal.1 hx] at hitems
      cases hitems
    | row forms =>
      obtain ⟨_, hitems', hall⟩ := spells_row.1 hx
      rw [hitems] at hitems'
      cases hitems'
      obtain ⟨inner, hinner, hspells⟩ := exists_of_forall₂ (spellAll_iff.1 hall) hy
      have hle := Form.depth_le_depthAll hinner
      rw [Form.depth] at hdepth
      refine ⟨inner, hspells, ?_⟩
      rw [List.length_cons]
      omega

/-- A raw form of fewer levels than are followed is not too deep. -/
theorem Spells.not_isTooDeep {form : Form} (h : g.Spells root form)
    (hdepth : form.depth < nestingLimit) : ¬ g.IsTooDeep root := by
  rintro ⟨above, x, hunder, hlength⟩
  obtain ⟨inner, _, hle⟩ := hunder.exists_spells h
  omega

end Graph

namespace RawForm

/-! ### Reading by the tag -/

/-- The reader that belongs to a tag. -/
def Head.read (condition : Place → Operand → Reading Operand) (arguments : List Operand)
    (place : Place) (head : Head) : Reading Operand :=
  let child i raw := condition (place ++ [.index i]) raw
  let value i raw := readValue (place ++ [.index i]) raw
  match head with
  | join k => readPair k.node head.tag child arguments place
  | not => readSingle .not head.tag child arguments place
  | ordering greater => readPair (.ordering greater) head.tag value arguments place
  | equality negated => readMembership (.equality negated) head.tag arguments place
  | nullCheck negated => readSingle (.nullCheck negated) head.tag value arguments place
  | reference => readReference arguments place
  | field => readField arguments place

section

variable {condition : Place → Operand → Reading Operand} {arguments : List Operand} {place : Place}

/-- A built-in tag is never looked up among the custom ones. -/
theorem readTagged_tag {ext : Extensions} (head : Head) :
    readTagged ext condition head.tag arguments place = head.read condition arguments place := by
  cases head with
  | join k => cases k <;> rfl
  | ordering greater => cases greater <;> rfl
  | equality negated | nullCheck negated => cases negated <;> rfl
  | _ => rfl

theorem readTagged_unknown {tag : String} (h : head? tag = none) :
    readTagged [] condition tag arguments place =
      refuse (.unknownTag (Text.Escaped.text tag)) place := by
  unfold readTagged
  unfold head? at h
  split <;> first | rfl | cases h

end

/-! ### Settled readings -/

/-- An operand is the value that a raw operand spells. -/
def ReadsValue (g G : Graph) (raw x : Operand) : Prop :=
  ∃ u : Value, u.IsPlain ∧ G.HoldsValue x u ∧ g.Spells raw u.form

/-- An operand is built as the condition that a raw operand spells. -/
def ReadsCondition (g G : Graph) (raw x : Operand) : Prop :=
  ∃ c : Condition, c.IsPlain ∧ G.Builds x c ∧ g.Spells raw c.form

/-- An operand is built as the condition that a tag and its arguments spell. -/
def ReadsTagged (g G : Graph) (tag : String) (arguments : List Operand) (x : Operand) : Prop :=
  ∃ (c : Condition) (forms : List Form), c.IsPlain ∧ G.Builds x c ∧
    c.form = .row (.literal (.text tag) :: forms) ∧ List.Forall₂ g.Spells arguments forms

/-- A memory has all of a graph, and of each row of it that was read the condition spelled there. -/
structure Memory.Faithful (g : Graph) (m : Memory) : Prop where
  graph : g.Extends m.graph
  known : ∀ n x, m.known[n]? = some x → ReadsCondition g m.graph (.part n) x

/-- From a graph on, a reading of raw forms either adds parts and nothing else, stays faithful and
gives what is asked of it; or refuses what is not as it should be; or gives up because the raw form
is too deep. -/
def Settles {α : Type} (g : Graph) (deep : Prop) (G : Graph) (good : Prop) (r : Reading α)
    (Q : Graph → α → Prop) : Prop :=
  ∀ m : Memory, m.Faithful g → G.Extends m.graph →
    (∃ a m', r m = .ok (a, m') ∧ m.graph.Extends m'.graph ∧ m'.Faithful g ∧ Q m'.graph a) ∨
    (∃ problem place, r m = .error (.malformed problem place) ∧ ¬ good) ∨
    r m = .error .nestedTooDeep ∧ deep

variable {α β : Type} {g G G' : Graph} {deep good : Prop} {raw x : Operand}

theorem ReadsValue.extend (h : ReadsValue g G raw x) (hG : G.Extends G') : ReadsValue g G' raw x :=
  have ⟨u, hplain, hu, hspells⟩ := h
  ⟨u, hplain, hG.holdsValue hu, hspells⟩

theorem ReadsCondition.extend (h : ReadsCondition g G raw x) (hG : G.Extends G') :
    ReadsCondition g G' raw x :=
  have ⟨c, hplain, hc, hspells⟩ := h
  ⟨c, hplain, hc.extend hG, hspells⟩

theorem ReadsTagged.readsCondition {tag : String} {arguments : List Operand}
    (h : ReadsTagged g G tag arguments x)
    (hitems : g.items? raw = some (.lit (.text tag) :: arguments)) : ReadsCondition g G raw x :=
  have ⟨c, _, hplain, hc, hform, hspells⟩ := h
  ⟨c, hplain, hc, hform ▸ Graph.spells_tagged.2 ⟨arguments, hitems, hspells⟩⟩

theorem exists_values {raws xs : List Operand} (h : List.Forall₂ (ReadsValue g G) raws xs) :
    ∃ us : List Value, (∀ u ∈ us, u.IsPlain) ∧ List.Forall₂ G.HoldsValue xs us ∧
      List.Forall₂ g.Spells raws (us.map Value.form) := by
  induction h with
  | nil => exact ⟨[], by simp, .nil, .nil⟩
  | cons hx _ ih =>
    obtain ⟨u, hplain, hu, hspells⟩ := hx
    obtain ⟨us, hplains, hus, hall⟩ := ih
    exact ⟨u :: us, List.forall_mem_cons.2 ⟨hplain, hplains⟩, .cons hu hus, .cons hspells hall⟩

/-- An operand is the node of a tag, made of what stands for its arguments as values and
conditions. -/
def Head.Makes (value condition : Operand → Operand → Prop) (G : Graph) (arguments : List Operand)
    (x : Operand) : Head → Prop
  | join k => ∃ l r y z, arguments = [l, r] ∧ G.node? x = some (k.node y z) ∧ condition l y ∧
      condition r z
  | not => ∃ y z, arguments = [y] ∧ G.node? x = some (.not z) ∧ condition y z
  | ordering greater => ∃ l r y z, arguments = [l, r] ∧
      G.node? x = some (.ordering greater y z) ∧ value l y ∧ value r z
  | equality negated => ∃ y raws operand values xs, arguments = y :: raws ∧ raws ≠ [] ∧
      G.node? x = some (.equality negated operand values) ∧ value y operand ∧
      G.part? values = some (.tuple xs) ∧ List.Forall₂ value raws xs
  | nullCheck negated => ∃ y z, arguments = [y] ∧ G.node? x = some (.nullCheck negated z) ∧
      value y z
  | reference => ∃ name, arguments = [.lit (.text name)] ∧
      G.node? x = some (.reference (.lit (.text name)))
  | field => ∃ n, arguments = [.lit (.integer n)] ∧ G.node? x = some (.field (.lit (.integer n)))

/-- A node of what its arguments spell is the condition that they spell with the tag. -/
theorem Head.Makes.readsTagged {head : Head} {arguments : List Operand}
    (h : head.Makes (ReadsValue g G) (ReadsCondition g G) G arguments x) :
    ReadsTagged g G head.tag arguments x := by
  cases head with
  | join k =>
    obtain ⟨l, r, y, z, rfl, hx, ⟨c, hc, hy, hl⟩, d, hd, hz, hr⟩ := h
    exact ⟨.join k c d, _, ⟨hc, hd⟩, .join hx hy hz, rfl, .cons hl (.cons hr .nil)⟩
  | not =>
    obtain ⟨y, z, rfl, hx, c, hc, hz, hy⟩ := h
    exact ⟨.not c, _, hc, .not hx hz, rfl, .cons hy .nil⟩
  | ordering greater =>
    obtain ⟨l, r, y, z, rfl, hx, ⟨u, hu, hy, hl⟩, v, hv, hz, hr⟩ := h
    exact ⟨.ordering greater u v, _, ⟨hu, hv⟩, .ordering hx hy hz, rfl,
      .cons hl (.cons hr .nil)⟩
  | equality negated =>
    obtain ⟨y, raws, operand, values, xs, rfl, hne, hx, ⟨u, hu, hoperand, hy⟩, htuple, hxs⟩ := h
    obtain ⟨vs, hvs, hcompared, hraws⟩ := exists_values hxs
    refine ⟨.equality negated u vs, _, ⟨hu, ?_, hvs⟩, .equality hx hoperand htuple hcompared, rfl,
      .cons hy hraws⟩
    -- there are as many values as raw ones, and of those there is one at least
    rintro rfl
    cases hraws
    exact hne rfl
  | nullCheck negated =>
    obtain ⟨y, z, rfl, hx, u, hu, hz, hy⟩ := h
    exact ⟨.nullCheck negated u, _, hu, .nullCheck hx hz, rfl, .cons hy .nil⟩
  | reference =>
    obtain ⟨name, rfl, hx⟩ := h
    exact ⟨.reference name, _, trivial, .reference hx, rfl,
      .cons (Graph.spells_literal.2 rfl) .nil⟩
  | field =>
    obtain ⟨n, rfl, hx⟩ := h
    exact ⟨.field n, _, trivial, .field hx, rfl, .cons (Graph.spells_literal.2 rfl) .nil⟩

theorem Memory.Faithful.of_known? {m : Memory} (h : m.Faithful g)
    (hx : known? m raw = some x) : ReadsCondition g m.graph raw x := by
  cases raw with
  | lit v => cases hx
  | part n => exact h.known n x hx

theorem Memory.Faithful.extend {m : Memory} (h : m.Faithful g) (hG : m.graph.Extends G) :
    Memory.Faithful g ⟨G, m.known⟩ :=
  ⟨h.graph.trans hG, fun n x hx => (h.known n x hx).extend hG⟩

namespace Settles

variable {r : Reading α} {Q : Graph → α → Prop} {R : Graph → β → Prop}

theorem mono (h : Settles g deep G good r Q) {Q' : Graph → α → Prop}
    (hQ : ∀ G' a, G.Extends G' → Q G' a → Q' G' a) : Settles g deep G good r Q' := by
  intro m hm hG
  rcases h m hm hG with ⟨a, m', hrun, hm', hfaithful, ha⟩ | h | h
  · exact .inl ⟨a, m', hrun, hm', hfaithful, hQ _ a (hG.trans hm') ha⟩
  · exact .inr (.inl h)
  · exact .inr (.inr h)

/-- What is refused for less is refused for more. -/
theorem weaken {good' : Prop} (h : Settles g deep G good r Q) (hgood : good' → good) :
    Settles g deep G good' r Q := by
  intro m hm hG
  rcases h m hm hG with h | ⟨problem, place, hrun, hbad⟩ | h
  · exact .inl h
  · exact .inr (.inl ⟨problem, place, hrun, fun h => hbad (hgood h)⟩)
  · exact .inr (.inr h)

/-- Two readings in a row: the second one goes on from what the first one gives. -/
theorem bind {f : α → Reading β} (h : Settles g deep G good r Q)
    (hf : ∀ G' a, G.Extends G' → Q G' a → Settles g deep G' good (f a) R) :
    Settles g deep G good (r >>= f) R := by
  intro m hm hG
  have hbind : (r >>= f) m = r m >>= fun p => f p.1 p.2 := rfl
  rcases h m hm hG with ⟨a, m', hrun, hm', hfaithful, ha⟩ | ⟨problem, place, hrun, hbad⟩ |
    ⟨hrun, hdeep⟩
  · rw [hbind, hrun, ok_bind]
    rcases hf m'.graph a (hG.trans hm') ha m' hfaithful (.refl _) with
      ⟨b, m'', hrun', hm'', hfaithful', hb⟩ | h | h
    · exact .inl ⟨b, m'', hrun', hm'.trans hm'', hfaithful', hb⟩
    · exact .inr (.inl h)
    · exact .inr (.inr h)
  · exact .inr (.inl ⟨problem, place, by rw [hbind, hrun, error_bind], hbad⟩)
  · exact .inr (.inr ⟨by rw [hbind, hrun, error_bind], hdeep⟩)

theorem pure {a : α} (h : ∀ G', G.Extends G' → Q G' a) : Settles g deep G good (Pure.pure a) Q :=
  fun m hm hG => .inl ⟨a, m, rfl, .refl _, hm, h _ hG⟩

theorem refuse {problem : Problem} {place : Place} (h : ¬ good) :
    Settles g deep G good (RawForm.refuse problem place) Q :=
  fun _ _ _ => .inr (.inl ⟨_, _, rfl, h⟩)

theorem giveUp (h : deep) : Settles g deep G good (throw .nestedTooDeep) Q :=
  fun _ _ _ => .inr (.inr ⟨rfl, h⟩)

theorem wrongCount {tag : String} {expected : Nat} {arguments : List Operand} {place : Place}
    (h : ¬ good) : Settles g deep G good (RawForm.wrongCount tag expected arguments place) Q :=
  .refuse h

/-- What is looked up is of some graph that the reading goes on from. -/
theorem look {f : Memory → α} {k : α → Reading β}
    (h : ∀ m, m.Faithful g → G.Extends m.graph → Settles g deep m.graph good (k (f m)) R) :
    Settles g deep G good (RawForm.look f >>= k) R :=
  fun m hm hG => h m hm hG m hm (.refl _)

theorem addPart (p : Part) :
    Settles g deep G good (RawForm.addPart p) fun G' x => G'.part? x = some p := by
  intro m hm hG
  have hadd := m.graph.extends_add p
  refine .inl ⟨_, _, rfl, hadd, hm.extend hadd, ?_⟩
  simp [Graph.part?, Graph.get?]

theorem addNode (n : Node) :
    Settles g deep G good (RawForm.addNode n) fun G' x => G'.node? x = some n :=
  (Settles.addPart (.node n)).mono fun G' x _ hx => by simp only [Graph.node?, hx]

theorem remember {node : Operand} (h : ReadsCondition g G raw node) :
    Settles g deep G good (RawForm.remember raw node) fun _ _ => True := by
  intro m hm hG
  cases raw with
  | lit v => exact .inl ⟨_, _, rfl, .refl _, hm, trivial⟩
  | part n =>
    refine .inl ⟨_, _, rfl, .refl _, ⟨hm.graph, fun k x hx => ?_⟩, trivial⟩
    rw [Std.HashMap.getElem?_insert] at hx
    split at hx
    · next hk =>
      cases hx
      rw [← eq_of_beq hk]
      exact h.extend hG
    · exact hm.known k x hx

/-! ### Values -/

theorem readField (arguments : List Operand) (place : Place) :
    Settles g deep G (∃ n, arguments = [.lit (.integer n)]) (RawForm.readField arguments place)
      fun G' x => ∃ n, arguments = [.lit (.integer n)] ∧
        G'.node? x = some (.field (.lit (.integer n))) := by
  unfold RawForm.readField
  split
  · next n => exact (Settles.addNode _).mono fun G' x _ hx => ⟨n, rfl, hx⟩
  · next hn =>
    refine .refuse fun ⟨n, h⟩ => hn n ?_
    exact (List.cons.inj h).1
  · next hn _ =>
    refine .wrongCount fun ⟨n, h⟩ => hn n h

theorem readValue (hraw : g.Has raw) (place : Place) :
    Settles g deep G (g.IsValueForm raw) (RawForm.readValue place raw) fun G' x =>
      ReadsValue g G' raw x := by
  unfold RawForm.readValue
  refine .look fun m hm hG => ?_
  rw [hm.graph.items?_eq hraw]
  cases raw with
  | lit v =>
    dsimp only
    split
    · next hv =>
      exact .pure fun G' _ =>
        ⟨.literal v, RawForm.isScalar_iff.1 hv, .literal v, Graph.spells_literal.2 rfl⟩
    · next hv =>
      refine .refuse fun h => ?_
      cases h with
      | literal scalar => exact hv (RawForm.isScalar_iff.2 scalar)
      | field items => cases items
  | part n =>
    dsimp only
    split
    · next heq => cases heq
    · next arguments hitems _ =>
      refine ((Settles.readField arguments place).mono ?_).weaken ?_
      · rintro G' x _ ⟨n, rfl, hx⟩
        refine ⟨.field n, trivial, .field hx, Graph.spells_tagged.2 ⟨_, hitems, ?_⟩⟩
        exact .cons (Graph.spells_literal.2 rfl) .nil
      · intro h
        cases h with
        | field items =>
          rw [hitems] at items
          cases items
          exact ⟨_, rfl⟩
    · next hne =>
      refine .refuse fun h => ?_
      cases h with
      | field items => exact hne _ items

theorem readValues {raws : List Operand} (hraws : ∀ raw ∈ raws, g.Has raw) (place : Place)
    (i : Nat) :
    Settles g deep G (∀ raw ∈ raws, g.IsValueForm raw) (RawForm.readValues place i raws)
      fun G' xs => List.Forall₂ (ReadsValue g G') raws xs := by
  induction raws generalizing G i with
  | nil => exact .pure fun _ _ => .nil
  | cons raw rest ih =>
    simp only [List.forall_mem_cons] at hraws ⊢
    refine ((Settles.readValue hraws.1 _).weaken And.left).bind fun G₁ x _ hx =>
      ((ih hraws.2 (i + 1)).weaken And.right).bind fun G₂ xs hG₂ hxs => .pure fun G₃ hG₃ => ?_
    exact .cons (hx.extend (hG₂.trans hG₃)) (hxs.imp fun _ _ h => h.extend hG₃)

/-! ### Conditions -/

section Arguments

variable {F : Operand → Prop} {D : Graph → Operand → Operand → Prop} {arguments : List Operand}

/-- What two readings give, put into one node. -/
theorem readPair {child : Nat → Operand → Reading Operand}
    (hD : ∀ {G G' raw x}, D G raw x → G.Extends G' → D G' raw x)
    (hchild : ∀ G i, ∀ raw ∈ arguments,
      Settles g deep G (F raw) (child i raw) fun G' x => D G' raw x)
    (make : Operand → Operand → Node) (tag : String) (place : Place) :
    Settles g deep G (∃ l r, arguments = [l, r] ∧ F l ∧ F r)
      (RawForm.readPair make tag child arguments place) fun G' x =>
        ∃ l r y z, arguments = [l, r] ∧ G'.node? x = some (make y z) ∧ D G' l y ∧ D G' r z := by
  unfold RawForm.readPair
  split
  · next l r =>
    have hgood : (∃ l' r', [l, r] = [l', r'] ∧ F l' ∧ F r') → F l ∧ F r := by
      rintro ⟨_, _, h, hboth⟩
      cases h
      exact hboth
    refine ((hchild _ 1 l (by simp)).weaken fun h => (hgood h).1).bind fun G₁ y _ hy =>
      ((hchild _ 2 r (by simp)).weaken fun h => (hgood h).2).bind fun G₂ z hG₂ hz =>
      (Settles.addNode _).mono fun G₃ x hG₃ hx => ?_
    exact ⟨l, r, y, z, rfl, hx, hD hy (hG₂.trans hG₃), hD hz hG₃⟩
  · next hne => exact .wrongCount fun ⟨l, r, h, _⟩ => hne l r h

theorem readSingle {argument : Nat → Operand → Reading Operand}
    (hD : ∀ {G G' raw x}, D G raw x → G.Extends G' → D G' raw x)
    (hargument : ∀ G i, ∀ raw ∈ arguments,
      Settles g deep G (F raw) (argument i raw) fun G' x => D G' raw x)
    (make : Operand → Node) (tag : String) (place : Place) :
    Settles g deep G (∃ y, arguments = [y] ∧ F y)
      (RawForm.readSingle make tag argument arguments place) fun G' x =>
        ∃ y z, arguments = [y] ∧ G'.node? x = some (make z) ∧ D G' y z := by
  unfold RawForm.readSingle
  split
  · next y =>
    have hgood : (∃ y', [y] = [y'] ∧ F y') → F y := by
      rintro ⟨_, h, hy⟩
      cases h
      exact hy
    refine ((hargument _ 1 y (by simp)).weaken hgood).bind fun G₁ z _ hz =>
      (Settles.addNode _).mono fun G₂ x hG₂ hx => ?_
    exact ⟨y, z, rfl, hx, hD hz hG₂⟩
  · next hne => exact .wrongCount fun ⟨y, h, _⟩ => hne y h

variable (harguments : ∀ raw ∈ arguments, g.Has raw)

include harguments

theorem readMembership (negated : Bool) (tag : String) (place : Place) :
    Settles g deep G
      (∃ y z rest, arguments = y :: z :: rest ∧ g.IsValueForm y ∧
        ∀ w ∈ z :: rest, g.IsValueForm w)
      (RawForm.readMembership (.equality negated) tag arguments place) fun G' x =>
        ∃ y raws operand values xs, arguments = y :: raws ∧ raws ≠ [] ∧
          G'.node? x = some (.equality negated operand values) ∧ ReadsValue g G' y operand ∧
          G'.part? values = some (.tuple xs) ∧ List.Forall₂ (ReadsValue g G') raws xs := by
  unfold RawForm.readMembership
  split
  · next y z rest =>
    rw [List.forall_mem_cons] at harguments
    have hgood : (∃ y' z' rest', y :: z :: rest = y' :: z' :: rest' ∧ g.IsValueForm y' ∧
        ∀ w ∈ z' :: rest', g.IsValueForm w) →
        g.IsValueForm y ∧ ∀ w ∈ z :: rest, g.IsValueForm w := by
      rintro ⟨_, _, _, h, hboth⟩
      cases h
      exact hboth
    refine ((Settles.readValue harguments.1 _).weaken fun h => (hgood h).1).bind
      fun G₁ operand _ hoperand =>
      ((Settles.readValues harguments.2 _ 2).weaken fun h => (hgood h).2).bind
      fun G₂ xs hG₂ hxs => (Settles.addPart _).bind fun G₃ values hG₃ hvalues =>
      (Settles.addNode _).mono fun G₄ x hG₄ hx => ?_
    exact ⟨y, z :: rest, operand, values, xs, rfl, by simp, hx,
      hoperand.extend (hG₂.trans (hG₃.trans hG₄)), hG₄.part? hvalues,
      hxs.imp fun _ _ h => h.extend (hG₃.trans hG₄)⟩
  · next hne => exact .refuse fun ⟨y, z, rest, h, _⟩ => hne y z rest h

omit harguments in
theorem readReference (place : Place) :
    Settles g deep G (∃ name, arguments = [.lit (.text name)])
      (RawForm.readReference arguments place) fun G' x =>
        ∃ name, arguments = [.lit (.text name)] ∧
          G'.node? x = some (.reference (.lit (.text name))) := by
  unfold RawForm.readReference
  split
  · next name => exact (Settles.addNode _).mono fun G' x _ hx => ⟨name, rfl, hx⟩
  · next hname => exact .refuse fun ⟨name, h⟩ => hname name (List.cons.inj h).1
  · next hne => exact .wrongCount fun ⟨name, h⟩ => hne _ h

/-- A tag and what follows it are read together as a condition. -/
theorem readHead {condition : Place → Operand → Reading Operand}
    (hcondition : ∀ G place, ∀ raw ∈ arguments, Settles g deep G (F raw) (condition place raw)
      fun G' x => ReadsCondition g G' raw x) (head : Head) (place : Place) :
    Settles g deep G (head.Fits g.IsValueForm F arguments) (head.read condition arguments place)
      fun G' x => ReadsTagged g G' head.tag arguments x := by
  have hchild (G : Graph) (i : Nat) (raw : Operand) (hraw : raw ∈ arguments) :=
    hcondition G (place ++ [.index i]) raw hraw
  have hvalue (G : Graph) (i : Nat) (raw : Operand) (hraw : raw ∈ arguments) :
      Settles g deep G (g.IsValueForm raw) (RawForm.readValue (place ++ [.index i]) raw) fun G' x =>
        ReadsValue g G' raw x :=
    .readValue (harguments raw hraw) _
  refine Settles.mono ?_ fun _ _ _ => Head.Makes.readsTagged
  cases head with
  | join k => exact Settles.readPair .extend hchild k.node _ place
  | not => exact Settles.readSingle .extend hchild .not _ place
  | ordering greater => exact Settles.readPair .extend hvalue (.ordering greater) _ place
  | equality negated => exact Settles.readMembership harguments negated _ place
  | nullCheck negated => exact Settles.readSingle .extend hvalue (.nullCheck negated) _ place
  | reference => exact Settles.readReference place
  | field => exact Settles.readField arguments place

/-- A row with a tag is read as the condition that it spells. -/
theorem readTagged {t : String} (hitems : g.items? raw = some (.lit (.text t) :: arguments))
    {condition : Place → Operand → Reading Operand}
    (hcondition : ∀ G place, ∀ raw ∈ arguments, Settles g deep G (g.IsForm raw)
      (condition place raw) fun G' x => ReadsCondition g G' raw x) (place : Place) :
    Settles g deep G (g.IsForm raw) (RawForm.readTagged [] condition t arguments place)
      fun G' x => ReadsCondition g G' raw x := by
  cases hhead : head? t with
  | none =>
    rw [readTagged_unknown hhead]
    refine .refuse fun h => ?_
    obtain ⟨head, htag, _⟩ := h.fits hitems
    cases htag
    rw [head?_tag] at hhead
    cases hhead
  | some head =>
    obtain rfl := head?_eq_some_iff.1 hhead
    rw [readTagged_tag]
    exact ((Settles.readHead harguments hcondition head place).weaken
      fun h => h.fits_of_tag hitems).mono fun G' x _ hx => hx.readsCondition hitems

end Arguments

/-- A condition below a root of closed data in which no row holds itself is read from its raw
form. -/
theorem readCondition {root : Operand} (hg : g.IsClosed) (hroot : g.IsWellFounded root)
    {room : Nat} {above : List Operand} (place : Place) (hraw : g.Has raw)
    (habove : g.Under root above raw) (hroom : above.length + room = nestingLimit) :
    Settles g (g.IsTooDeep root) G (g.IsForm raw)
      (RawForm.readCondition [] room above place raw) fun G' x => ReadsCondition g G' raw x := by
  induction room generalizing G above place raw with
  | zero => exact .giveUp ⟨above, raw, habove, hroom⟩
  | succ room ih =>
    rw [RawForm.readCondition]
    refine .look fun m hm _ => ?_
    rw [hm.graph.items?_eq hraw]
    split
    · next hitems => exact .refuse (Graph.not_isForm (by simp [hitems]))
    · next hitems => exact .refuse (Graph.not_isForm (by simp [hitems]))
    · next tag arguments hitems =>
      have harguments : ∀ y ∈ arguments, g.Has y := fun y hy =>
        hg.items hraw hitems y (List.mem_cons_of_mem _ hy)
      have hbelow : ∀ y ∈ arguments, g.Under root (raw :: above) y := fun y hy =>
        habove.item ⟨_, hitems, List.mem_cons_of_mem _ hy⟩
      -- what stands in itself is not met here, so that no reading ends as circular
      rw [if_neg (habove.notMem hroot)]
      refine .look fun m₁ hm₁ _ => ?_
      split
      · next node hnode => exact .pure fun G' hG' => (hm₁.of_known? hnode).extend hG'
      · split
        · next t =>
          have hroom : (raw :: above).length + room = nestingLimit := by
            rw [List.length_cons]
            omega
          refine (Settles.readTagged harguments hitems (fun G place y hy =>
            ih place (harguments y hy) (hbelow y hy) hroom) place).bind fun G₂ node _ hnode => ?_
          exact (Settles.remember hnode).bind fun G₃ _ hG₃ _ =>
            .pure fun G₄ hG₄ => hnode.extend (hG₃.trans hG₄)
        · next hne =>
          refine .refuse fun h => ?_
          obtain ⟨head, htag, _⟩ := h.fits hitems
          exact hne _ htag

end Settles

/-! ### What a whole reading comes to -/

/-- A raw form is read, or it is none and refused as such, or it is too deep. -/
theorem read_cases (hg : g.IsClosed) (hraw : g.Has raw) (hrows : g.IsWellFounded raw) :
    (∃ x G, read [] g raw = .ok (x, G) ∧ g.Extends G ∧ ReadsCondition g G raw x) ∨
    (∃ problem place, read [] g raw = .error (.malformed problem place) ∧ ¬ g.IsForm raw) ∨
    read [] g raw = .error .nestedTooDeep ∧ g.IsTooDeep raw := by
  have hfaithful : Memory.Faithful g ⟨g, {}⟩ := ⟨.refl g, by simp⟩
  have hread : read [] g raw = readCondition [] nestingLimit [] [] raw ⟨g, {}⟩ >>= fun p =>
      .ok (p.1, p.2.graph) := rfl
  rcases Settles.readCondition hg hrows [] hraw .root (Nat.zero_add _) ⟨g, {}⟩ hfaithful
    (.refl g) with ⟨x, m, hrun, hG, _, hx⟩ | ⟨problem, place, hrun, hbad⟩ | ⟨hrun, hdeep⟩
  · exact .inl ⟨x, m.graph, by rw [hread, hrun, ok_bind], hG, hx⟩
  · exact .inr (.inl ⟨problem, place, by rw [hread, hrun, error_bind], hbad⟩)
  · exact .inr (.inr ⟨by rw [hread, hrun, error_bind], hdeep⟩)

theorem ReadsCondition.isForm (h : ReadsCondition g G raw x) : g.IsForm raw :=
  have ⟨_, hplain, _, hspells⟩ := h
  Graph.isForm_of_spells hspells hplain

/-- The raw form of a condition is read as that condition. -/
theorem read_of_spells {c : Condition} (hg : g.IsClosed) (hraw : g.Has raw) (hc : c.IsPlain)
    (hspells : g.Spells raw c.form) (hdeep : read [] g raw ≠ .error .nestedTooDeep) :
    ∃ x G, read [] g raw = .ok (x, G) ∧ g.Extends G ∧ G.Builds x c := by
  rcases read_cases hg hraw hspells.isWellFounded with
    ⟨x, G, hread, hG, d, _, hx, hspells'⟩ | ⟨_, _, _, hbad⟩ | ⟨hread, _⟩
  · exact ⟨x, G, hread, hG, Condition.form_injective (hspells'.unique hspells) ▸ hx⟩
  · exact absurd (Graph.isForm_of_spells hspells hc) hbad
  · exact absurd hread hdeep

/-- What is of the grammar is read and the rest is refused as malformed, unless it is too deep. What
is read is the condition that the raw form spells, and each condition can be spelled and is read
from whatever spells it. -/
theorem read_accepts (hg : g.IsClosed) (hraw : g.Has raw) (hrows : g.IsWellFounded raw) :
    (read [] g raw ≠ .error .nestedTooDeep →
      ((∃ p, read [] g raw = .ok p) ↔ g.IsForm raw) ∧
      (¬ g.IsForm raw → ∃ problem place, read [] g raw = .error (.malformed problem place))) ∧
    (read [] g raw = .error .nestedTooDeep → g.IsTooDeep raw) ∧
    (∀ x G, read [] g raw = .ok (x, G) →
      g.Extends G ∧ ∃ c : Condition, c.IsPlain ∧ G.Builds x c ∧ g.Spells raw c.form) ∧
    ∀ c : Condition, c.IsPlain →
      (∃ G y, g.Extends G ∧ G.IsClosed ∧ G.Has y ∧ G.Spells y c.form) ∧
      ∀ G y, G.IsClosed → G.Has y → G.Spells y c.form →
        read [] G y ≠ .error .nestedTooDeep →
        ∃ x G', read [] G y = .ok (x, G') ∧ G.Extends G' ∧ G'.Builds x c := by
  have hcases := read_cases hg hraw hrows
  refine ⟨fun hdeep => ?_, fun hread => ?_, fun x G hread => ?_, fun c hc =>
    ⟨Graph.exists_spells c.form hg, fun G y hG hy hspells hdeep =>
      read_of_spells hG hy hc hspells hdeep⟩⟩
  · rcases hcases with ⟨x, G, hread, _, hx⟩ | ⟨problem, place, hread, hbad⟩ | ⟨hread, _⟩
    · exact ⟨iff_of_true ⟨_, hread⟩ hx.isForm, fun h => absurd hx.isForm h⟩
    · refine ⟨iff_of_false (fun ⟨p, hp⟩ => ?_) hbad, fun _ => ⟨problem, place, hread⟩⟩
      rw [hread] at hp
      cases hp
    · exact absurd hread hdeep
  · rw [hread] at hcases
    simpa using hcases
  · rw [hread] at hcases
    simp only [reduceCtorEq, false_and, exists_false, or_false] at hcases
    obtain ⟨_, _, heq, hG, hx⟩ := hcases
    cases heq
    exact ⟨hG, hx⟩

/-- A comparison that stands twice in one row, once behind a negation. -/
def sharedRow : Graph :=
  ⟨#[.tuple [.lit (.text "field"), .lit (.integer 2)],
    .list [.lit (.text "="), .part 0, .lit (.text "x"), .lit .null],
    .list [.lit (.text "not"), .part 1], .tuple [.lit (.text "or"), .part 1, .part 2]]⟩

/-- What the shared comparison is. -/
def sharedComparison : Condition :=
  .equality false (.field 2) [.literal (.text "x"), .literal .null]

theorem sharedRow_accepts :
    sharedRow.IsClosed ∧ sharedRow.Has (.part 3) ∧ sharedRow.IsWellFounded (.part 3) ∧
      sharedRow.IsForm (.part 3) ∧ ∃ x G, read [] sharedRow (.part 3) = .ok (x, G) ∧
        sharedRow.Extends G ∧ G.Builds x (.join .or sharedComparison (.not sharedComparison)) := by
  have hg : sharedRow.IsClosed := by decide
  have hraw : sharedRow.Has (.part 3) := by decide
  have hplain : sharedComparison.IsPlain := by
    refine ⟨trivial, by simp, fun v hv => ?_⟩
    rcases List.mem_pair.1 hv with rfl | rfl
    · exact .text "x"
    · exact .null
  have hspells : sharedRow.Spells (.part 1) sharedComparison.form := by
    refine Graph.spells_tagged.2 ⟨_, rfl, .cons (Graph.spells_tagged.2 ⟨_, rfl, ?_⟩) ?_⟩
    · exact .cons (Graph.spells_literal.2 rfl) .nil
    · exact .cons (Graph.spells_literal.2 rfl) (.cons (Graph.spells_literal.2 rfl) .nil)
  have hroot : sharedRow.Spells (.part 3)
      (Condition.join .or sharedComparison (.not sharedComparison)).form :=
    Graph.spells_tagged.2 ⟨_, rfl, .cons hspells
      (.cons (Graph.spells_tagged.2 ⟨_, rfl, .cons hspells .nil⟩) .nil)⟩
  obtain ⟨haccepts, htooDeep, _, hreads⟩ := read_accepts hg hraw hroot.isWellFounded
  have hdeep : read [] sharedRow (.part 3) ≠ .error .nestedTooDeep := fun h =>
    hroot.not_isTooDeep (by decide) (htooDeep h)
  obtain ⟨x, G, hread, hG, hx⟩ :=
    (hreads (.join .or sharedComparison (.not sharedComparison)) ⟨hplain, hplain⟩).2 _ _ hg hraw
      hroot hdeep
  exact ⟨hg, hraw, hroot.isWellFounded, (haccepts hdeep).1.1 ⟨_, hread⟩, x, G, hread, hG, hx⟩

end RawForm

end FilterCompiler
