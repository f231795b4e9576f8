import FilterCompiler.Proofs.Meaning
import FilterCompiler.RawForm

/-! What reading a raw form gives. Reading only adds parts, and remembers of each list the node
that it gave. Proved here, for readings without custom tags: the root that is read holds a
condition, whose literals are scalars that stand inside the raw form and whose field numbers are
integers that do. -/

namespace FilterCompiler

/-! ### What stands inside a raw form -/

namespace Graph

/-- What a list or one of the lists in it holds, the operand itself counted. -/
def Inside (g : Graph) : Operand → Operand → Prop :=
  Relation.ReflTransGen fun x y => ∃ items, g.items? x = some items ∧ y ∈ items

/-- Literals are scalars inside raw forms, and numbers are integers there. -/
structure Supplies (g : Graph) (raws : List Operand) (literals : List Literal)
    (numbers : List Int) : Prop where
  literals : ∀ v ∈ literals, RawForm.isScalar v = true ∧ ∃ raw ∈ raws, g.Inside raw (.lit v)
  numbers : ∀ n ∈ numbers, ∃ raw ∈ raws, g.Inside raw (.lit (.integer n))

variable {g g' : Graph} {raws raws' : List Operand} {literals literals' : List Literal}
  {numbers numbers' : List Int}

theorem Extends.items? (h : g.Extends g') {x : Operand} {items : List Operand}
    (hx : g.items? x = some items) : g'.items? x = some items := by
  unfold Graph.items? at hx
  split at hx
  · next hp => rw [Graph.items?, h.part? hp]; exact hx
  · next hp => rw [Graph.items?, h.part? hp]; exact hx
  · cases hx

theorem mem_parts_of_items? (g : Graph) {x : Operand} {items : List Operand}
    (h : g.items? x = some items) : .list items ∈ g.parts ∨ .tuple items ∈ g.parts := by
  cases x with
  | lit v => cases h
  | part n =>
    unfold Graph.items? at h
    split at h
    · next hp => exact .inl (Option.some.inj h ▸ Array.mem_of_getElem? hp)
    · next hp => exact .inr (Option.some.inj h ▸ Array.mem_of_getElem? hp)
    · cases h

theorem Extends.inside (h : g.Extends g') {x y : Operand} (hxy : g.Inside x y) : g'.Inside x y :=
  hxy.lift id fun _ _ ⟨items, hitems, hy⟩ => ⟨items, h.items? hitems, hy⟩

namespace Supplies

theorem nil : g.Supplies raws [] [] := ⟨by simp, by simp⟩

theorem append (h : g.Supplies raws literals numbers) (h' : g.Supplies raws literals' numbers') :
    g.Supplies raws (literals ++ literals') (numbers ++ numbers') where
  literals v hv := (List.mem_append.1 hv).elim (h.literals v) (h'.literals v)
  numbers n hn := (List.mem_append.1 hn).elim (h.numbers n) (h'.numbers n)

theorem flatMap {us : List Value} (h : ∀ u ∈ us, g.Supplies raws u.literals u.fields) :
    g.Supplies raws (us.flatMap Value.literals) (us.flatMap Value.fields) where
  literals v hv := by
    obtain ⟨u, hu, hv⟩ := List.mem_flatMap.1 hv
    exact (h u hu).literals v hv
  numbers n hn := by
    obtain ⟨u, hu, hn⟩ := List.mem_flatMap.1 hn
    exact (h u hu).numbers n hn

/-- What raw forms supply is supplied by those that they stand in, also when parts are added. -/
theorem widen (h : g.Supplies raws literals numbers) (hg : g.Extends g')
    (hraws : ∀ raw ∈ raws, ∃ raw' ∈ raws', g'.Inside raw' raw) :
    g'.Supplies raws' literals numbers := by
  have hinside {v : Literal} (hv : ∃ raw ∈ raws, g.Inside raw (.lit v)) :
      ∃ raw ∈ raws', g'.Inside raw (.lit v) := by
    obtain ⟨raw, hraw, hv⟩ := hv
    obtain ⟨raw', hraw', hin⟩ := hraws raw hraw
    exact ⟨raw', hraw', hin.trans (hg.inside hv)⟩
  exact ⟨fun v hv => ⟨(h.literals v hv).1, hinside (h.literals v hv).2⟩,
    fun n hn => hinside (h.numbers n hn)⟩

theorem extend (h : g.Supplies raws literals numbers) (hg : g.Extends g') (hraws : raws ⊆ raws') :
    g'.Supplies raws' literals numbers :=
  h.widen hg fun raw hraw => ⟨raw, hraws hraw, .refl⟩

/-- What the elements of a list supply is supplied by the list. -/
theorem of_items {raw tag : Operand} (h : g.Supplies raws literals numbers)
    (hraw : g.items? raw = some (tag :: raws)) : g.Supplies [raw] literals numbers :=
  h.widen (.refl g) fun x hx => ⟨raw, by simp, .single ⟨_, hraw, by simp [hx]⟩⟩

end Supplies

end Graph

/-! ### Steps of reading -/

namespace RawForm

/-- An operand is a value that raw forms supply. -/
def IsValue (g : Graph) (raws : List Operand) (x : Operand) : Prop :=
  ∃ u, g.HoldsValue x u ∧ g.Supplies raws u.literals u.fields

/-- An operand holds a condition that raw forms supply. -/
def IsCondition (g : Graph) (raws : List Operand) (x : Operand) : Prop :=
  ∃ c, g.Holds x c ∧ g.Supplies raws c.literals c.fields

/-- Every list that was read has a node that holds a condition from inside the list. -/
def Memory.Sound (m : Memory) : Prop :=
  ∀ n x, m.known[n]? = some x → IsCondition m.graph [.part n] x

/-- From a graph on, a reading adds parts and nothing else, keeps the memory sound, and gives what
is asked of it. -/
def Yields {α : Type} (g : Graph) (r : Reading α) (Q : Graph → α → Prop) : Prop :=
  ∀ m a m', m.Sound → g.Extends m.graph → r m = .ok (a, m') →
    m.graph.Extends m'.graph ∧ m'.Sound ∧ Q m'.graph a

variable {α β : Type} {g g' : Graph} {raws raws' : List Operand} {x : Operand}

theorem IsValue.extend (h : IsValue g raws x) (hg : g.Extends g') (hraws : raws ⊆ raws') :
    IsValue g' raws' x :=
  have ⟨u, hu, hsupplies⟩ := h
  ⟨u, hg.holdsValue hu, hsupplies.extend hg hraws⟩

theorem IsCondition.extend (h : IsCondition g raws x) (hg : g.Extends g') (hraws : raws ⊆ raws') :
    IsCondition g' raws' x :=
  have ⟨c, hc, hsupplies⟩ := h
  ⟨c, hg.holds hc, hsupplies.extend hg hraws⟩

theorem Memory.Sound.extend {m : Memory} (h : m.Sound) (hg : m.graph.Extends g) :
    Memory.Sound ⟨g, m.known⟩ :=
  fun n x hx => (h n x hx).extend hg (List.Subset.refl _)

namespace Yields

variable {r : Reading α} {Q : Graph → α → Prop} {R : Graph → β → Prop}

theorem mono (h : Yields g r Q) {Q' : Graph → α → Prop}
    (hQ : ∀ g' a, g.Extends g' → Q g' a → Q' g' a) : Yields g r Q' := by
  intro m a m' hm hg hrun
  obtain ⟨hg', hm', ha⟩ := h m a m' hm hg hrun
  exact ⟨hg', hm', hQ _ a (hg.trans hg') ha⟩

/-- Two readings in a row: the second one goes on from what the first one gives. -/
theorem bind {f : α → Reading β} (h : Yields g r Q)
    (hf : ∀ g' a, g.Extends g' → Q g' a → Yields g' (f a) R) : Yields g (r >>= f) R := by
  intro m b m' hm hg hrun
  have hrun : (r m >>= fun p => f p.1 p.2) = .ok (b, m') := hrun
  obtain ⟨⟨a, m₁⟩, h₁, h₂⟩ := bind_eq_ok_iff.1 hrun
  obtain ⟨hg₁, hm₁, ha⟩ := h m a m₁ hm hg h₁
  obtain ⟨hg₂, hm₂, hb⟩ := hf m₁.graph a (hg.trans hg₁) ha m₁ b m' hm₁ (.refl _) h₂
  exact ⟨hg₁.trans hg₂, hm₂, hb⟩

theorem pure {a : α} (h : ∀ g', g.Extends g' → Q g' a) : Yields g (Pure.pure a) Q := by
  intro m b m' hm hg hrun
  have hrun : (Except.ok (a, m) : Except Fault (α × Memory)) = .ok (b, m') := hrun
  cases hrun
  exact ⟨.refl _, hm, h _ hg⟩

theorem throw (f : Fault) : Yields g (throw f) Q := fun _ _ _ _ _ hrun => nomatch hrun

theorem refuse (problem : Problem) (place : Place) : Yields g (RawForm.refuse problem place) Q :=
  .throw _

theorem wrongCount (tag : String) (expected : Nat) (arguments : List Operand) (place : Place) :
    Yields g (RawForm.wrongCount tag expected arguments place) Q :=
  .throw _

/-- What is looked up is of some graph that the reading goes on from. -/
theorem look {f : Memory → α} {k : α → Reading β}
    (h : ∀ m, m.Sound → g.Extends m.graph → Yields m.graph (k (f m)) R) :
    Yields g (RawForm.look f >>= k) R :=
  fun m b m' hm hg hrun => h m hm hg m b m' hm (.refl _) hrun

theorem addPart (p : Part) : Yields g (RawForm.addPart p) fun g' x => g'.part? x = some p := by
  intro m x m' hm hg hrun
  cases hrun
  refine ⟨m.graph.extends_add p, hm.extend (m.graph.extends_add p), ?_⟩
  simp [Graph.part?, Graph.get?]

theorem addNode (n : Node) : Yields g (RawForm.addNode n) fun g' x => g'.node? x = some n :=
  (Yields.addPart (.node n)).mono fun g' x _ hx => by simp only [Graph.node?, hx]

theorem remember {raw node : Operand} (h : IsCondition g [raw] node) :
    Yields g (RawForm.remember raw node) fun _ _ => True := by
  intro m a m' hm hg hrun
  cases raw with
  | lit v =>
    cases hrun
    exact ⟨.refl _, hm, trivial⟩
  | part n =>
    cases hrun
    refine ⟨.refl _, fun k x hx => ?_, trivial⟩
    rw [Std.HashMap.getElem?_insert] at hx
    split at hx
    · next hk =>
      cases hx
      rw [← eq_of_beq hk]
      exact h.extend hg (List.Subset.refl _)
    · exact hm k x hx

/-! ### Values -/

theorem readField (arguments : List Operand) (place : Place) :
    Yields g (RawForm.readField arguments place) fun g' x =>
      ∃ n, arguments = [.lit (.integer n)] ∧ g'.node? x = some (.field (.lit (.integer n))) := by
  unfold RawForm.readField
  split
  · next n => exact (Yields.addNode _).mono fun g' x _ hx => ⟨n, rfl, hx⟩
  · exact .refuse _ _
  · exact .wrongCount _ _ _ _

/-- The number of a field reference is an integer right behind the tag. -/
theorem supplies_field {arguments : List Operand} {n : Int}
    (h : arguments = [.lit (.integer n)]) : g.Supplies arguments [] [n] := by
  subst h
  exact ⟨by simp, by simp [Graph.Inside, Relation.ReflTransGen.refl]⟩

theorem readValue (place : Place) (raw : Operand) :
    Yields g (RawForm.readValue place raw) fun g' x => IsValue g' [raw] x := by
  unfold RawForm.readValue
  refine .look fun m hm hg => ?_
  cases raw with
  | lit v =>
    dsimp only
    split
    · next hv =>
      refine .pure fun g' _ => ⟨.literal v, .literal v, ?_, by simp [Value.fields]⟩
      simp [Value.literals, hv, Graph.Inside, Relation.ReflTransGen.refl]
    · exact .refuse _ _
  | part n =>
    dsimp only
    split
    · next heq => cases heq
    · next arguments hraw _ =>
      refine (Yields.readField arguments place).mono ?_
      rintro g' x hg' ⟨n, harguments, hx⟩
      exact ⟨.field n, .field hx, (supplies_field harguments).of_items (hg'.items? hraw)⟩
    · exact .refuse _ _

theorem readValues (place : Place) (raws : List Operand) (i : Nat) :
    Yields g (RawForm.readValues place i raws) fun g' xs =>
      ∃ us : List Value, List.Forall₂ g'.HoldsValue xs us ∧
        ∀ u ∈ us, g'.Supplies raws u.literals u.fields := by
  induction raws generalizing g i with
  | nil => exact .pure fun g' _ => ⟨[], .nil, by simp⟩
  | cons raw rest ih =>
    refine (Yields.readValue _ raw).bind fun g₁ x _ ⟨u, hu, hsupplies⟩ =>
      (ih (i + 1)).bind fun g₂ xs hg₂ ⟨us, hus, hrest⟩ => .pure fun g₃ hg₃ => ?_
    have hg := hg₂.trans hg₃
    refine ⟨u :: us, .cons (hg.holdsValue hu) (hus.imp fun _ _ => hg₃.holdsValue), ?_⟩
    simp only [List.forall_mem_cons]
    exact ⟨hsupplies.extend hg (by simp), fun v hv => (hrest v hv).extend hg₃ (by simp)⟩

/-! ### Conditions -/

/-- What two readings give, put into one node. -/
theorem readPair {D : Graph → List Operand → Operand → Prop}
    (hD : ∀ {g g' raws raws' x}, D g raws x → g.Extends g' → raws ⊆ raws' → D g' raws' x)
    {child : Nat → Operand → Reading Operand}
    (hchild : ∀ g i raw, Yields g (child i raw) fun g' x => D g' [raw] x)
    (make : Operand → Operand → Node) (tag : String) (arguments : List Operand) (place : Place) :
    Yields g (RawForm.readPair make tag child arguments place) fun g' x =>
      ∃ l r, g'.node? x = some (make l r) ∧ D g' arguments l ∧ D g' arguments r := by
  unfold RawForm.readPair
  split
  · refine (hchild _ 1 _).bind fun g₁ l _ hl => (hchild _ 2 _).bind fun g₂ r hg₂ hr =>
      (Yields.addNode _).mono fun g₃ x hg₃ hx => ?_
    exact ⟨l, r, hx, hD hl (hg₂.trans hg₃) (by simp), hD hr hg₃ (by simp)⟩
  · exact .wrongCount _ _ _ _

theorem readSingle {D : Graph → List Operand → Operand → Prop}
    (hD : ∀ {g g' raws raws' x}, D g raws x → g.Extends g' → raws ⊆ raws' → D g' raws' x)
    {argument : Nat → Operand → Reading Operand}
    (hargument : ∀ g i raw, Yields g (argument i raw) fun g' x => D g' [raw] x)
    (make : Operand → Node) (tag : String) (arguments : List Operand) (place : Place) :
    Yields g (RawForm.readSingle make tag argument arguments place) fun g' x =>
      ∃ y, g'.node? x = some (make y) ∧ D g' arguments y := by
  unfold RawForm.readSingle
  split
  · refine (hargument _ 1 _).bind fun g₁ y _ hy => (Yields.addNode _).mono fun g₂ x hg₂ hx => ?_
    exact ⟨y, hx, hD hy hg₂ (by simp)⟩
  · exact .wrongCount _ _ _ _

theorem readMembership (negated : Bool) (tag : String) (arguments : List Operand)
    (place : Place) :
    Yields g (RawForm.readMembership (.equality negated) tag arguments place) fun g' x =>
      IsCondition g' arguments x := by
  unfold RawForm.readMembership
  split
  · refine (Yields.readValue _ _).bind fun g₁ y _ ⟨u, hu, hoperand⟩ =>
      (Yields.readValues _ _ _).bind fun g₂ xs hg₂ ⟨us, hus, hcompared⟩ =>
      (Yields.addPart _).bind fun g₃ values hg₃ hvalues =>
      (Yields.addNode _).mono fun g₄ x hg₄ hx => ?_
    have helements : g₄.elements? values = some xs := by
      have hpart := hg₄.part? hvalues
      cases values with
      | lit v => cases hpart
      | part n => simp only [Graph.elements?, hpart]
    have hg₃ := hg₃.trans hg₄
    have hg₂ := hg₂.trans hg₃
    refine ⟨.equality negated u us, .equality hx (hg₂.holdsValue hu) helements
      (hus.imp fun _ _ => hg₃.holdsValue), (hoperand.extend hg₂ (by simp)).append (.flatMap ?_)⟩
    exact fun v hv => (hcompared v hv).extend hg₃ (by simp)
  · exact .refuse _ _

theorem readReference (arguments : List Operand) (place : Place) :
    Yields g (RawForm.readReference arguments place) fun g' x => IsCondition g' arguments x := by
  unfold RawForm.readReference
  split
  · next name =>
    exact (Yields.addNode _).mono fun g' x _ hx => ⟨.reference name, .reference hx, .nil⟩
  · exact .refuse _ _
  · exact .wrongCount _ _ _ _

theorem readTagged {condition : Place → Operand → Reading Operand}
    (h : ∀ g place raw, Yields g (condition place raw) fun g' x => IsCondition g' [raw] x)
    (tag : String) (arguments : List Operand) (place : Place) :
    Yields g (RawForm.readTagged [] condition tag arguments place) fun g' x =>
      IsCondition g' arguments x := by
  have hchild (g : Graph) (i : Nat) (raw : Operand) := h g (place ++ [.index i]) raw
  have hvalue (g : Graph) (i : Nat) (raw : Operand) :=
    Yields.readValue (g := g) (place ++ [.index i]) raw
  have join (k : Connective) : Yields g (RawForm.readPair k.node tag
      (fun i raw => condition (place ++ [.index i]) raw) arguments place) fun g' x =>
        IsCondition g' arguments x := by
    refine (Yields.readPair (D := IsCondition) .extend hchild k.node tag arguments place).mono ?_
    rintro g' x _ ⟨l, r, hx, ⟨c, hc, hleft⟩, d, hd, hright⟩
    exact ⟨.join k c d, .join hx hc hd, hleft.append hright⟩
  have ordering (greater : Bool) : Yields g (RawForm.readPair (.ordering greater) tag
      (fun i raw => RawForm.readValue (place ++ [.index i]) raw) arguments place) fun g' x =>
        IsCondition g' arguments x := by
    refine (Yields.readPair (D := IsValue) .extend hvalue (.ordering greater) tag arguments
      place).mono ?_
    rintro g' x _ ⟨l, r, hx, ⟨u, hu, hleft⟩, v, hv, hright⟩
    exact ⟨.ordering greater u v, .ordering hx hu hv, hleft.append hright⟩
  have nullCheck (negated : Bool) : Yields g (RawForm.readSingle (.nullCheck negated) tag
      (fun i raw => RawForm.readValue (place ++ [.index i]) raw) arguments place) fun g' x =>
        IsCondition g' arguments x := by
    refine (Yields.readSingle (D := IsValue) .extend hvalue (.nullCheck negated) tag arguments
      place).mono ?_
    rintro g' x _ ⟨y, hx, u, hu, hsupplies⟩
    exact ⟨.nullCheck negated u, .nullCheck hx hu, hsupplies⟩
  unfold RawForm.readTagged
  dsimp only
  split
  · exact join .and
  · exact join .or
  · refine (Yields.readSingle (D := IsCondition) .extend hchild .not _ arguments place).mono ?_
    rintro g' x _ ⟨y, hx, c, hc, hsupplies⟩
    exact ⟨.not c, .not hx hc, hsupplies⟩
  · exact ordering false
  · exact ordering true
  · exact Yields.readMembership false _ arguments place
  · exact Yields.readMembership true _ arguments place
  · exact nullCheck false
  · exact nullCheck true
  · exact Yields.readReference arguments place
  · refine (Yields.readField arguments place).mono ?_
    rintro g' x _ ⟨n, harguments, hx⟩
    exact ⟨.field n, .field hx, supplies_field harguments⟩
  · exact .refuse _ _

theorem readCondition (room : Nat) (above : List Operand) (place : Place) (raw : Operand) :
    Yields g (RawForm.readCondition [] room above place raw) fun g' x =>
      IsCondition g' [raw] x := by
  induction room generalizing g above place raw with
  | zero => exact .throw _
  | succ room ih =>
    rw [RawForm.readCondition]
    refine .look fun m hm _ => ?_
    split
    · exact .refuse _ _
    · exact .refuse _ _
    · next tag arguments hraw =>
      split
      · exact .look fun _ _ _ => .throw _
      · refine .look fun m₁ hm₁ hg₁ => ?_
        split
        · next node hnode =>
          refine .pure fun g' hg' => ?_
          cases raw with
          | lit v => cases hnode
          | part n => exact (hm₁ n node hnode).extend hg' (List.Subset.refl _)
        · split
          · next t =>
            refine (Yields.readTagged (fun _ place raw => ih _ place raw) t arguments place).bind
              fun g₂ node hg₂ ⟨c, hc, hsupplies⟩ => ?_
            have hnode : IsCondition g₂ [raw] node :=
              ⟨c, hc, hsupplies.of_items ((hg₁.trans hg₂).items? hraw)⟩
            exact (Yields.remember hnode).bind fun g₃ _ hg₃ _ =>
              .pure fun g₄ hg₄ => hnode.extend (hg₃.trans hg₄) (List.Subset.refl _)
          · exact .refuse _ _

end Yields

/-- Reading without custom tags gives a graph that has grown and a condition in it. -/
theorem read_eq_ok {raw : Operand} (h : read [] g raw = .ok (x, g')) :
    g.Extends g' ∧ IsCondition g' [raw] x := by
  obtain ⟨⟨root, m⟩, hrun, h⟩ := bind_eq_ok_iff.1 h
  cases h
  have hsound : Memory.Sound ⟨g, {}⟩ := by simp [Memory.Sound]
  obtain ⟨hg, _, hx⟩ := Yields.readCondition (g := g) nestingLimit [] [] raw _ _ _ hsound (.refl g)
    hrun
  exact ⟨hg, hx⟩

theorem look_bind (f : Memory → α) (k : α → Reading β) (m : Memory) :
    (look f >>= k) m = k (f m) m := rfl

/-- A whole raw form has never been read before: reading it is reading by its tag. -/
theorem read_of_items {ext : Extensions} {raw : Operand} {tag : String} {arguments : List Operand}
    {room : Nat} (hroom : nestingLimit = room + 1)
    (h : g.items? raw = some (.lit (.text tag) :: arguments)) :
    read ext g raw = (readTagged ext (readCondition ext room [raw]) tag arguments [] ⟨g, {}⟩).map
      fun p => (p.1, p.2.graph) := by
  have hunknown : known? ⟨g, {}⟩ raw = none := by
    cases raw <;> simp [known?]
  have hremember (p : Operand × Memory) : ∃ known, remember raw p.1 p.2 =
      .ok ((), ⟨p.2.graph, known⟩) := by
    cases raw <;> exact ⟨_, rfl⟩
  have hread : readCondition ext nestingLimit [] [] raw ⟨g, {}⟩ =
      readTagged ext (readCondition ext room [raw]) tag arguments [] ⟨g, {}⟩ >>= fun p =>
        remember raw p.1 p.2 >>= fun q => .ok (p.1, q.2) := by
    rw [hroom, readCondition, look_bind, h]
    dsimp only
    rw [if_neg (by simp), look_bind, hunknown]
    rfl
  change readCondition ext nestingLimit [] [] raw ⟨g, {}⟩ >>= (fun p => .ok (p.1, p.2.graph)) = _
  rw [hread]
  cases readTagged ext (readCondition ext room [raw]) tag arguments [] ⟨g, {}⟩ with
  | error e => rfl
  | ok p =>
    obtain ⟨known, hknown⟩ := hremember p
    simp [hknown]

end RawForm

end FilterCompiler
