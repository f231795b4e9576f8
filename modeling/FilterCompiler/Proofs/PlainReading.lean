import FilterCompiler.Proofs.Acceptance

/-! Reading without a memory. A plain reader does what the reader of raw forms does, but reads a row
again wherever it stands. Proved here, for readings without custom tags and whatever stands in what:
with room for as many levels as there are parts nothing is too deep, and unless the reader with a
memory gives up, both refuse with the same fault or both read the same condition. What is remembered
of a row is that it spells a condition, and such a row is read in the same way wherever it
stands. -/

namespace FilterCompiler

namespace RawForm

/-! ### The plain reader -/

/-- A condition, read again wherever it stands. `above` holds the lists around it, nearest first,
and at most `room` further levels are followed. -/
def readPlainly : Nat → List Operand → Place → Operand → Reading Operand
  | 0, _, _, _ => throw .nestedTooDeep
  | room + 1, above, place, raw => do
    match ← look fun m => m.graph.items? raw with
    | none | some [] => refuse .notAList place
    | some (tag :: arguments) =>
      if raw ∈ above then throw (.circular (← look fun m => tagText m.graph tag) none)
      else match tag with
        | .lit (.text t) => readTagged [] (readPlainly room (raw :: above)) t arguments place
        | _ => refuse .tagNotText place

/-- The root node of a raw form and the graph that holds it, as a reader of conditions gives
them. -/
def readBy (reader : List Operand → Place → Operand → Reading Operand) (g : Graph)
    (raw : Operand) : Except Fault (Operand × Graph) := do
  let (root, memory) ← (reader [] [] raw).run ⟨g, {}⟩
  return (root, memory.graph)

theorem read_eq_readBy (g : Graph) (raw : Operand) :
    read [] g raw = readBy (readCondition [] nestingLimit) g raw := rfl

/-! ### Paths -/

/-- The rows around an operand, nearest first: each leads to it, and none stands there twice. -/
structure IsPath (g : Graph) (above : List Operand) (raw : Operand) : Prop where
  leads : ∀ y ∈ above, Relation.TransGen g.Item y raw
  nodup : above.Nodup

variable {α β : Type} {g G G' : Graph} {deep : Prop} {raw x : Operand} {above : List Operand}

theorem IsPath.nil (g : Graph) (raw : Operand) : IsPath g [] raw := ⟨by simp, .nil⟩

theorem IsPath.step (h : IsPath g above raw) (hraw : raw ∉ above) {items : List Operand}
    (hitems : g.items? raw = some items) {y : Operand} (hy : y ∈ items) :
    IsPath g (raw :: above) y where
  leads z hz := by
    have hitem : g.Item raw y := ⟨items, hitems, hy⟩
    rcases List.mem_cons.1 hz with rfl | hz
    · exact .single hitem
    · exact (h.leads z hz).tail hitem
  nodup := List.nodup_cons.2 ⟨hraw, h.nodup⟩

/-- Around an operand there are no more rows than parts. -/
theorem IsPath.length_le (h : IsPath g above raw) : above.length ≤ g.parts.size := by
  have hsubset : above ⊆ (List.range g.parts.size).map Operand.part := by
    intro y hy
    obtain ⟨z, ⟨items, hitems, _⟩, _⟩ := Relation.TransGen.head'_iff.1 (h.leads y hy)
    cases y with
    | lit v => cases hitems
    | part n =>
      refine List.mem_map_of_mem (List.mem_range.2 ?_)
      by_contra hn
      have hpart : g.parts[n]? = none := Array.getElem?_eq_none (Nat.not_lt.1 hn)
      simp [Graph.items?, Graph.part?, Graph.get?, hpart] at hitems
  simpa using (List.subperm_of_subset h.nodup hsubset).length_le

/-! ### Two readings side by side -/

/-- A reading is successful from a memory: it adds parts and nothing else, stays faithful and gives
what is asked of it. -/
def Gives (g : Graph) (r : Reading α) (m : Memory) (Q : Graph → α → Prop) : Prop :=
  ∃ a m', r m = .ok (a, m') ∧ m.graph.Extends m'.graph ∧ m'.Faithful g ∧ Q m'.graph a

/-- From two graphs on, two readings of raw forms are both successful or end with the same fault,
if the first one does not give up. -/
def Agrees (g : Graph) (deep : Prop) (G G' : Graph) (r r' : Reading α)
    (Q Q' : Graph → α → Prop) : Prop :=
  ∀ m m' : Memory, m.Faithful g → m'.Faithful g → G.Extends m.graph → G'.Extends m'.graph →
    (Gives g r m Q ∧ Gives g r' m' Q') ∨
    (∃ e, e ≠ .nestedTooDeep ∧ r m = .error e ∧ r' m' = .error e) ∨
    r m = .error .nestedTooDeep ∧ deep

theorem Gives.mono {r : Reading α} {m : Memory} {Q Q' : Graph → α → Prop} (h : Gives g r m Q)
    (hQ : ∀ G a, m.graph.Extends G → Q G a → Q' G a) : Gives g r m Q' :=
  have ⟨a, m', hrun, hm', hfaithful, ha⟩ := h
  ⟨a, m', hrun, hm', hfaithful, hQ _ a hm' ha⟩

namespace Agrees

variable {r r' : Reading α} {Q Q' : Graph → α → Prop} {R R' : Graph → β → Prop}

theorem mono (h : Agrees g deep G G' r r' Q Q') {P P' : Graph → α → Prop}
    (hQ : ∀ G₁ a, G.Extends G₁ → Q G₁ a → P G₁ a)
    (hQ' : ∀ G₁ a, G'.Extends G₁ → Q' G₁ a → P' G₁ a) : Agrees g deep G G' r r' P P' := by
  intro m m' hm hm' hG hG'
  refine (h m m' hm hm' hG hG').imp_left fun ⟨hgives, hgives'⟩ => ⟨?_, ?_⟩
  · exact hgives.mono fun G₁ a hG₁ => hQ G₁ a (hG.trans hG₁)
  · exact hgives'.mono fun G₁ a hG₁ => hQ' G₁ a (hG'.trans hG₁)

/-- Two pairs of readings in a row: the second ones go on from what the first ones give. -/
theorem bind {f f' : α → Reading β} (h : Agrees g deep G G' r r' Q Q')
    (hf : ∀ G₁ G₁' a a', G.Extends G₁ → G'.Extends G₁' → Q G₁ a → Q' G₁' a' →
      Agrees g deep G₁ G₁' (f a) (f' a') R R') :
    Agrees g deep G G' (r >>= f) (r' >>= f') R R' := by
  intro m m' hm hm' hG hG'
  have hbind (r : Reading α) (f : α → Reading β) (m : Memory) :
      (r >>= f) m = r m >>= fun p => f p.1 p.2 := rfl
  rcases h m m' hm hm' hG hG' with
    ⟨⟨a, n, hrun, hn, hfaithful, ha⟩, a', n', hrun', hn', hfaithful', ha'⟩ |
    ⟨e, he, hrun, hrun'⟩ | ⟨hrun, hdeep⟩
  · simp only [Gives, hbind, hrun, hrun', ok_bind]
    refine (hf n.graph n'.graph a a' (hG.trans hn) (hG'.trans hn') ha ha' n n' hfaithful
      hfaithful' (.refl _) (.refl _)).imp_left ?_
    rintro ⟨⟨b, k, hk, hnk, hb⟩, b', k', hk', hnk', hb'⟩
    exact ⟨⟨b, k, hk, hn.trans hnk, hb⟩, b', k', hk', hn'.trans hnk', hb'⟩
  · exact .inr (.inl ⟨e, he, by rw [hbind, hrun, error_bind], by rw [hbind, hrun', error_bind]⟩)
  · exact .inr (.inr ⟨by rw [hbind, hrun, error_bind], hdeep⟩)

theorem pure {a a' : α} (h : ∀ G₁, G.Extends G₁ → Q G₁ a) (h' : ∀ G₁, G'.Extends G₁ → Q' G₁ a') :
    Agrees g deep G G' (Pure.pure a) (Pure.pure a') Q Q' :=
  fun m m' hm hm' hG hG' =>
    .inl ⟨⟨a, m, rfl, .refl _, hm, h _ hG⟩, a', m', rfl, .refl _, hm', h' _ hG'⟩

theorem throw {e : Fault} (he : e ≠ .nestedTooDeep) :
    Agrees g deep G G' (throw e : Reading α) (MonadExcept.throw e) Q Q' :=
  fun _ _ _ _ _ _ => .inr (.inl ⟨e, he, rfl, rfl⟩)

theorem refuse {problem : Problem} {place : Place} :
    Agrees g deep G G' (RawForm.refuse problem place : Reading α) (RawForm.refuse problem place)
      Q Q' :=
  .throw (by simp)

theorem wrongCount {tag : String} {expected : Nat} {arguments : List Operand} {place : Place} :
    Agrees g deep G G' (RawForm.wrongCount tag expected arguments place : Reading α)
      (RawForm.wrongCount tag expected arguments place) Q Q' :=
  .refuse

/-- What is looked up is of some graphs that the readings go on from. -/
theorem look {f : Memory → α} {k k' : α → Reading β}
    (h : ∀ m m', m.Faithful g → m'.Faithful g → G.Extends m.graph → G'.Extends m'.graph →
      Agrees g deep m.graph m'.graph (k (f m)) (k' (f m')) R R') :
    Agrees g deep G G' (RawForm.look f >>= k) (RawForm.look f >>= k') R R' :=
  fun m m' hm hm' hG hG' => h m m' hm hm' hG hG' m m' hm hm' (.refl _) (.refl _)

theorem addPart (p p' : Part) :
    Agrees g deep G G' (RawForm.addPart p) (RawForm.addPart p') (fun G₁ x => G₁.part? x = some p)
      fun G₁ x => G₁.part? x = some p' := by
  have hgives (p : Part) {m : Memory} (hm : m.Faithful g) :
      Gives g (RawForm.addPart p) m fun G₁ x => G₁.part? x = some p :=
    have hadd := m.graph.extends_add p
    ⟨_, _, rfl, hadd, hm.extend hadd, by simp [Graph.part?, Graph.get?]⟩
  exact fun m m' hm hm' _ _ => .inl ⟨hgives p hm, hgives p' hm'⟩

theorem addNode (n n' : Node) :
    Agrees g deep G G' (RawForm.addNode n) (RawForm.addNode n') (fun G₁ x => G₁.node? x = some n)
      fun G₁ x => G₁.node? x = some n' :=
  (Agrees.addPart (.node n) (.node n')).mono (fun G₁ x _ hx => by simp only [Graph.node?, hx])
    fun G₁ x _ hx => by simp only [Graph.node?, hx]

/-! ### Values -/

theorem readField (arguments : List Operand) (place : Place) :
    Agrees g deep G G' (RawForm.readField arguments place) (RawForm.readField arguments place)
      (fun G₁ x => Head.field.Makes (ReadsValue g G₁) (ReadsCondition g G₁) G₁ arguments x)
      fun G₁ x => Head.field.Makes (ReadsValue g G₁) (ReadsCondition g G₁) G₁ arguments x := by
  unfold RawForm.readField
  split
  · next n =>
    exact (Agrees.addNode _ _).mono (fun G₁ x _ hx => ⟨n, rfl, hx⟩) fun G₁ x _ hx => ⟨n, rfl, hx⟩
  · exact .refuse
  · exact .wrongCount

theorem readValue (hraw : g.Has raw) (place : Place) :
    Agrees g deep G G' (RawForm.readValue place raw) (RawForm.readValue place raw)
      (fun G₁ => ReadsValue g G₁ raw) fun G₁ => ReadsValue g G₁ raw := by
  unfold RawForm.readValue
  refine .look fun m m' hm hm' hG hG' => ?_
  rw [hm.graph.items?_eq hraw, hm'.graph.items?_eq hraw, hm.graph.kind_eq hraw,
    hm'.graph.kind_eq hraw]
  cases raw with
  | lit v =>
    dsimp only
    split
    · next hv =>
      have hreads (G₁ : Graph) : ReadsValue g G₁ (.lit v) (.lit v) :=
        ⟨.literal v, RawForm.isScalar_iff.1 hv, .literal v, Graph.spells_literal.2 rfl⟩
      exact .pure (fun G₁ _ => hreads G₁) fun G₁ _ => hreads G₁
    · exact .refuse
  | part n =>
    dsimp only
    split
    · next heq => cases heq
    · next arguments hitems _ =>
      have hreads {G₁ : Graph} {x : Operand}
          (h : Head.field.Makes (ReadsValue g G₁) (ReadsCondition g G₁) G₁ arguments x) :
          ReadsValue g G₁ (.part n) x := by
        obtain ⟨k, rfl, hx⟩ := h
        exact ⟨.field k, trivial, .field hx,
          Graph.spells_tagged.2 ⟨_, hitems, .cons (Graph.spells_literal.2 rfl) .nil⟩⟩
      exact (Agrees.readField arguments place).mono (fun _ _ _ => hreads) fun _ _ _ => hreads
    · exact .refuse

theorem readValues {raws : List Operand} (hraws : ∀ raw ∈ raws, g.Has raw) (place : Place)
    (i : Nat) :
    Agrees g deep G G' (RawForm.readValues place i raws) (RawForm.readValues place i raws)
      (fun G₁ => List.Forall₂ (ReadsValue g G₁) raws)
      fun G₁ => List.Forall₂ (ReadsValue g G₁) raws := by
  induction raws generalizing G G' i with
  | nil => exact .pure (fun _ _ => .nil) fun _ _ => .nil
  | cons raw rest ih =>
    rw [List.forall_mem_cons] at hraws
    refine (Agrees.readValue hraws.1 _).bind fun G₁ G₁' x x' _ _ hx hx' =>
      (ih hraws.2 (i + 1)).bind fun G₂ G₂' xs xs' hG₂ hG₂' hxs hxs' => .pure ?_ ?_
    · exact fun G₃ hG₃ => .cons (hx.extend (hG₂.trans hG₃)) (hxs.imp fun _ _ h => h.extend hG₃)
    · exact fun G₃ hG₃ => .cons (hx'.extend (hG₂'.trans hG₃)) (hxs'.imp fun _ _ h => h.extend hG₃)

/-! ### Conditions -/

section Arguments

variable {D : Graph → Operand → Operand → Prop} {arguments : List Operand}
  (hD : ∀ {G G' raw x}, D G raw x → G.Extends G' → D G' raw x)
  {child child' : Nat → Operand → Reading Operand}
  (hchild : ∀ G G' i, ∀ raw ∈ arguments, Agrees g deep G G' (child i raw) (child' i raw)
    (fun G₁ => D G₁ raw) fun G₁ => D G₁ raw)

include hD hchild

/-- What two readings give, put into one node. -/
theorem readPair (make : Operand → Operand → Node) (tag : String) (place : Place) :
    Agrees g deep G G' (RawForm.readPair make tag child arguments place)
      (RawForm.readPair make tag child' arguments place)
      (fun G₁ x => ∃ l r y z, arguments = [l, r] ∧ G₁.node? x = some (make y z) ∧ D G₁ l y ∧
        D G₁ r z)
      fun G₁ x => ∃ l r y z, arguments = [l, r] ∧ G₁.node? x = some (make y z) ∧ D G₁ l y ∧
        D G₁ r z := by
  unfold RawForm.readPair
  split
  · next l r =>
    refine (hchild _ _ 1 l (by simp)).bind fun G₁ G₁' y y' _ _ hy hy' =>
      (hchild _ _ 2 r (by simp)).bind fun G₂ G₂' z z' hG₂ hG₂' hz hz' =>
      (Agrees.addNode _ _).mono ?_ ?_
    · exact fun G₃ x hG₃ hx => ⟨l, r, y, z, rfl, hx, hD hy (hG₂.trans hG₃), hD hz hG₃⟩
    · exact fun G₃ x hG₃ hx => ⟨l, r, y', z', rfl, hx, hD hy' (hG₂'.trans hG₃), hD hz' hG₃⟩
  · exact .wrongCount

theorem readSingle (make : Operand → Node) (tag : String) (place : Place) :
    Agrees g deep G G' (RawForm.readSingle make tag child arguments place)
      (RawForm.readSingle make tag child' arguments place)
      (fun G₁ x => ∃ y z, arguments = [y] ∧ G₁.node? x = some (make z) ∧ D G₁ y z)
      fun G₁ x => ∃ y z, arguments = [y] ∧ G₁.node? x = some (make z) ∧ D G₁ y z := by
  unfold RawForm.readSingle
  split
  · next y =>
    refine (hchild _ _ 1 y (by simp)).bind fun G₁ G₁' z z' _ _ hz hz' =>
      (Agrees.addNode _ _).mono ?_ ?_
    · exact fun G₂ x hG₂ hx => ⟨y, z, rfl, hx, hD hz hG₂⟩
    · exact fun G₂ x hG₂ hx => ⟨y, z', rfl, hx, hD hz' hG₂⟩
  · exact .wrongCount

end Arguments

section Arguments

variable {arguments : List Operand}

theorem readMembership (harguments : ∀ raw ∈ arguments, g.Has raw) (negated : Bool) (tag : String)
    (place : Place) :
    Agrees g deep G G' (RawForm.readMembership (.equality negated) tag arguments place)
      (RawForm.readMembership (.equality negated) tag arguments place)
      (fun G₁ x => (Head.equality negated).Makes (ReadsValue g G₁) (ReadsCondition g G₁) G₁
        arguments x)
      fun G₁ x => (Head.equality negated).Makes (ReadsValue g G₁) (ReadsCondition g G₁) G₁
        arguments x := by
  unfold RawForm.readMembership
  split
  · next y z rest =>
    rw [List.forall_mem_cons] at harguments
    have hmakes {G₁ G₂ G₃ G₄ : Graph} {operand values x : Operand} {xs : List Operand}
        (hG₂ : G₁.Extends G₂) (hG₃ : G₂.Extends G₃) (hG₄ : G₃.Extends G₄)
        (hoperand : ReadsValue g G₁ y operand)
        (hxs : List.Forall₂ (ReadsValue g G₂) (z :: rest) xs)
        (hvalues : G₃.part? values = some (.tuple xs))
        (hx : G₄.node? x = some (.equality negated operand values)) :
        (Head.equality negated).Makes (ReadsValue g G₄) (ReadsCondition g G₄) G₄ (y :: z :: rest)
          x :=
      ⟨y, z :: rest, operand, values, xs, rfl, by simp, hx,
        hoperand.extend (hG₂.trans (hG₃.trans hG₄)), hG₄.part? hvalues,
        hxs.imp fun _ _ h => h.extend (hG₃.trans hG₄)⟩
    exact (Agrees.readValue harguments.1 _).bind fun G₁ G₁' operand operand' _ _ ho ho' =>
      (Agrees.readValues harguments.2 _ 2).bind fun G₂ G₂' xs xs' hG₂ hG₂' hxs hxs' =>
      (Agrees.addPart _ _).bind fun G₃ G₃' values values' hG₃ hG₃' hvalues hvalues' =>
      (Agrees.addNode _ _).mono (fun G₄ x hG₄ hx => hmakes hG₂ hG₃ hG₄ ho hxs hvalues hx)
        fun G₄ x hG₄ hx => hmakes hG₂' hG₃' hG₄ ho' hxs' hvalues' hx
  · exact .refuse

theorem readReference (place : Place) :
    Agrees g deep G G' (RawForm.readReference arguments place)
      (RawForm.readReference arguments place)
      (fun G₁ x => Head.reference.Makes (ReadsValue g G₁) (ReadsCondition g G₁) G₁ arguments x)
      fun G₁ x => Head.reference.Makes (ReadsValue g G₁) (ReadsCondition g G₁) G₁ arguments x := by
  unfold RawForm.readReference
  split
  · next name =>
    exact (Agrees.addNode _ _).mono (fun G₁ x _ hx => ⟨name, rfl, hx⟩)
      fun G₁ x _ hx => ⟨name, rfl, hx⟩
  · exact .refuse
  · exact .wrongCount

/-- A tag and what follows it are read alike if the conditions behind the tag are. -/
theorem readHead (harguments : ∀ raw ∈ arguments, g.Has raw)
    {condition condition' : Place → Operand → Reading Operand}
    (hcondition : ∀ G G' place, ∀ raw ∈ arguments, Agrees g deep G G' (condition place raw)
      (condition' place raw) (fun G₁ => ReadsCondition g G₁ raw) fun G₁ => ReadsCondition g G₁ raw)
    (head : Head) (place : Place) :
    Agrees g deep G G' (head.read condition arguments place) (head.read condition' arguments place)
      (fun G₁ x => ReadsTagged g G₁ head.tag arguments x)
      fun G₁ x => ReadsTagged g G₁ head.tag arguments x := by
  have hchild (G G' : Graph) (i : Nat) (raw : Operand) (hraw : raw ∈ arguments) :=
    hcondition G G' (place ++ [.index i]) raw hraw
  have hvalue (G G' : Graph) (i : Nat) (raw : Operand) (hraw : raw ∈ arguments) :
      Agrees g deep G G' (RawForm.readValue (place ++ [.index i]) raw)
        (RawForm.readValue (place ++ [.index i]) raw) (fun G₁ => ReadsValue g G₁ raw)
        fun G₁ => ReadsValue g G₁ raw :=
    .readValue (harguments raw hraw) _
  refine Agrees.mono ?_ (fun _ _ _ => Head.Makes.readsTagged) fun _ _ _ => Head.Makes.readsTagged
  cases head with
  | join k => exact Agrees.readPair .extend hchild k.node _ place
  | not => exact Agrees.readSingle .extend hchild .not _ place
  | ordering greater => exact Agrees.readPair .extend hvalue (.ordering greater) _ place
  | equality negated => exact Agrees.readMembership harguments negated _ place
  | nullCheck negated => exact Agrees.readSingle .extend hvalue (.nullCheck negated) _ place
  | reference => exact Agrees.readReference place
  | field => exact Agrees.readField arguments place

/-- A row with a tag is read as the condition that it spells. -/
theorem readTagged {t : String} (hitems : g.items? raw = some (.lit (.text t) :: arguments))
    (harguments : ∀ raw ∈ arguments, g.Has raw)
    {condition condition' : Place → Operand → Reading Operand}
    (hcondition : ∀ G G' place, ∀ raw ∈ arguments, Agrees g deep G G' (condition place raw)
      (condition' place raw) (fun G₁ => ReadsCondition g G₁ raw) fun G₁ => ReadsCondition g G₁ raw)
    (place : Place) :
    Agrees g deep G G' (RawForm.readTagged [] condition t arguments place)
      (RawForm.readTagged [] condition' t arguments place) (fun G₁ => ReadsCondition g G₁ raw)
      fun G₁ => ReadsCondition g G₁ raw := by
  cases hhead : head? t with
  | none =>
    rw [readTagged_unknown hhead, readTagged_unknown hhead]
    exact .refuse
  | some head =>
    obtain rfl := head?_eq_some_iff.1 hhead
    rw [readTagged_tag, readTagged_tag]
    exact (Agrees.readHead harguments hcondition head place).mono
      (fun _ _ _ hx => hx.readsCondition hitems) fun _ _ _ hx => hx.readsCondition hitems

end Arguments

end Agrees

/-! ### A row on its own -/

/-- What leads to no row that holds itself is read plainly if it is of the grammar, wherever it
stands. -/
theorem Settles.readPlainly (hg : g.IsClosed) {room : Nat} (place : Place) (hraw : g.Has raw)
    (hacc : Acc (flip g.Item) raw) (hpath : IsPath g above raw)
    (hroom : g.parts.size < above.length + room) :
    Settles g False G (g.IsForm raw) (RawForm.readPlainly room above place raw) fun G' x =>
      ReadsCondition g G' raw x := by
  induction room generalizing G above place raw with
  | zero =>
    have := hpath.length_le
    omega
  | succ room ih =>
    rw [RawForm.readPlainly]
    refine .look fun m hm _ => ?_
    rw [hm.graph.items?_eq hraw]
    split
    · next hitems => exact .refuse (Graph.not_isForm (by simp [hitems]))
    · next hitems => exact .refuse (Graph.not_isForm (by simp [hitems]))
    · next tag arguments hitems =>
      have hnot : raw ∉ above := fun h => not_transGen_self_of_acc hacc (hpath.leads raw h)
      have harguments : ∀ y ∈ arguments, g.Has y := fun y hy =>
        hg.items hraw hitems y (List.mem_cons_of_mem _ hy)
      rw [if_neg hnot]
      split
      · next t =>
        exact .readTagged harguments hitems (fun G place y hy => ih place (harguments y hy)
          (hacc.inv ⟨_, hitems, List.mem_cons_of_mem _ hy⟩)
          (hpath.step hnot hitems (List.mem_cons_of_mem _ hy))
          (by rw [List.length_cons]; omega)) place
      · next hne =>
        refine .refuse fun h => ?_
        obtain ⟨head, htag, _⟩ := h.fits hitems
        exact hne _ htag

/-! ### Both readers -/

theorem tagText_eq (h : g.Extends G) (hx : g.Has x) : tagText G x = tagText g x := by
  have hkind := h.kind_eq hx
  unfold tagText
  split
  · rfl
  · exact hkind

namespace Agrees

variable {r r' : Reading Operand} {Q Q' : Graph → Operand → Prop}

/-- Something that only the first reading looks up. -/
theorem lookFirst {f : Memory → α} {k : α → Reading Operand}
    (h : ∀ m, m.Faithful g → G.Extends m.graph → Agrees g deep m.graph G' (k (f m)) r' Q Q') :
    Agrees g deep G G' (RawForm.look f >>= k) r' Q Q' :=
  fun m m' hm hm' hG hG' => h m hm hG m m' hm hm' (.refl _) hG'

theorem lookSecond {f : Memory → α} {k : α → Reading Operand}
    (h : ∀ m, m.Faithful g → G'.Extends m.graph → Agrees g deep G m.graph r (k (f m)) Q Q') :
    Agrees g deep G G' r (RawForm.look f >>= k) Q Q' :=
  fun m m' hm hm' hG hG' => h m' hm' hG' m m' hm hm' hG (.refl _)

/-- What is known already agrees with what is certain to be read. -/
theorem known (hx : ∀ G₁, G.Extends G₁ → Q G₁ x) {good : Prop}
    (h : Settles g False G' good r' Q') (hgood : good) :
    Agrees g deep G G' (Pure.pure x) r' Q Q' := by
  intro m m' hm hm' hG hG'
  rcases h m' hm' hG' with hgives | ⟨_, _, _, hbad⟩ | ⟨_, hdeep⟩
  · exact .inl ⟨⟨x, m, rfl, .refl _, hm, hx _ hG⟩, hgives⟩
  · exact absurd hgood hbad
  · exact hdeep.elim

/-- That the first reading remembers what it gives makes no difference. -/
theorem remember (h : Agrees g deep G G' r r' (fun G₁ => ReadsCondition g G₁ raw) Q') :
    Agrees g deep G G' (r >>= fun x => RawForm.remember raw x >>= fun _ => Pure.pure x) r'
      (fun G₁ => ReadsCondition g G₁ raw) Q' := by
  intro m m' hm hm' hG hG'
  have hbind (f : Operand → Reading Operand) : (r >>= f) m = r m >>= fun p => f p.1 p.2 := rfl
  rcases h m m' hm hm' hG hG' with ⟨⟨x, n, hrun, hn, hfaithful, hx⟩, hgives⟩ |
    ⟨e, he, hrun, hrun'⟩ | ⟨hrun, hdeep⟩
  · refine .inl ⟨?_, hgives⟩
    have hpure : Settles g False n.graph True
        (RawForm.remember raw x >>= fun _ => Pure.pure x) fun G₁ => ReadsCondition g G₁ raw :=
      (Settles.remember hx).bind fun G₁ _ hG₁ _ => .pure fun G₂ hG₂ => hx.extend (hG₁.trans hG₂)
    rcases hpure n hfaithful (.refl _) with ⟨y, k, hrun', hk, hfaithful', hy⟩ | ⟨_, _, _, hbad⟩ |
      ⟨_, hdeep⟩
    · exact ⟨y, k, by rw [hbind, hrun, ok_bind]; exact hrun', hn.trans hk, hfaithful', hy⟩
    · exact absurd trivial hbad
    · exact hdeep.elim
  · exact .inr (.inl ⟨e, he, by rw [hbind, hrun, error_bind], hrun'⟩)
  · exact .inr (.inr ⟨by rw [hbind, hrun, error_bind], hdeep⟩)

/-- Wherever a condition stands, the reader with a memory and the plain one agree on it. -/
theorem readCondition (hg : g.IsClosed) {limit room room' : Nat} (place : Place)
    (hraw : g.Has raw) (hpath : IsPath g above raw) (hlimit : above.length + room = limit)
    (hroom' : g.parts.size < above.length + room') :
    Agrees g (limit ≤ g.parts.size) G G' (RawForm.readCondition [] room above place raw)
      (RawForm.readPlainly room' above place raw) (fun G₁ => ReadsCondition g G₁ raw)
      fun G₁ => ReadsCondition g G₁ raw := by
  induction room generalizing G G' above place raw room' with
  | zero => exact fun m m' _ _ _ _ => .inr (.inr ⟨rfl, hlimit ▸ hpath.length_le⟩)
  | succ room ih =>
    obtain ⟨room', rfl⟩ : ∃ n, room' = n + 1 :=
      ⟨room' - 1, by have := hpath.length_le; omega⟩
    rw [RawForm.readCondition]
    refine .lookFirst fun m hm _ => ?_
    rw [hm.graph.items?_eq hraw]
    cases hitems : g.items? raw with
    | none =>
      rw [RawForm.readPlainly]
      refine .lookSecond fun m' hm' _ => ?_
      rw [hm'.graph.items?_eq hraw, hitems]
      exact .refuse
    | some items =>
      cases items with
      | nil =>
        rw [RawForm.readPlainly]
        refine .lookSecond fun m' hm' _ => ?_
        rw [hm'.graph.items?_eq hraw, hitems]
        exact .refuse
      | cons tag arguments =>
        dsimp only
        obtain ⟨htag, harguments⟩ := List.forall_mem_cons.1 (hg.items hraw hitems)
        by_cases hmem : raw ∈ above
        · rw [if_pos hmem]
          refine .lookFirst fun m₁ hm₁ _ => ?_
          rw [RawForm.readPlainly]
          refine .lookSecond fun m' hm' _ => ?_
          rw [hm'.graph.items?_eq hraw, hitems]
          dsimp only
          rw [if_pos hmem]
          refine .lookSecond fun m₁' hm₁' _ => ?_
          rw [tagText_eq hm₁.graph htag, tagText_eq hm₁'.graph htag]
          exact .throw (by simp)
        · rw [if_neg hmem]
          refine .lookFirst fun m₁ hm₁ _ => ?_
          cases hknown : known? m₁ raw with
          | some node =>
            obtain ⟨c, hplain, _, hspells⟩ := hm₁.of_known? hknown
            exact .known (fun G₁ hG₁ => (hm₁.of_known? hknown).extend hG₁)
              (Settles.readPlainly hg place hraw hspells.acc hpath hroom')
              (Graph.isForm_of_spells hspells hplain)
          | none =>
            rw [RawForm.readPlainly]
            refine .lookSecond fun m' hm' _ => ?_
            rw [hm'.graph.items?_eq hraw, hitems]
            dsimp only
            rw [if_neg hmem]
            cases tag with
            | part n => exact .refuse
            | lit v =>
              cases v with
              | text t =>
                exact .remember (.readTagged hitems harguments
                  (fun G G' place y hy => ih place (harguments y hy)
                    (hpath.step hmem hitems (List.mem_cons_of_mem _ hy))
                    (by rw [List.length_cons]; omega) (by rw [List.length_cons]; omega)) place)
              | _ => exact .refuse

end Agrees

/-- In a graph that goes on from a given one the reader with a memory does what the plain one does
in the given one: both read the same condition or both end with the same fault, unless the one with
the memory gives up. -/
theorem readBy_cases_of_extends (hg : g.IsClosed) (hraw : g.Has raw) (hG : g.Extends G)
    (limit : Nat) {room : Nat} (hroom : g.parts.size < room) :
    (∃ x G₁ y G', readBy (readCondition [] limit) G raw = .ok (x, G₁) ∧
      readBy (readPlainly room) g raw = .ok (y, G') ∧ G.Extends G₁ ∧ g.Extends G' ∧
      ∃ c : Condition, G₁.Builds x c ∧ G'.Builds y c) ∨
    (∃ e, e ≠ .nestedTooDeep ∧ readBy (readCondition [] limit) G raw = .error e ∧
      readBy (readPlainly room) g raw = .error e) ∨
    readBy (readCondition [] limit) G raw = .error .nestedTooDeep ∧ limit ≤ g.parts.size := by
  have hrun (reader : List Operand → Place → Operand → Reading Operand) (G : Graph) :
      readBy reader G raw = reader [] [] raw ⟨G, {}⟩ >>= fun p => .ok (p.1, p.2.graph) := rfl
  have hfaithful {G : Graph} (hG : g.Extends G) : Memory.Faithful g ⟨G, {}⟩ := ⟨hG, by simp⟩
  rcases Agrees.readCondition hg [] hraw (.nil g raw) (Nat.zero_add limit)
    (by simpa using hroom) ⟨G, {}⟩ ⟨g, {}⟩ (hfaithful hG) (hfaithful (.refl g)) (.refl G)
    (.refl g) with
    ⟨⟨x, m, hx, hm, _, c, _, hc, hspells⟩, y, m', hy, hm', _, d, _, hd, hspells'⟩ |
    ⟨e, he, hx, hy⟩ | ⟨hx, hdeep⟩
  · obtain rfl := Condition.form_injective (hspells.unique hspells')
    exact .inl ⟨x, m.graph, y, m'.graph, by rw [hrun, hx, ok_bind], by rw [hrun, hy, ok_bind], hm,
      hm', c, hc, hd⟩
  · exact .inr (.inl ⟨e, he, by rw [hrun, hx, error_bind], by rw [hrun, hy, error_bind]⟩)
  · exact .inr (.inr ⟨by rw [hrun, hx, error_bind], hdeep⟩)

/-- The readers both read the same condition or both end with the same fault, unless the one with
the memory gives up. It never does if it may follow as many levels as there are parts. -/
theorem readBy_cases (hg : g.IsClosed) (hraw : g.Has raw) (limit : Nat) {room : Nat}
    (hroom : g.parts.size < room) :
    (∃ x G y G', readBy (readCondition [] limit) g raw = .ok (x, G) ∧
      readBy (readPlainly room) g raw = .ok (y, G') ∧ g.Extends G ∧ g.Extends G' ∧
      ∃ c : Condition, G.Builds x c ∧ G'.Builds y c) ∨
    (∃ e, e ≠ .nestedTooDeep ∧ readBy (readCondition [] limit) g raw = .error e ∧
      readBy (readPlainly room) g raw = .error e) ∨
    readBy (readCondition [] limit) g raw = .error .nestedTooDeep ∧ limit ≤ g.parts.size :=
  readBy_cases_of_extends hg hraw (.refl g) limit hroom

/-- Where there are fewer parts than levels that are followed, the plain reader tells how the other
one ends. -/
theorem isOk_readBy_eq (hg : g.IsClosed) (hraw : g.Has raw) {limit room : Nat}
    (hroom : g.parts.size < room) (hlimit : g.parts.size < limit) :
    (readBy (readCondition [] limit) g raw).isOk = (readBy (readPlainly room) g raw).isOk := by
  rcases readBy_cases hg hraw limit hroom with ⟨_, _, _, _, hx, hy, _⟩ | ⟨e, _, hx, hy⟩ | ⟨_, hle⟩
  · rw [hx, hy]
    rfl
  · rw [hx, hy]
  · omega

theorem readBy_eq_error_iff (hg : g.IsClosed) (hraw : g.Has raw) {limit room : Nat}
    (hroom : g.parts.size < room) (hlimit : g.parts.size < limit) {e : Fault} :
    readBy (readCondition [] limit) g raw = .error e ↔
      readBy (readPlainly room) g raw = .error e := by
  rcases readBy_cases hg hraw limit hroom with ⟨_, _, _, _, hx, hy, _⟩ | ⟨e, _, hx, hy⟩ | ⟨_, hle⟩
  · simp [hx, hy]
  · rw [hx, hy]
  · omega

end RawForm

end FilterCompiler
