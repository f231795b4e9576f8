import FilterCompiler.DefinitionFile
import FilterCompiler.Proofs.Shape

/-! What the reader of markup delivers. While the data of a document are built, collections stand
in the graph before they are filled, so parts are replaced as well as added. Proved here: each step
of building keeps the parts that were there before and leaves the new ones tidy, that is, they hold
new parts only, and of these a tuple only as a key or in a list of tuples. So whatever text is read,
what comes of it is data as the checks expect them, and what is proved of such data holds for every
text. -/

namespace FilterCompiler

namespace Graph

variable {g G G' G'' : Graph} {x : Operand}

/-- An operand is a literal or a part of a graph behind those of another. -/
def IsNew (g G : Graph) : Operand → Prop
  | .lit _ => True
  | .part n => g.parts.size ≤ n ∧ n < G.parts.size

/-- A new operand that may stand as an item or a value. -/
def IsItem (g G : Graph) (x : Operand) : Prop := g.IsNew G x ∧ ¬ G.IsTuple x

/-- A new tuple, as it stands in a list of such. -/
def IsRow (g G : Graph) (x : Operand) : Prop := g.IsNew G x ∧ G.IsTuple x

/-- A graph has as many parts as another or more, and the same tuples among those of the other. -/
structure Grows (G G' : Graph) : Prop where
  size : G.parts.size ≤ G'.parts.size
  tuple : ∀ x, G.Has x → (G'.IsTuple x ↔ G.IsTuple x)

theorem IsNew.has (h : g.IsNew G x) : G.Has x := by
  cases x with
  | lit v => trivial
  | part n => exact h.2

theorem Grows.refl (G : Graph) : Grows G G := ⟨Nat.le_refl _, fun _ _ => Iff.rfl⟩

theorem Grows.has (h : Grows G G') (hx : G.Has x) : G'.Has x := by
  cases x with
  | lit v => trivial
  | part n => exact Nat.lt_of_lt_of_le hx h.size

theorem Grows.trans (h : Grows G G') (h' : Grows G' G'') : Grows G G'' where
  size := Nat.le_trans h.size h'.size
  tuple x hx := (h'.tuple x (h.has hx)).trans (h.tuple x hx)

theorem IsNew.grow (h : g.IsNew G x) (hG : Grows G G') : g.IsNew G' x := by
  cases x with
  | lit v => trivial
  | part n => exact ⟨h.1, Nat.lt_of_lt_of_le h.2 hG.size⟩

theorem IsItem.grow (h : g.IsItem G x) (hG : Grows G G') : g.IsItem G' x :=
  ⟨h.1.grow hG, fun hx => h.2 ((hG.tuple x h.1.has).1 hx)⟩

theorem IsRow.grow (h : g.IsRow G x) (hG : Grows G G') : g.IsRow G' x :=
  ⟨h.1.grow hG, (hG.tuple x h.1.has).2 h.2⟩

theorem isItem_lit {v : Literal} : g.IsItem G (.lit v) := by
  refine ⟨trivial, ?_⟩
  rintro ⟨_, h⟩
  cases h

theorem lt_size_of_get? {n : Nat} {p : Part} (h : G.get? n = some p) : n < G.parts.size :=
  (Array.getElem?_eq_some_iff.1 h).1

theorem get?_replace_self {n : Nat} {p q : Part} (h : (G.replace n p).get? n = some q) : p = q := by
  have hn := lt_size_of_get? h
  simp only [replace, Array.size_setIfInBounds] at hn
  simpa [get?, replace, hn] using h

theorem grows_add (G : Graph) (p : Part) : Grows G (G.add p).2 where
  size := (G.extends_add p).size_le
  tuple x hx := by rw [IsTuple, IsTuple, (G.extends_add p).part?_eq hx]

/-- A part that is no tuple is replaced by another that is none. -/
theorem grows_replace {n : Nat} {p : Part} (hn : ¬ G.IsTuple (.part n))
    (hp : ∀ items, p ≠ .tuple items) : Grows G (G.replace n p) where
  size := by simp [replace]
  tuple x hx := by
    cases x with
    | lit v => exact Iff.rfl
    | part k =>
      by_cases hk : n = k
      · subst hk
        refine iff_of_false ?_ hn
        rintro ⟨items, h⟩
        exact hp items (get?_replace_self h)
      · rw [IsTuple, IsTuple, part?, part?, get?_replace_of_ne hk]

end Graph

/-- A part that was made of data. Tuples stand in it only as keys, or all its items are tuples. What
a tuple or a set holds may be anything new, since the checks do not look into them. -/
def Part.IsTidy (g G : Graph) : Part → Prop
  | .list items => (∀ x ∈ items, g.IsItem G x) ∨ ∀ x ∈ items, g.IsRow G x
  | .tuple items | .set items => ∀ x ∈ items, g.IsNew G x
  | .record entries | .ordered entries => ∀ e ∈ entries, g.IsNew G e.1 ∧ g.IsItem G e.2
  | .node _ => False

theorem Part.IsTidy.grow {g G G' : Graph} {p : Part} (h : p.IsTidy g G) (hG : Graph.Grows G G') :
    p.IsTidy g G' := by
  cases p with
  | list items => exact h.imp (fun h x hx => (h x hx).grow hG) fun h x hx => (h x hx).grow hG
  | tuple items | set items => exact fun x hx => (h x hx).grow hG
  | record entries | ordered entries => exact fun e he => ⟨(h e he).1.grow hG, (h e he).2.grow hG⟩
  | node n => exact h.elim

theorem Part.IsTidy.isNew {g G : Graph} {p : Part} (h : p.IsTidy g G) {x : Operand}
    (hx : x ∈ p.operands) : g.IsNew G x := by
  cases p with
  | list items => exact h.elim (fun h => (h x hx).1) fun h => (h x hx).1
  | tuple items | set items => exact h x hx
  | record entries | ordered entries =>
    rcases List.mem_append.1 hx with hx | hx
    · obtain ⟨e, he, rfl⟩ := List.mem_map.1 hx
      exact (h e he).1
    · obtain ⟨e, he, rfl⟩ := List.mem_map.1 hx
      exact (h e he).2.1
  | node n => exact h.elim

/-- Entries that were made of data. -/
def Entries.IsTidy (g G : Graph) (t : Entries) : Prop :=
  ∀ e ∈ t.rows, g.IsNew G e.1 ∧ g.IsItem G e.2

namespace Entries.IsTidy

variable {g G G' : Graph} {t : Entries}

theorem empty : IsTidy g G {} := by simp [IsTidy]

theorem grow (h : t.IsTidy g G) (hG : G.Grows G') : t.IsTidy g G' :=
  fun e he => ⟨(h e he).1.grow hG, (h e he).2.grow hG⟩

theorem insert (h : t.IsTidy g G) (g' : Graph) {key value : Operand} (hkey : g.IsNew G key)
    (hvalue : g.IsItem G value) : (t.insert g' key value).IsTidy g G := by
  intro e he
  unfold Entries.insert at he
  split at he
  · next i _ =>
    obtain ⟨k, hk, rfl⟩ := Array.getElem_of_mem he
    have hrow := h _ (Array.getElem_mem (by simpa using hk))
    rw [Array.getElem_modify]
    split
    · exact ⟨hrow.1, hvalue⟩
    · exact hrow
  · rcases Array.mem_push.1 he with he | rfl
    · exact h e he
    · exact ⟨hkey, hvalue⟩

end Entries.IsTidy

namespace Markup

/-- Of a building that goes on from a graph all new parts are tidy, and what it remembers are
items. -/
structure Building.IsTidy (g : Graph) (b : Building) : Prop where
  base : g.Extends b.graph
  parts : ∀ n p, g.parts.size ≤ n → b.graph.get? n = some p → p.IsTidy g b.graph
  known : ∀ (n : Nat) (x : Operand), b.known[n]? = some x → g.IsItem b.graph x
  underway : ∀ e ∈ b.underway, g.IsItem b.graph e.2
  waiting : ∀ e ∈ b.waiting, g.IsItem b.graph (.part e.2)

/-- Another graph that has grown, with its new parts tidy. -/
theorem Building.IsTidy.setGraph {g G : Graph} {b : Building} (hb : b.IsTidy g)
    (hgrows : b.graph.Grows G) (base : g.Extends G)
    (parts : ∀ n p, g.parts.size ≤ n → G.get? n = some p → p.IsTidy g G) :
    Building.IsTidy g { b with graph := G } where
  base := base
  parts := parts
  known n x hx := (hb.known n x hx).grow hgrows
  underway e he := (hb.underway e he).grow hgrows
  waiting e he := (hb.waiting e he).grow hgrows

/-- From a graph on, a step of building stays tidy, and if it is successful it gives what is asked
of it. -/
def Keeps {α : Type} (g G : Graph) (r : Build α) (Q : Graph → α → Prop) : Prop :=
  ∀ b : Building, b.IsTidy g → G.Grows b.graph →
    ∃ result b', r.run.run b = (result, b') ∧ b'.IsTidy g ∧ b.graph.Grows b'.graph ∧
      ∀ a, result = .ok a → Q b'.graph a

variable {α β : Type} {g G : Graph} {r : Build α} {Q : Graph → α → Prop} {R : Graph → β → Prop}

theorem run_bind (r : Build α) (f : α → Build β) (b : Building) :
    (r >>= f).run.run b =
      match r.run.run b with
      | (.ok a, b') => (f a).run.run b'
      | (.error e, b') => (.error e, b') := by
  unfold ExceptT.run StateT.run
  simp only [bind, ExceptT.bind, ExceptT.mk, StateT.bind, ExceptT.bindCont]
  cases r b with
  | mk result b' => cases result <;> rfl

namespace Keeps

theorem mono (h : Keeps g G r Q) {Q' : Graph → α → Prop}
    (hQ : ∀ G' a, G.Grows G' → Q G' a → Q' G' a) : Keeps g G r Q' := by
  intro b hb hG
  obtain ⟨result, b', hrun, hb', hgrows, ha⟩ := h b hb hG
  exact ⟨result, b', hrun, hb', hgrows, fun a hok => hQ _ a (hG.trans hgrows) (ha a hok)⟩

/-- Two steps in a row: the second one goes on from what the first one gives. -/
theorem bind {f : α → Build β} (h : Keeps g G r Q)
    (hf : ∀ G' a, G.Grows G' → Q G' a → Keeps g G' (f a) R) : Keeps g G (r >>= f) R := by
  intro b hb hG
  obtain ⟨result, b', hrun, hb', hgrows, ha⟩ := h b hb hG
  rw [run_bind, hrun]
  cases result with
  | error e => exact ⟨.error e, b', rfl, hb', hgrows, by simp⟩
  | ok a =>
    obtain ⟨result, b'', hrun', hb'', hgrows', ha'⟩ :=
      hf b'.graph a (hG.trans hgrows) (ha a rfl) b' hb' (.refl _)
    exact ⟨result, b'', hrun', hb'', hgrows.trans hgrows', ha'⟩

theorem pure {a : α} (h : ∀ G', G.Grows G' → Q G' a) : Keeps g G (Pure.pure a) Q := by
  intro b hb hG
  refine ⟨.ok a, b, rfl, hb, .refl _, fun a' ha => ?_⟩
  cases ha
  exact h _ hG

theorem throw (e : Refusal) : Keeps g G (throw e) Q :=
  fun b hb _ => ⟨.error e, b, rfl, hb, .refl _, by simp⟩

theorem malformed : Keeps g G Build.malformed Q := .throw _

/-- What is looked up is of some tidy building that the step goes on from. -/
theorem get {k : Building → Build β}
    (h : ∀ b : Building, b.IsTidy g → G.Grows b.graph → Keeps g b.graph (k b) R) :
    Keeps g G (MonadState.get >>= k) R := by
  intro b hb hG
  rw [run_bind]
  exact h b hb hG b hb (.refl _)

theorem change {f : Building → Building}
    (h : ∀ b : Building, b.IsTidy g → G.Grows b.graph →
      (f b).IsTidy g ∧ b.graph.Grows (f b).graph) :
    Keeps g G (modify f) fun _ _ => True :=
  fun b hb hG => ⟨.ok (), f b, rfl, (h b hb hG).1, (h b hb hG).2, fun _ _ => trivial⟩

/-- A change that has nothing to do with the graph or what is remembered of it. -/
theorem modifyNodes (f : Building → Nodes) :
    Keeps g G (modify fun b => { b with nodes := f b }) fun _ _ => True :=
  .change fun _ hb _ => ⟨⟨hb.base, hb.parts, hb.known, hb.underway, hb.waiting⟩, .refl _⟩

/-- A step that is only taken on a condition. -/
theorem whenever {c : Prop} [Decidable c] {r : Build Unit} {k : Unit → Build β}
    (h : Keeps g G r fun _ _ => True) (hk : ∀ G', G.Grows G' → Keeps g G' (k ()) R) :
    Keeps g G (if c then r >>= k else k ()) R := by
  split
  · exact h.bind fun G' _ hG _ => hk G' hG
  · exact hk G (.refl _)

/-! ### Loops -/

/-- A loop keeps what each of its rounds keeps. -/
theorem forIn_list {xs : List α} {init : β} {body : α → β → Build (ForInStep β)}
    (hR : ∀ G' G'' s, G'.Grows G'' → R G' s → R G'' s) (hinit : R G init)
    (hbody : ∀ G' x s, G.Grows G' → x ∈ xs → R G' s →
      Keeps g G' (body x s) fun G'' t => R G'' t.value) :
    Keeps g G (forIn xs init body) R := by
  induction xs generalizing G init with
  | nil => exact .pure fun G' hG => hR _ _ _ hG hinit
  | cons x xs ih =>
    rw [List.forIn_cons]
    refine (hbody G x init (.refl _) (List.mem_cons_self ..) hinit).bind fun G' t hG ht => ?_
    cases t with
    | done s => exact .pure fun G'' hG' => hR _ _ _ hG' ht
    | yield s =>
      exact ih ht fun G'' y s hG' hy =>
        hbody G'' y s (hG.trans hG') (List.mem_cons_of_mem _ hy)

theorem forIn_array {xs : Array α} {init : β} {body : α → β → Build (ForInStep β)}
    (hR : ∀ G' G'' s, G'.Grows G'' → R G' s → R G'' s) (hinit : R G init)
    (hbody : ∀ G' x s, G.Grows G' → R G' s →
      Keeps g G' (body x s) fun G'' t => R G'' t.value) :
    Keeps g G (forIn xs init body) R := by
  rw [← Array.forIn_toList]
  exact forIn_list hR hinit fun G' x s hG _ => hbody G' x s hG

theorem mapM {xs : Array α} {f : α → Build β}
    (h : ∀ G' x, Keeps g G' (f x) fun _ _ => True) :
    Keeps g G (xs.mapM f) fun _ _ => True := by
  rw [Array.mapM_eq_mapM_toList, map_eq_pure_bind]
  refine .bind (Q := fun _ _ => True) ?_ fun G' _ _ _ => .pure fun _ _ => trivial
  induction xs.toList generalizing G with
  | nil => exact .pure fun _ _ => trivial
  | cons x xs ih =>
    rw [List.mapM_cons]
    exact (h G x).bind fun G' _ _ _ => ih.bind fun G'' _ _ _ => .pure fun _ _ => trivial

/-! ### Nodes -/

theorem nodeOf (number : Nat) : Keeps g G (Build.nodeOf number) fun _ _ => True := by
  refine .get fun b _ _ => ?_
  split
  · exact .pure fun _ _ => trivial
  · exact .malformed

theorem kindOf (number : Nat) : Keeps g G (Build.kindOf number) fun _ _ => True :=
  (nodeOf number).bind fun _ _ _ _ => .pure fun _ _ => trivial

theorem entriesOf (number : Nat) : Keeps g G (Build.entriesOf number) fun _ _ => True := by
  refine (nodeOf number).bind fun _ n _ _ => ?_
  split
  · exact .pure fun _ _ => trivial
  · exact .malformed

theorem itemsOf (number : Nat) : Keeps g G (Build.itemsOf number) fun _ _ => True := by
  refine (nodeOf number).bind fun _ n _ _ => ?_
  split
  · exact .pure fun _ _ => trivial
  · exact .malformed

theorem onlyEntry (number : Nat) : Keeps g G (Build.onlyEntry number) fun _ _ => True := by
  refine (entriesOf number).bind fun G₁ entries _ _ => ?_
  split
  · exact .pure fun _ _ => trivial
  · exact .malformed

theorem setEntries (number : Nat) (entries : Array (Nat × Nat)) (merged : Bool) :
    Keeps g G (Build.setEntries number entries merged) fun _ _ => True :=
  .modifyNodes _

/-- Merging changes nodes only. Its three functions call one another, so one induction on the fuel
is for them all. -/
theorem flatten_all (fuel : Nat) : ∀ G : Graph,
    (∀ number, Keeps g G (Build.flatten fuel number) fun _ _ => True) ∧
    (∀ number index found,
      Keeps g G (Build.flattenFrom fuel number index found) fun _ _ => True) ∧
    ∀ number, Keeps g G (Build.broughtIn fuel number) fun _ _ => True := by
  induction fuel with
  | zero =>
    refine fun G => ⟨fun number => ?_, fun number index found => ?_, fun number => ?_⟩
    · rw [Build.flatten]
      exact .malformed
    · rw [Build.flattenFrom]
      exact .malformed
    · rw [Build.broughtIn]
      exact .malformed
  | succ fuel ih =>
    refine fun G => ⟨fun number => ?_, fun number index found => ?_, fun number => ?_⟩
    · rw [Build.flatten]
      exact (ih G).2.1 number 0 #[]
    · rw [Build.flattenFrom]
      refine (entriesOf number).bind fun G₁ entries _ _ => ?_
      split
      · split
        · exact setEntries _ _ _
        · exact .pure fun _ _ => trivial
      · next k v _ =>
        refine (kindOf k).bind fun G₂ kind _ _ => ?_
        split
        · refine .whenever .malformed fun G₃ _ => (setEntries _ _ _).bind fun G₄ _ _ _ => ?_
          exact ((ih G₄).2.2 v).bind fun G₅ _ _ _ => (ih G₅).2.1 _ _ _
        · exact (modifyNodes _).bind fun G₃ _ _ _ => (ih G₃).2.1 _ _ _
        · exact (ih G₂).2.1 _ _ _
    · rw [Build.broughtIn]
      refine (nodeOf number).bind fun G₁ n _ _ => ?_
      split
      · exact ((ih G₁).1 number).bind fun G₂ _ _ _ => entriesOf number
      · refine (mapM fun G₂ x => ?_).bind fun _ _ _ _ => .pure fun _ _ => trivial
        exact (entriesOf x).bind fun G₃ _ _ _ => ((ih G₃).1 x).bind fun _ _ _ _ => entriesOf x
      · exact .malformed

theorem flattened (number : Nat) : Keeps g G (Build.flattened number) fun _ _ => True := by
  refine .get fun b _ _ => (entriesOf number).bind fun G₁ entries _ _ => ?_
  refine .whenever ((flatten_all _ G₁).1 number) fun G₂ _ => ?_
  refine (nodeOf number).bind fun G₃ n _ _ => ?_
  split
  · exact .pure fun _ _ => trivial
  · exact .malformed

/-! ### Scalars -/

theorem textOf (fuel number : Nat) : Keeps g G (Build.textOf fuel number) fun _ _ => True := by
  induction fuel generalizing G number with
  | zero => exact .throw _
  | succ fuel ih =>
    refine (nodeOf number).bind fun G₁ n _ _ => ?_
    split
    · exact .pure fun _ _ => trivial
    · exact .malformed
    · refine .get fun b _ _ => ?_
      dsimp only
      split
      · exact ih _
      · exact .malformed

theorem result (r : Reads α) : Keeps g G (Build.result r) fun _ _ => True := by
  cases r with
  | ok x => exact .pure fun _ _ => trivial
  | error e => exact .throw e

theorem literal (kind : Kind) (number : Nat) :
    Keeps g G (Build.literal kind number) fun _ _ => True := by
  refine (nodeOf number).bind fun G₁ n _ _ => ?_
  split
  · exact .malformed
  · exact .malformed
  · exact (textOf _ number).bind fun G₂ text _ _ => .get fun b _ _ => .result _

/-! ### Keys -/

theorem checkKey (key : Operand) : Keeps g G (Build.checkKey key) fun _ _ => True := by
  refine .get fun b _ _ => ?_
  split
  · exact .throw _
  · exact .pure fun _ _ => trivial

theorem refuseTwice (shown : List Operand) :
    Keeps g G (Build.refuseTwice shown) fun _ _ => True := by
  refine .get fun b _ _ => ?_
  dsimp only
  split
  · exact .malformed
  · exact .throw _

/-! ### Parts -/

theorem add {p : Part} (hp : p.IsTidy g G) :
    Keeps g G (Build.add p) fun G' x => g.IsNew G' x ∧ G'.part? x = some p := by
  intro b hb hG
  have hgrows := Graph.grows_add b.graph p
  have hsize : g.parts.size ≤ b.graph.parts.size := hb.base.size_le
  refine ⟨.ok (b.graph.add p).1, { b with graph := (b.graph.add p).2 }, rfl, ?_, hgrows, ?_⟩
  · refine hb.setGraph hgrows (hb.base.trans (b.graph.extends_add p)) fun n q hn hq => ?_
    rw [Graph.get?_add] at hq
    split at hq
    · cases hq
      exact hp.grow (hG.trans hgrows)
    · exact (hb.parts n q hn hq).grow hgrows
  · rintro x hx
    cases hx
    exact ⟨⟨hsize, Graph.has_add b.graph p⟩, by simp [Graph.part?, Graph.get?, Graph.add]⟩

/-- A part that is no tuple may be filled with anything tidy but a tuple. -/
theorem replace {n : Nat} {p : Part} (hn : g.IsItem G (.part n)) (hp : p.IsTidy g G)
    (htuple : ∀ items, p ≠ .tuple items) :
    Keeps g G (Build.replace n p) fun _ _ => True := by
  refine .change fun b hb hG => ?_
  have hgrows := Graph.grows_replace (hn.grow hG).2 htuple
  refine ⟨hb.setGraph hgrows (fun k q hq => ?_) fun k q hk hq => ?_, hgrows⟩
  · -- The part is behind those of the graph that the building goes on from.
    have hk : n ≠ k := by
      rintro rfl
      exact absurd (Graph.lt_size_of_get? hq) (Nat.not_lt.2 hn.1.1)
    exact (Graph.get?_replace_of_ne hk).trans (hb.base k q hq)
  · by_cases hkn : n = k
    · subst hkn
      cases Graph.get?_replace_self hq
      exact hp.grow (hG.trans hgrows)
    · rw [Graph.get?_replace_of_ne hkn] at hq
      exact (hb.parts k q hk hq).grow hgrows

theorem setUnderway {number : Nat} {x : Operand} (hx : g.IsItem G x) :
    Keeps g G (Build.setUnderway number x) fun _ _ => True := by
  refine .change fun b hb hG => ⟨⟨hb.base, hb.parts, hb.known, ?_, hb.waiting⟩, .refl _⟩
  exact List.forall_mem_cons.2 ⟨hx.grow hG, hb.underway⟩

theorem setWaiting {number n : Nat} (hn : g.IsItem G (.part n)) :
    Keeps g G (modify fun b => { b with waiting := (number, n) :: b.waiting })
      fun _ _ => True := by
  refine .change fun b hb hG => ⟨⟨hb.base, hb.parts, hb.known, hb.underway, ?_⟩, .refl _⟩
  exact List.forall_mem_cons.2 ⟨hn.grow hG, hb.waiting⟩

theorem setEager (f : Building → Bool) :
    Keeps g G (modify fun b => { b with eager := f b }) fun _ _ => True :=
  .change fun _ hb _ => ⟨⟨hb.base, hb.parts, hb.known, hb.underway, hb.waiting⟩, .refl _⟩

theorem remember {number : Nat} {x : Operand} (hx : g.IsItem G x) :
    Keeps g G (Build.remember number x) fun _ _ => True := by
  refine .change fun b hb hG => ⟨⟨hb.base, hb.parts, fun n y hy => ?_, fun e he => ?_,
    hb.waiting⟩, .refl _⟩
  · rw [Std.HashMap.getElem?_insert] at hy
    split at hy
    · cases hy
      exact hx.grow hG
    · exact hb.known n y hy
  · exact hb.underway e (List.mem_filter.1 he).1

/-! ### Filling -/

section Filling

variable {construct : Construction} (hc : ∀ G now number, Keeps g G (construct now number) g.IsItem)

include hc

/-- A key may be a tuple. It is new, as all is that a tuple holds. -/
theorem keyOf (number : Nat) : Keeps g G (Build.keyOf construct number) g.IsNew := by
  refine (hc G true number).bind fun G₁ x _ hx => .get fun b hb hG => ?_
  split
  · next items hitems =>
    refine (add (p := .tuple items) ?_).mono fun _ _ _ h => h.1
    cases x with
    | lit v => cases hitems
    | part n =>
      rcases hb.parts n _ hx.1.1 hitems with h | h
      · exact fun y hy => (h y hy).1
      · exact fun y hy => (h y hy).1
  · exact .malformed
  · exact .malformed
  · exact .malformed
  · exact .pure fun G₂ hG₂ => hx.1.grow (hG.trans hG₂)

theorem entriesIn (number : Nat) :
    Keeps g G (Build.entriesIn construct number) fun G' t => t.IsTidy g G' := by
  refine (flattened number).bind fun G₁ entries _ _ => ?_
  refine .bind (Q := fun G' t => t.IsTidy g G') ?_ fun G₂ t _ ht => .pure fun G₃ hG₃ => ht.grow hG₃
  refine forIn_array (fun _ _ _ hG ht => ht.grow hG) .empty fun G₂ e t _ ht => ?_
  refine (keyOf hc e.1).bind fun G₃ key hG₃ hkey => ?_
  refine (hc G₃ false e.2).bind fun G₄ value hG₄ hvalue => ?_
  refine (checkKey key).bind fun G₅ _ hG₅ _ => .get fun b hb hG => ?_
  -- Whether or not the key is checked for coming twice, the entry is set in the end.
  have hset : ∀ G', b.graph.Grows G' → Keeps g G'
      (Pure.pure (.yield (t.insert b.graph key value)) : Build (ForInStep Entries))
      fun G'' s => s.value.IsTidy g G'' := by
    refine fun G' hG' => .pure fun G'' hG'' => ?_
    have hgrow := (hG₅.trans hG).trans (hG'.trans hG'')
    exact (ht.grow (hG₃.trans (hG₄.trans hgrow))).insert _ (hkey.grow (hG₄.trans hgrow))
      (hvalue.grow hgrow)
  dsimp only
  split
  · split
    · exact (refuseTwice _).bind fun G' _ hG' _ => hset G' hG'
    · exact hset _ (.refl _)
  · exact hset _ (.refl _)

theorem contents_pairs (number : Nat) :
    Keeps g G (Build.contents construct .pairs number) fun G' p =>
      p.IsTidy g G' ∧ ∀ items, p ≠ .tuple items := by
  refine (itemsOf number).bind fun G₁ numbers _ _ => ?_
  refine .bind (Q := fun G' items => ∀ x ∈ items, g.IsRow G' x)
    (forIn_array (fun _ _ _ hG h x hx => (h x hx).grow hG) (by simp) fun G₂ n rows _ hrows => ?_)
    fun G₂ rows _ h => .pure fun G₃ hG₃ => ⟨.inr fun x hx => ?_, by simp⟩
  · refine (onlyEntry n).bind fun G₃ e hG₃ _ => ?_
    refine (hc G₃ false e.1).bind fun G₄ key hG₄ hkey => ?_
    refine (hc G₄ false e.2).bind fun G₅ value hG₅ hvalue => ?_
    have hpair : Part.IsTidy g G₅ (.tuple [key, value]) := by
      simpa [Part.IsTidy] using ⟨(hkey.grow hG₅).1, hvalue.1⟩
    refine (add hpair).bind fun G₆ pair hG₆ hpair => .pure fun G₇ hG₇ x hx => ?_
    have hgrow := hG₃.trans (hG₄.trans (hG₅.trans (hG₆.trans hG₇)))
    rcases Array.mem_push.1 hx with hx | rfl
    · exact (hrows x hx).grow hgrow
    · exact Graph.IsRow.grow ⟨hpair.1, _, hpair.2⟩ hG₇
  · exact (h x (Array.mem_toList_iff.1 hx)).grow hG₃

theorem contents_ordered (number : Nat) :
    Keeps g G (Build.contents construct .ordered number) fun G' p =>
      p.IsTidy g G' ∧ ∀ items, p ≠ .tuple items := by
  refine (itemsOf number).bind fun G₁ numbers _ _ => ?_
  refine .bind (Q := fun G' t => t.IsTidy g G')
    (forIn_array (fun _ _ _ hG ht => ht.grow hG) .empty fun G₂ n t _ ht => ?_)
    fun G₂ t _ ht => .pure fun G₃ hG₃ => ⟨fun e he => ?_, by simp⟩
  · refine (onlyEntry n).bind fun G₃ e hG₃ _ => ?_
    refine (hc G₃ false e.1).bind fun G₄ key hG₄ hkey => ?_
    refine (checkKey key).bind fun G₅ _ hG₅ _ => .get fun b hb hG₆ => ?_
    refine .whenever (.throw _) fun G₇ hG₇ => ?_
    refine (hc G₇ false e.2).bind fun G₈ value hG₈ hvalue => .get fun b' hb' hG₉ => ?_
    refine .pure fun G' hG' => ?_
    have hgrow := hG₅.trans (hG₆.trans (hG₇.trans (hG₈.trans (hG₉.trans hG'))))
    exact (ht.grow (hG₃.trans (hG₄.trans hgrow))).insert _ (hkey.1.grow hgrow)
      (hvalue.grow (hG₉.trans hG'))
  · exact ht.grow hG₃ e (Array.mem_toList_iff.1 he)

theorem contents (kind : Kind) (number : Nat) :
    Keeps g G (Build.contents construct kind number) fun G' p =>
      p.IsTidy g G' ∧ ∀ items, p ≠ .tuple items := by
  unfold Build.contents
  split
  · refine (entriesIn hc number).bind fun G₁ t _ ht => .pure fun G₂ hG₂ => ⟨?_, by simp⟩
    exact fun e he => ht.grow hG₂ e (Array.mem_toList_iff.1 he)
  · refine (entriesIn hc number).bind fun G₁ t _ ht => .pure fun G₂ hG₂ => ⟨?_, by simp⟩
    refine List.forall_mem_map.2 fun e he => ?_
    exact (ht.grow hG₂ e (Array.mem_toList_iff.1 he)).1
  · exact contents_pairs hc number
  · exact contents_ordered hc number
  · refine (itemsOf number).bind fun G₁ numbers _ _ => ?_
    refine .bind (Q := fun G' items => ∀ x ∈ items, g.IsItem G' x)
      (forIn_array (fun _ _ _ hG h x hx => (h x hx).grow hG) (by simp)
        fun G₂ n items _ hitems => ?_)
      fun G₂ items _ h => .pure fun G₃ hG₃ => ⟨.inl fun x hx => ?_, by simp⟩
    · refine (hc G₂ false n).bind fun G₃ x hG₃ hx => .pure fun G₄ hG₄ y hy => ?_
      rcases Array.mem_push.1 hy with hy | rfl
      · exact (hitems y hy).grow (hG₃.trans hG₄)
      · exact hx.grow hG₄
    · exact (h x (Array.mem_toList_iff.1 hx)).grow hG₃

/-- A part that is no tuple is filled. -/
theorem fill {number n : Nat} (hn : g.IsItem G (.part n)) :
    Keeps g G (Build.fill construct number n) fun _ _ => True :=
  (kindOf number).bind fun _ kind hG₁ _ =>
    (contents hc kind number).bind fun _ _ hG₂ hp => replace (hn.grow (hG₁.trans hG₂)) hp.1 hp.2

omit hc in
theorem isTidy_of_emptyPart? {kind : Kind} {p : Part} (h : Build.emptyPart? kind = some p) :
    p.IsTidy g G ∧ ∀ items, p ≠ .tuple items := by
  cases kind <;> cases h <;> simp [Part.IsTidy]

theorem made (number : Nat) : Keeps g G (Build.made construct number) g.IsItem := by
  refine (kindOf number).bind fun G₁ kind _ _ => ?_
  split
  · refine (literal kind number).bind fun G₂ v _ _ => .pure fun G₃ _ => Graph.isItem_lit
  · next p hp =>
    obtain ⟨htidy, htuple⟩ := isTidy_of_emptyPart? hp
    refine (add htidy).bind fun G₂ x hG₂ hx => ?_
    have hitem : g.IsItem G₂ x := by
      refine ⟨hx.1, ?_⟩
      rintro ⟨items, h⟩
      exact htuple items (Option.some.inj (hx.2.symm.trans h))
    cases x with
    | lit v => exact .malformed
    | part n =>
      refine .get fun b hb hG₃ => ?_
      dsimp only
      split
      · refine (setUnderway (hitem.grow hG₃)).bind fun G₄ _ hG₄ _ => ?_
        refine (fill hc (hitem.grow (hG₃.trans hG₄))).bind fun G₅ _ hG₅ _ => .pure fun G₆ hG₆ => ?_
        exact hitem.grow (hG₃.trans (hG₄.trans (hG₅.trans hG₆)))
      · exact (setWaiting (hitem.grow hG₃)).bind fun G₄ _ hG₄ _ => .pure fun G₅ hG₅ =>
          hitem.grow (hG₃.trans (hG₄.trans hG₅))

end Filling

/-! ### Documents -/

/-- By induction on the room: what a node holds is constructed with less of it. -/
theorem operand (room : Nat) : ∀ (G : Graph) (now : Bool) (number : Nat),
    Keeps g G (Build.operand room now number) g.IsItem := by
  induction room with
  | zero => exact fun _ _ _ => .throw _
  | succ room ih =>
    intro G now number
    refine .get fun b hb _ => ?_
    split
    · next x hx => exact .pure fun G' hG' => (hb.known number x hx).grow hG'
    · refine .whenever (setEager _) fun G₁ hG₁ => ?_
      split
      · next e x hx =>
        have hitem := hb.underway (e, x) (List.mem_of_find?_eq_some hx)
        exact .pure fun G₂ hG₂ => hitem.grow (hG₁.trans hG₂)
      · refine (setUnderway Graph.isItem_lit).bind fun G₂ _ _ _ => ?_
        refine (made ih number).bind fun G₃ x _ hx => (remember hx).bind fun G₄ _ hG₄ _ => ?_
        refine .whenever (setEager _) fun G₅ hG₅ => .pure fun G₆ hG₆ => ?_
        exact hx.grow (hG₄.trans (hG₅.trans hG₆))

theorem complete (rounds : Nat) : Keeps g G (Build.complete rounds) fun _ _ => True := by
  induction rounds generalizing G with
  | zero => exact .malformed
  | succ rounds ih =>
    refine .get fun b hb _ => ?_
    split
    · exact .pure fun _ _ => trivial
    · have hclear : Keeps g b.graph (modify fun b => { b with waiting := [] }) fun _ _ => True :=
        .change fun b' hb' _ => ⟨⟨hb'.base, hb'.parts, hb'.known, hb'.underway, by simp⟩, .refl _⟩
      refine hclear.bind fun G₁ _ hG₁ _ => ?_
      refine .bind (Q := fun _ _ => True) ?_ fun G₂ _ _ _ => ih
      refine forIn_list (fun _ _ _ _ _ => trivial) trivial fun G₂ e _ hG₂ he _ => ?_
      have hwait := (hb.waiting e (List.mem_reverse.1 he)).grow (hG₁.trans hG₂)
      exact (fill (operand _) hwait).bind fun _ _ _ _ => .pure fun _ _ => trivial

theorem document (root : Nat) : Keeps g G (Build.document root) g.IsItem := by
  refine (operand _ G false root).bind fun G₁ x _ hx => .get fun b _ hG₁ => ?_
  refine (complete _).bind fun G₂ _ hG₂ _ => ?_
  have hclear : Keeps g G₂
      (modify fun b => { b with known := {}, underway := [], eager := false }) fun _ _ => True :=
    .change fun b' hb' _ => ⟨⟨hb'.base, hb'.parts, by simp, by simp, hb'.waiting⟩, .refl _⟩
  refine hclear.bind fun G₃ _ hG₃ _ => .pure fun G₄ hG₄ => ?_
  exact hx.grow (hG₁.trans (hG₂.trans (hG₃.trans hG₄)))

end Keeps

/-! ### Data -/

theorem Building.IsTidy.start (r : Reader) (hr : r.progress = {}) (g : Graph) :
    Building.IsTidy g ⟨r.progress, g, r.nodes, r.version⟩ where
  base := .refl g
  parts n p hn hp := absurd (Graph.lt_size_of_get? hp) (Nat.not_lt.2 hn)
  known := by simp [hr]
  underway := by simp [hr]
  waiting := by simp [hr]

/-- What stands in a new part is new, and it is a tuple only in a list that begins with one. -/
theorem Building.IsTidy.inner {b : Building} (hb : b.IsTidy g) {x y : Operand}
    (hx : g.IsNew b.graph x) (h : b.graph.Inner x y) :
    g.IsNew b.graph y ∧ (b.graph.IsTuple y →
      ∃ first rest, b.graph.part? x = some (.list (first :: rest)) ∧ b.graph.IsTuple first) := by
  obtain ⟨ys, hys, hy⟩ := h
  cases x with
  | lit v => cases hys
  | part n =>
    unfold Graph.inner? at hys
    split at hys
    · next items hp =>
      cases hys
      rcases hb.parts n _ hx.1 hp with h | h
      · exact ⟨(h y hy).1, fun htuple => absurd htuple (h y hy).2⟩
      · refine ⟨(h y hy).1, fun _ => ?_⟩
        obtain ⟨first, rest, rfl⟩ := List.exists_cons_of_ne_nil (List.ne_nil_of_mem hy)
        exact ⟨first, rest, hp, (h first List.mem_cons_self).2⟩
    · next entries hp =>
      cases hys
      obtain ⟨e, he, rfl⟩ := List.mem_map.1 hy
      have hitem := (hb.parts n _ hx.1 hp e he).2
      exact ⟨hitem.1, fun htuple => absurd htuple hitem.2⟩
    · next entries hp =>
      cases hys
      obtain ⟨e, he, rfl⟩ := List.mem_map.1 hy
      have hitem := (hb.parts n _ hx.1 hp e he).2
      exact ⟨hitem.1, fun htuple => absurd htuple hitem.2⟩
    · cases hys

theorem Building.IsTidy.isClosed {b : Building} (hb : b.IsTidy g) (hg : g.IsClosed) :
    b.graph.IsClosed := by
  intro n p hp x hx
  by_cases hn : n < g.parts.size
  · rw [hb.base.get?_eq hn] at hp
    exact hb.base.has (hg n p hp x hx)
  · exact ((hb.parts n p (Nat.not_lt.1 hn) hp).isNew hx).has

theorem Building.IsTidy.isData {b : Building} (hb : b.IsTidy g) (hg : g.IsClosed) {x : Operand}
    (hx : g.IsNew b.graph x) : b.graph.IsData x where
  closed := hb.isClosed hg
  has := hx.has
  tuples y z hy hz := by
    have hnew : g.IsNew b.graph y := by
      clear hz
      induction hy with
      | refl => exact hx
      | tail _ h ih => exact (hb.inner ih h).1
    exact (hb.inner hnew hz).2

/-- A reader that has nothing pending gives data as the checks expect them, and leaves the parts
that were there. -/
theorem Reader.read_isData {r : Reader} (hr : r.progress = {}) (hg : g.IsClosed) {text : String}
    {x : Operand} {r' : Reader} (h : r.read g text = (.ok x, r', G)) :
    G.IsData x ∧ g.Extends G := by
  have hprogress : (r.compose text).2.progress = {} := hr
  unfold Reader.read at h
  split at h
  · cases h
  · cases h
    exact ⟨(Building.IsTidy.start r hr g).isData hg trivial, .refl g⟩
  · next root r₁ hcompose =>
    rw [hcompose] at hprogress
    obtain ⟨result, b, hrun, hb, -, hx⟩ :=
      Keeps.document root _ (Building.IsTidy.start r₁ hprogress g) (.refl g)
    dsimp only at h
    rw [hrun] at h
    cases h
    exact ⟨hb.isData hg (hx x rfl).1, hb.base⟩

end Markup

namespace DefinitionFile

variable {g G : Graph} {text : String} {data : Operand}

theorem readingOf_isData (hg : g.IsClosed) (h : readingOf {} g text = (.ok data, G)) :
    G.IsData data := by
  have hdata : (Markup.Reader.read {} g text).1 = .ok data := congrArg Prod.fst h
  have hgraph : (Markup.Reader.read {} g text).2.2 = G := congrArg Prod.snd h
  have hread : Markup.Reader.read {} g text = (.ok data, _, G) :=
    Prod.ext hdata (Prod.ext rfl hgraph)
  exact (Markup.Reader.read_isData rfl hg hread).1

end DefinitionFile

end FilterCompiler
