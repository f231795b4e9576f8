import FilterCompiler.Proofs.Culprit
import FilterCompiler.Proofs.Delivery

/-! How deep conditions are read. Proved here: of data whose shape was found to be right no
condition is read below as many levels as the deepest element may lie, since nothing in the raw form
of a condition is a tuple, into which the check does not look. Whatever text a reader is given, its
data are of this kind, so the check does what it is for. -/

namespace FilterCompiler

namespace RawForm

/-- From every graph that goes on from a given one two readings do the same, and if it is not
successful, it is for a fault of compiling. -/
def Alike {α : Type} (g : Graph) (r r' : Reading α) : Prop :=
  ∀ m, g.Extends m.graph → r' m = r m ∧
    ((∃ a m', r m = .ok (a, m') ∧ g.Extends m'.graph) ∨ ∃ e, r m = .error e ∧ e.isOwn = true)

namespace Alike

variable {α β : Type} {g : Graph} {r r' : Reading α}

theorem of_ends {Q : α → Prop}
    (h : Ends (Memory.Knows g fun _ => True) (fun e => e.isOwn = true) r Q) : Alike g r r := by
  intro m hm
  refine ⟨rfl, (h m ⟨hm, fun _ _ _ => trivial⟩).imp_left ?_⟩
  exact fun ⟨a, m', hrun, hm', _⟩ => ⟨a, m', hrun, hm'.graph⟩

theorem pure (a : α) : Alike g (Pure.pure a) (Pure.pure a) :=
  .of_ends (Q := fun _ => True) (.pure trivial)

theorem throw {e : Fault} (h : e.isOwn = true) :
    Alike g (throw e : Reading α) (MonadExcept.throw e) :=
  .of_ends (Q := fun _ => True) (.throw h)

theorem bind {f f' : α → Reading β} (h : Alike g r r') (hf : ∀ a, Alike g (f a) (f' a)) :
    Alike g (r >>= f) (r' >>= f') := by
  intro m hm
  have hbind (r : Reading α) (f : α → Reading β) : (r >>= f) m = r m >>= fun p => f p.1 p.2 := rfl
  obtain ⟨hsame, hrun⟩ := h m hm
  rw [hbind, hbind, hsame]
  rcases hrun with ⟨a, m', hrun, hm'⟩ | ⟨e, hrun, he⟩
  · rw [hrun, ok_bind, ok_bind]
    exact hf a m' hm'
  · rw [hrun, error_bind, error_bind]
    exact ⟨rfl, .inr ⟨e, rfl, he⟩⟩

/-- What is looked up is of some graph that the readings go on from. -/
theorem look {f : Memory → α} {k k' : α → Reading β}
    (h : ∀ m, g.Extends m.graph → Alike g (k (f m)) (k' (f m))) :
    Alike g (RawForm.look f >>= k) (RawForm.look f >>= k') :=
  fun m hm => h m hm m hm

theorem refuse (problem : Problem) (place : Place) :
    Alike g (RawForm.refuse problem place : Reading α) (RawForm.refuse problem place) :=
  .throw rfl

theorem readValue (place : Place) (raw : Operand) :
    Alike g (RawForm.readValue place raw) (RawForm.readValue place raw) :=
  .of_ends (.readValue (fun _ _ => rfl) place raw)

theorem quiet {condition condition' value : Step → Operand → Reading Operand} {p : Procedure}
    (hp : p.IsQuiet) (place : Place) :
    Alike g (p.run condition value place) (p.run condition' value place) := by
  induction p with
  | give x => exact .pure x
  | add part next ih =>
    exact bind (.of_ends (Q := fun _ => True) (.addPart part)) fun x => ih x (hp x)
  | fail _ | condition _ _ _ | value _ _ _ | look _ => exact hp.elim

/-- Arguments are read in order, each of them alike, and then nothing can fail. -/
theorem run_of_readsAll {condition condition' value : Step → Operand → Reading Operand} {k : Kind}
    {i : Nat} {arguments : List Operand} {p : Procedure} (hp : p.ReadsAll k i arguments)
    (hcondition : ∀ raw ∈ arguments, ∀ step, Alike g (condition step raw) (condition' step raw))
    (hvalue : ∀ step raw, Alike g (value step raw) (value step raw)) (place : Place) :
    Alike g (p.run condition value place) (p.run condition' value place) := by
  induction arguments generalizing i p with
  | nil => exact quiet hp place
  | cons raw rest ih =>
    obtain ⟨next, rfl, hnext⟩ := hp
    rw [List.forall_mem_cons] at hcondition
    rw [Procedure.run_ask, Procedure.run_ask]
    refine bind ?_ fun x => ih (hnext x) hcondition.2
    cases k with
    | condition => exact hcondition.1 _
    | value => exact hvalue _ raw

theorem read {condition condition' : Place → Operand → Reading Operand} {head : Head}
    {arguments : List Operand}
    (h : ∀ raw ∈ arguments, ∀ place, Alike g (condition place raw) (condition' place raw))
    (place : Place) :
    Alike g (head.read condition arguments place) (head.read condition' arguments place) := by
  rw [Head.read_eq_run, Head.read_eq_run]
  cases hproblem : head.problem? arguments with
  | some problem =>
    rw [Head.procedure_of_problem? hproblem]
    exact .refuse problem place
  | none =>
    cases hkind : head.kind? with
    | none => exact quiet (Head.isQuiet_procedure hproblem hkind) place
    | some k =>
      exact run_of_readsAll (Head.readsAll_procedure hproblem hkind)
        (fun raw hraw step => h raw hraw (place ++ [step])) (fun step => readValue _) place

/-- What is less high than both readings follow levels is read alike, and never given up. -/
theorem readCondition {data raw : Operand} {t : Tree} {room room' : Nat} {above : List Operand}
    (hdata : g.IsData data) (hraw : Relation.ReflTransGen g.Inner data raw)
    (hrow : ¬ g.IsTuple raw) (ht : g.Unfolds raw t) (hroom : t.height < room)
    (hroom' : t.height < room') (place : Place) :
    Alike g (RawForm.readCondition [] room above place raw)
      (RawForm.readCondition [] room' above place raw) := by
  induction room generalizing raw t room' above place with
  | zero => omega
  | succ room ih =>
    obtain ⟨room', rfl⟩ := Nat.exists_eq_add_one.2 (Nat.zero_lt_of_lt hroom')
    rw [RawForm.readCondition, RawForm.readCondition]
    refine look fun m hm => ?_
    rw [hm.items?_eq (hdata.has_of_reaches hraw)]
    split
    · exact .refuse _ _
    · exact .refuse _ _
    · next tag arguments items =>
      split
      · exact look fun m _ => .throw rfl
      · refine look fun m _ => ?_
        split
        · exact .pure _
        · split
          · next text =>
            refine bind ?_ fun node => .of_ends (Q := fun _ => True)
              ((Ends.remember trivial).bind fun _ _ => .pure trivial)
            cases hhead : head? text with
            | none =>
              rw [readTagged_unknown hhead, readTagged_unknown hhead]
              exact .refuse _ _
            | some head =>
              obtain rfl := head?_eq_some_iff.1 hhead
              rw [readTagged_tag, readTagged_tag]
              refine read (fun y hy place => ?_) place
              obtain ⟨hinner, hy⟩ := hdata.arguments hraw hrow items hy
              obtain ⟨u, hu, hunfolds⟩ := ht.exists_inner hinner
              have hlt := Tree.height_le_iff.1 (Nat.le_refl t.height) u hu
              exact ih (hraw.tail hinner) hy hunfolds (by omega) (by omega) place
          · exact .refuse _ _

end Alike

end RawForm

namespace DefinitionFile

open RawForm (readBy readCondition)

variable {g : Graph} {x : Operand}

/-- Of data whose shape was found to be right each condition is read with as many levels as the
deepest element may lie. -/
theorem alike_of_checkShape (hdata : g.IsData x) (hshape : checkShape g x = .ok ())
    {rows : List (Operand × Operand)} (hrows : g.entries? x = some rows)
    {row : Operand × Operand} (hrow : row ∈ rows) {room : Nat} (hroom : depthLimit ≤ room) :
    RawForm.Alike g (readCondition [] depthLimit [] [] row.2)
      (readCondition [] room [] [] row.2) := by
  obtain ⟨t, ht, _, hheight⟩ := exists_unfolds_of_checkShape hshape
  obtain ⟨hinner, htuple⟩ := hdata.not_isTuple_of_entries hrows hrow
  obtain ⟨u, hu, hunfolds⟩ := ht.exists_inner hinner
  have hlt : u.height < depthLimit := Tree.height_le_iff.1 hheight u hu
  exact .readCondition hdata (.single hinner) htuple hunfolds hlt (Nat.lt_of_lt_of_le hlt hroom) []

/-- A whole reading of such a condition is the same for all limits that the deepest element keeps
to, and is not given up. -/
theorem readBy_of_checkShape (hdata : g.IsData x) (hshape : checkShape g x = .ok ())
    {rows : List (Operand × Operand)} (hrows : g.entries? x = some rows)
    {row : Operand × Operand} (hrow : row ∈ rows) {G : Graph} (hG : g.Extends G) {room : Nat}
    (hroom : depthLimit ≤ room) :
    readBy (readCondition [] room) G row.2 = readBy (readCondition [] depthLimit) G row.2 ∧
      ∀ e, readBy (readCondition [] room) G row.2 = .error e → e.isOwn = true := by
  have hrun (room : Nat) : readBy (readCondition [] room) G row.2 =
      readCondition [] room [] [] row.2 ⟨G, {}⟩ >>= fun p => .ok (p.1, p.2.graph) := rfl
  obtain ⟨hsame, hends⟩ := alike_of_checkShape hdata hshape hrows hrow hroom ⟨G, {}⟩ hG
  rw [hrun, hrun, hsame]
  refine ⟨rfl, fun e he => ?_⟩
  rcases hends with ⟨a, m, hread, _⟩ | ⟨f, hread, hf⟩
  · rw [hread] at he
    cases he
  · rw [hread] at he
    cases he
    exact hf

/-- Whatever text is read, no condition of its data is given up once their shape was found to be
right. -/
theorem readBy_of_readingOf {g₀ : Graph} (hg₀ : g₀.IsClosed) {text : String}
    (hread : readingOf {} g₀ text = (.ok x, g)) (hshape : checkShape g x = .ok ())
    {rows : List (Operand × Operand)} (hrows : g.entries? x = some rows)
    {row : Operand × Operand} (hrow : row ∈ rows) :
    readBy (readCondition [] depthLimit) g row.2 ≠ .error .nestedTooDeep := by
  intro hdeep
  cases (readBy_of_checkShape (readingOf_isData hg₀ hread) hshape hrows hrow (.refl g)
    (Nat.le_refl _)).2 _ hdeep

/-- The check refuses data that have a tree exactly if it has too many elements or a too deep one,
naming a limit that it breaks, and data that hold themselves always. Of markup data that it accepts
no condition is read below as many levels as the deepest element may lie: the reading is not given
up with just those, and more do not change it. -/
theorem checkShape_exact (g : Graph) (x : Operand) :
    (∀ t, g.Unfolds x t →
      ((∃ p, checkShape g x = .error p) ↔ countLimit < t.size ∨ depthLimit < t.height) ∧
      (checkShape g x = .error .tooMany → countLimit < t.size) ∧
      (checkShape g x = .error .tooDeep → depthLimit < t.height)) ∧
    (∀ p, checkShape g x = .error p → p = .tooMany ∨ p = .tooDeep) ∧
    (checkShape g x = .ok () → ∃ t, g.Unfolds x t) ∧
    (∀ y, Relation.ReflTransGen g.Inner x y → Relation.TransGen g.Inner y y →
      ∃ p, checkShape g x = .error p) ∧
    (g.IsData x → checkShape g x = .ok () → ∀ rows, g.entries? x = some rows → ∀ row ∈ rows,
      ∀ G, g.Extends G → readBy (readCondition [] depthLimit) G row.2 ≠ .error .nestedTooDeep ∧
        ∀ room, depthLimit ≤ room →
          readBy (readCondition [] room) G row.2 =
            readBy (readCondition [] depthLimit) G row.2) := by
  refine ⟨fun t ht => ?_, fun p => measure_eq_error, fun hok => ?_, fun y hxy hy => ?_,
    fun hdata hok rows hrows row hrow G hG => ⟨fun hdeep => ?_, fun room hroom => ?_⟩⟩
  · rcases checkShape_cases ht with ⟨hrun, hsize, hheight⟩ | ⟨hrun, hsize⟩ | ⟨hrun, hheight⟩
    · simp [hrun, hsize, hheight]
    · simp [hrun, hsize]
    · simp [hrun, hheight]
  · obtain ⟨t, ht, _⟩ := exists_unfolds_of_checkShape hok
    exact ⟨t, ht⟩
  · cases hrun : checkShape g x with
    | error p => exact ⟨p, rfl⟩
    | ok u =>
      obtain ⟨t, ht, _⟩ := exists_unfolds_of_checkShape hrun
      exact absurd ht (Graph.not_unfolds_of_transGen hxy hy t)
  · cases (readBy_of_checkShape hdata hok hrows hrow hG (Nat.le_refl _)).2 _ hdeep
  · exact (readBy_of_checkShape hdata hok hrows hrow hG hroom).1

/-- A record of one condition, in which a negation stands twice, and a list that holds itself. -/
def sharedNegation : Graph :=
  ⟨#[.list [.lit (.text "field"), .lit (.integer 1)], .list [.lit (.text "not"), .part 0],
    .list [.lit (.text "and"), .part 1, .part 1], .record [(.lit (.text "both"), .part 2)],
    .list [.lit (.text "not"), .part 4]]⟩

/-- The tree of a negation. -/
def negationTree : Tree := .collection [.scalar, .collection [.scalar, .scalar]]

/-- The shared negation counts twice; no markup gives the list that holds itself. -/
theorem sharedNegation_exact :
    sharedNegation.Unfolds (.part 3)
        (.collection [.collection [.scalar, negationTree, negationTree]]) ∧
      checkShape sharedNegation (.part 3) = .ok () ∧
      readBy (readCondition [] depthLimit) sharedNegation (.part 2) ≠ .error .nestedTooDeep ∧
      Relation.TransGen sharedNegation.Inner (.part 4) (.part 4) ∧
      ∃ p, checkShape sharedNegation (.part 4) = .error p := by
  have htree : sharedNegation.Unfolds (.part 3)
      (.collection [.collection [.scalar, negationTree, negationTree]]) := by
    simp [Graph.Unfolds, Graph.UnfoldAll, Graph.inner?, Graph.part?, Graph.get?, sharedNegation,
      negationTree]
  obtain ⟨hexact, _, _, _, hread⟩ := checkShape_exact sharedNegation (.part 3)
  have hok : checkShape sharedNegation (.part 3) = .ok () := by
    cases hrun : checkShape sharedNegation (.part 3) with
    | ok u => rfl
    | error p => exact absurd ((hexact _ htree).1.1 ⟨p, hrun⟩) (by decide)
  have hdata : sharedNegation.IsData (.part 3) :=
    .of_no_tuple (by decide) (by decide) (by simp [sharedNegation])
  have hself : Relation.TransGen sharedNegation.Inner (.part 4) (.part 4) :=
    .single ⟨_, rfl, by simp⟩
  have hboth := hread hdata hok _ rfl (.lit (.text "both"), .part 2) (by simp) _ (.refl _)
  exact ⟨htree, hok, hboth.1, hself,
    (checkShape_exact sharedNegation (.part 4)).2.2.2.1 _ .refl hself⟩

example : Problem.tooMany.message = "Macro file exceeds maximum node count (50,000)" := by decide

example : Problem.tooDeep.message = "Macro file exceeds maximum nesting depth (64)" := by decide

end DefinitionFile

end FilterCompiler
