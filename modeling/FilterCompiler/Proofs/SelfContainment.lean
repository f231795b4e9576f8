import FilterCompiler.Proofs.PlainReading
import FilterCompiler.Proofs.Procedure

/-! Rows that stand in themselves. Behind a tag some arguments are read as conditions, from left to
right, and a row may lead back to itself that way. Proved here, for data of any shape and custom
tags whose readers pass on some of their arguments: a reading follows no more rows in each other
than there are parts; it is refused as circular only where a row leads back to itself; it is refused
so, with the tag of that row, where one is met again in itself before anything malformed; and
without custom tags nothing that is read has a row inside that stands in itself. -/

namespace FilterCompiler

open RawForm (Head Procedure)

namespace Graph

/-! ### What leads to what -/

section

variable (g : Graph) (custom : NameTable (List Operand → Procedure))

/-- From a row to what may be read as a condition behind its tag. -/
def Position (x y : Operand) : Prop :=
  ∃ tag arguments, g.items? x = some (.lit (.text tag) :: arguments) ∧
    (RawForm.procedureOf custom tag arguments).MayRead g y

/-- A procedure that does not fail, whatever it goes on from, and reads only what is not malformed:
values, and rows whose procedures are so in turn. -/
inductive Completes : Procedure → Prop where
  | give (x : Operand) : Completes (.give x)
  | condition {step : RawForm.Step} {raw : Operand} {next : Operand → Procedure} {tag : String}
      {arguments : List Operand} (items : g.items? raw = some (.lit (.text tag) :: arguments))
      (inner : Completes (RawForm.procedureOf custom tag arguments))
      (rest : ∀ x, Completes (next x)) : Completes (.condition step raw next)
  | value {step : RawForm.Step} {raw : Operand} {next : Operand → Procedure}
      (form : g.IsValueForm raw) (rest : ∀ x, Completes (next x)) :
      Completes (.value step raw next)
  | add {part : Part} {next : Operand → Procedure} (rest : ∀ x, Completes (next x)) :
      Completes (.add part next)
  | look {next : Graph → Procedure} (rest : ∀ G, g.Extends G → Completes (next G)) :
      Completes (.look next)

/-- A row with nothing malformed in it. -/
def IsSound (x : Operand) : Prop :=
  ∃ tag arguments, g.items? x = some (.lit (.text tag) :: arguments) ∧
    g.Completes custom (RawForm.procedureOf custom tag arguments)

/-- A procedure comes to read an operand as a condition, with nothing malformed before. -/
def ComesTo (y : Operand) : Procedure → Prop
  | .give _ | .fail _ => False
  | .condition _ raw next => raw = y ∨ g.IsSound custom raw ∧ ∀ x, ComesTo y (next x)
  | .value _ raw next => g.IsValueForm raw ∧ ∀ x, ComesTo y (next x)
  | .add _ next => ∀ x, ComesTo y (next x)
  | .look next => ∀ G, g.Extends G → ComesTo y (next G)

/-- From a row to a condition behind its tag that is read before anything malformed. -/
def Leads (x y : Operand) : Prop :=
  ∃ tag arguments, g.items? x = some (.lit (.text tag) :: arguments) ∧
    g.ComesTo custom y (RawForm.procedureOf custom tag arguments)

/-- From an operand inside some rows on, the first thing that is not as it should be is one of these
rows, which has a tag. -/
inductive Turns : List Operand → Operand → String → Prop where
  | back {above : List Operand} {x : Operand} {tag : String} {arguments : List Operand}
      (again : x ∈ above) (items : g.items? x = some (.lit (.text tag) :: arguments)) :
      Turns above x tag
  | down {above : List Operand} {x y : Operand} {tag : String} (new : x ∉ above)
      (leads : g.Leads custom x y) (turns : Turns (x :: above) y tag) : Turns above x tag

end

variable {g : Graph} {custom : NameTable (List Operand → Procedure)} {x y : Operand}

theorem position_iff {tag : String} {arguments : List Operand}
    (items : g.items? x = some (.lit (.text tag) :: arguments)) :
    g.Position custom x y ↔ (RawForm.procedureOf custom tag arguments).MayRead g y := by
  simp [Position, items]

theorem leads_iff {tag : String} {arguments : List Operand}
    (items : g.items? x = some (.lit (.text tag) :: arguments)) :
    g.Leads custom x y ↔ g.ComesTo custom y (RawForm.procedureOf custom tag arguments) := by
  simp [Leads, items]

/-- Whatever a procedure that completes may read as a condition leads on for a while only. -/
theorem Completes.acc {p : Procedure} (h : g.Completes custom p) :
    ∀ y, p.MayRead g y → Acc (flip (g.Position custom)) y := by
  induction h with
  | give x => exact fun y hy => hy.elim
  | condition items inner rest ihinner ihrest =>
    rintro y (rfl | ⟨x, hy⟩)
    · exact .intro _ fun z hz => ihinner z ((position_iff items).1 hz)
    · exact ihrest x y hy
  | value _ rest ih | add rest ih => exact fun y ⟨x, hy⟩ => ih x y hy
  | look rest ih => exact fun y ⟨G, hG, hy⟩ => ih G hG y hy

theorem IsSound.acc (h : g.IsSound custom x) : Acc (flip (g.Position custom)) x :=
  have ⟨_, _, items, hcompletes⟩ := h
  .intro x fun y hy => hcompletes.acc y ((position_iff items).1 hy)

theorem completes_values {i : Nat} {raws : List Operand} {next : List Operand → Procedure}
    (hraws : ∀ raw ∈ raws, g.IsValueForm raw) (h : ∀ xs, g.Completes custom (next xs)) :
    g.Completes custom (.values i raws next) := by
  induction raws generalizing i next with
  | nil => exact h []
  | cons raw rest ih =>
    rw [List.forall_mem_cons] at hraws
    exact .value hraws.1 fun x => ih hraws.2 fun xs => h (x :: xs)

/-- There is nothing malformed in a row of the grammar. -/
theorem IsForm.isSound (h : g.IsForm x) : g.IsSound custom x := by
  have hnode (n : Node) : g.Completes custom (.addNode n) := .add .give
  have hrow {x : Operand} {head : Head} {arguments : List Operand}
      (items : g.items? x = some (.lit (.text head.tag) :: arguments))
      (h : g.Completes custom (head.procedure arguments)) : g.IsSound custom x :=
    ⟨_, _, items, by rwa [RawForm.procedureOf_tag]⟩
  induction h with
  | join items _ _ ihl ihr =>
    obtain ⟨_, _, iteml, hl⟩ := ihl
    obtain ⟨_, _, itemr, hr⟩ := ihr
    exact hrow items (.condition iteml hl fun _ => .condition itemr hr fun _ => hnode _)
  | not items _ ih =>
    obtain ⟨_, _, item, h⟩ := ih
    exact hrow items (.condition item h fun _ => hnode _)
  | ordering items left right =>
    exact hrow items (.value left fun _ => .value right fun _ => hnode _)
  | equality items operand compared =>
    exact hrow items (.value operand fun _ =>
      completes_values compared fun _ => .add fun _ => hnode _)
  | nullCheck items value => exact hrow items (.value value fun _ => hnode _)
  | reference items | field items => exact hrow items (hnode _)

theorem ComesTo.mayRead {p : Procedure} (h : g.ComesTo custom y p) : p.MayRead g y := by
  induction p with
  | give x | fail fault => exact h.elim
  | condition step raw next ih =>
    rcases h with rfl | ⟨_, h⟩
    · exact .inl rfl
    · exact .inr ⟨default, ih default (h default)⟩
  | value step raw next ih => exact ⟨default, ih default (h.2 default)⟩
  | add part next ih => exact ⟨default, ih default (h default)⟩
  | look next ih => exact ⟨g, .refl g, ih g (h g (.refl g))⟩

theorem Leads.position (h : g.Leads custom x y) : g.Position custom x y :=
  have ⟨tag, arguments, items, hy⟩ := h
  ⟨tag, arguments, items, hy.mayRead⟩

/-- What turns back leads to a row that leads back to itself. -/
theorem Turns.exists_cycle {above : List Operand} {tag : String} (h : g.Turns custom above x tag)
    (habove : ∀ z ∈ above, Relation.TransGen (g.Leads custom) z x) :
    ∃ z, Relation.ReflTransGen (g.Leads custom) x z ∧ Relation.TransGen (g.Leads custom) z z := by
  induction h with
  | back again _ => exact ⟨_, .refl, habove _ again⟩
  | down _ leads _ ih =>
    obtain ⟨z, hyz, hz⟩ := ih fun w hw => by
      rcases List.mem_cons.1 hw with rfl | hw
      · exact .single leads
      · exact (habove w hw).tail leads
    exact ⟨z, .head leads hyz, hz⟩

end Graph

namespace RawForm

/-! ### What a reading ends with -/

/-- From a memory of some kind a reading gives what is asked of it and leaves such a memory, or ends
with a fault of some kind. -/
def Ends {α : Type} (good : Memory → Prop) (may : Fault → Prop) (r : Reading α) (Q : α → Prop) :
    Prop :=
  ∀ m, good m → (∃ a m', r m = .ok (a, m') ∧ good m' ∧ Q a) ∨ ∃ e, r m = .error e ∧ may e

namespace Ends

variable {α β : Type} {good : Memory → Prop} {may : Fault → Prop} {r : Reading α} {Q : α → Prop}
  {R : β → Prop}

theorem mono (h : Ends good may r Q) {may' : Fault → Prop} {Q' : α → Prop}
    (hmay : ∀ e, may e → may' e) (hQ : ∀ a, Q a → Q' a) : Ends good may' r Q' := fun m hm =>
  (h m hm).imp (fun ⟨a, m', hrun, hm', ha⟩ => ⟨a, m', hrun, hm', hQ a ha⟩)
    fun ⟨e, hrun, he⟩ => ⟨e, hrun, hmay e he⟩

/-- Two readings in a row: the second one goes on from what the first one gives. -/
theorem bind {f : α → Reading β} (h : Ends good may r Q)
    (hf : ∀ a, Q a → Ends good may (f a) R) : Ends good may (r >>= f) R := by
  intro m hm
  have hbind : (r >>= f) m = r m >>= fun p => f p.1 p.2 := rfl
  rcases h m hm with ⟨a, m', hrun, hm', ha⟩ | ⟨e, hrun, he⟩
  · rw [hbind, hrun, ok_bind]
    exact hf a ha m' hm'
  · exact .inr ⟨e, by rw [hbind, hrun, error_bind], he⟩

theorem pure {a : α} (h : Q a) : Ends good may (Pure.pure a) Q := fun m hm =>
  .inl ⟨a, m, rfl, hm, h⟩

theorem throw {e : Fault} (h : may e) : Ends good may (throw e : Reading α) Q := fun _ _ =>
  .inr ⟨e, rfl, h⟩

theorem look {f : Memory → α} {k : α → Reading β}
    (h : ∀ m, good m → Ends good may (k (f m)) R) : Ends good may (RawForm.look f >>= k) R :=
  fun m hm => h m hm m hm

end Ends

/-- A memory of what a graph has grown to, in which all rows that were read are of some kind. -/
structure Memory.Knows (g : Graph) (P : Operand → Prop) (m : Memory) : Prop where
  graph : g.Extends m.graph
  known : ∀ raw x, known? m raw = some x → P raw

/-- A memory in which the rows that were read lead on for a while only. -/
abbrev Memory.IsSettled (g : Graph) (custom : NameTable (List Operand → Procedure)) :
    Memory → Prop :=
  Memory.Knows g fun raw => Acc (flip (g.Leads custom)) raw

section

variable {g : Graph} {P : Operand → Prop} {may : Fault → Prop} {raw : Operand}

theorem Memory.Knows.empty (g : Graph) (P : Operand → Prop) : Memory.Knows g P ⟨g, {}⟩ :=
  ⟨.refl g, fun raw x hx => by cases raw <;> simp [known?] at hx⟩

theorem Ends.addPart (part : Part) :
    Ends (Memory.Knows g P) may (RawForm.addPart part) fun _ => True := fun m hm =>
  .inl ⟨_, _, rfl, ⟨hm.graph.trans (m.graph.extends_add part), fun raw x hx => by
    cases raw with
    | lit v => cases hx
    | part n => exact hm.known (.part n) x hx⟩, trivial⟩

theorem Ends.remember {node : Operand} (h : P raw) :
    Ends (Memory.Knows g P) may (RawForm.remember raw node) fun _ => True := by
  intro m hm
  cases raw with
  | lit v => exact .inl ⟨_, _, rfl, hm, trivial⟩
  | part n =>
    refine .inl ⟨_, _, rfl, ⟨hm.graph, fun other x hx => ?_⟩, trivial⟩
    cases other with
    | lit v => cases hx
    | part k =>
      simp only [known?, Std.HashMap.getElem?_insert] at hx
      split at hx
      · next hk => exact eq_of_beq hk ▸ h
      · exact hm.known (.part k) x hx

/-- A value is read or refused. -/
theorem Ends.readValue (hmay : ∀ problem place, may (.malformed problem place)) (place : Place)
    (raw : Operand) :
    Ends (Memory.Knows g P) may (RawForm.readValue place raw) fun _ => True := by
  have hrefuse (problem : Problem) (place : Place) : Ends (Memory.Knows g P) may
      (RawForm.refuse problem place : Reading Operand) fun _ => True := .throw (hmay _ _)
  unfold RawForm.readValue
  refine .look fun m _ => ?_
  cases raw with
  | lit v =>
    dsimp only
    split
    · exact .pure trivial
    · exact hrefuse _ _
  | part n =>
    dsimp only
    split
    · next heq => cases heq
    · unfold readField
      split
      · exact .addPart _
      · exact hrefuse _ _
      · exact hrefuse _ _
    · exact hrefuse _ _

theorem Ends.readValueForm (h : g.IsValueForm raw) (place : Place) :
    Ends (Memory.Knows g P) may (RawForm.readValue place raw) fun _ => True := by
  unfold RawForm.readValue
  refine .look fun m hm => ?_
  cases h with
  | literal scalar =>
    simp only [isScalar_iff.2 scalar, if_true]
    exact .pure trivial
  | field items =>
    rw [hm.graph.items? items]
    cases raw with
    | lit v => cases items
    | part n => exact .addPart _

end

section

variable {g : Graph} {custom : NameTable (List Operand → Procedure)} {may : Fault → Prop}
  {raw x y : Operand} {above : List Operand} {p : Procedure}

/-! ### Procedures -/

section

variable {condition value : Step → Operand → Reading Operand}

/-- A procedure ends as its readings of conditions do. If it gives something, all that it comes to
has been read. -/
theorem Ends.run {arguments : List Operand} (hp : p.IsProper arguments)
    (hfail : ∀ e, e ≠ .nestedTooDeep → (∀ tag name, e ≠ .circular tag name) → may e)
    (hcondition : ∀ raw, p.MayRead g raw → ∀ step, Ends (Memory.IsSettled g custom) may
      (condition step raw) fun _ => Acc (flip (g.Leads custom)) raw)
    (hvalue : ∀ step raw, Ends (Memory.IsSettled g custom) may (value step raw) fun _ => True)
    (place : Place) :
    Ends (Memory.IsSettled g custom) may (p.run condition value place) fun _ =>
      ∀ y, g.ComesTo custom y p → Acc (flip (g.Leads custom)) y := by
  induction p with
  | give x => exact .pure fun y hy => hy.elim
  | fail fault => exact .throw (hfail _ (hp place).1 (hp place).2)
  | condition step raw next ih =>
    refine (hcondition raw (.inl rfl) step).bind fun x hx =>
      (ih x (hp.2 x) fun raw hraw => hcondition raw (.inr ⟨x, hraw⟩)).mono (fun _ he => he) ?_
    rintro _ hrest y (rfl | ⟨_, hy⟩)
    · exact hx
    · exact hrest y (hy x)
  | value step raw next ih =>
    exact (hvalue step raw).bind fun x _ =>
      (ih x (hp x) fun raw hraw => hcondition raw ⟨x, hraw⟩).mono (fun _ he => he)
        fun _ hrest y hy => hrest y (hy.2 x)
  | add part next ih =>
    exact (Ends.addPart part).bind fun x _ =>
      (ih x (hp x) fun raw hraw => hcondition raw ⟨x, hraw⟩).mono (fun _ he => he)
        fun _ hrest y hy => hrest y (hy x)
  | look next ih =>
    exact .look fun m hm =>
      (ih m.graph (hp m.graph) fun raw hraw => hcondition raw ⟨m.graph, hm.graph, hraw⟩).mono
        (fun _ he => he) fun _ hrest y hy => hrest y (hy m.graph hm.graph)

/-- A procedure that completes ends only as its readings of rows with nothing malformed do. -/
theorem Ends.run_of_completes (hp : g.Completes custom p)
    (hcondition : ∀ raw, p.MayRead g raw → g.IsSound custom raw → ∀ step,
      Ends (Memory.IsSettled g custom) may (condition step raw) fun _ => True)
    (hvalue : ∀ raw, g.IsValueForm raw → ∀ step,
      Ends (Memory.IsSettled g custom) may (value step raw) fun _ => True)
    (place : Place) :
    Ends (Memory.IsSettled g custom) may (p.run condition value place) fun _ => True := by
  induction p with
  | give x => exact .pure trivial
  | fail fault => cases hp
  | condition step raw next ih =>
    cases hp with
    | condition items inner rest =>
      exact (hcondition raw (.inl rfl) ⟨_, _, items, inner⟩ step).bind fun x _ =>
        ih x (rest x) fun raw hraw => hcondition raw (.inr ⟨x, hraw⟩)
  | value step raw next ih =>
    cases hp with
    | value form rest =>
      exact (hvalue raw form step).bind fun x _ =>
        ih x (rest x) fun raw hraw => hcondition raw ⟨x, hraw⟩
  | add part next ih =>
    cases hp with
    | add rest =>
      exact (Ends.addPart part).bind fun x _ =>
        ih x (rest x) fun raw hraw => hcondition raw ⟨x, hraw⟩
  | look next ih =>
    cases hp with
    | look rest =>
      exact .look fun m hm => ih m.graph (rest m.graph hm.graph) fun raw hraw =>
        hcondition raw ⟨m.graph, hm.graph, hraw⟩

/-- A procedure that comes to an operand of which the reading gives nothing gives nothing itself. -/
theorem Ends.run_of_comesTo (hp : g.ComesTo custom y p)
    (hy : ∀ step, Ends (Memory.IsSettled g custom) may (condition step y) fun _ => False)
    (hcondition : ∀ raw, p.MayRead g raw → g.IsSound custom raw → ∀ step,
      Ends (Memory.IsSettled g custom) may (condition step raw) fun _ => True)
    (hvalue : ∀ raw, g.IsValueForm raw → ∀ step,
      Ends (Memory.IsSettled g custom) may (value step raw) fun _ => True)
    (place : Place) :
    Ends (Memory.IsSettled g custom) may (p.run condition value place) fun _ => False := by
  induction p with
  | give x | fail fault => exact hp.elim
  | condition step raw next ih =>
    rcases hp with rfl | ⟨hsound, hp⟩
    · exact (hy step).bind fun _ h => h.elim
    · exact (hcondition raw (.inl rfl) hsound step).bind fun x _ =>
        ih x (hp x) fun raw hraw => hcondition raw (.inr ⟨x, hraw⟩)
  | value step raw next ih =>
    exact (hvalue raw hp.1 step).bind fun x _ =>
      ih x (hp.2 x) fun raw hraw => hcondition raw ⟨x, hraw⟩
  | add part next ih =>
    exact (Ends.addPart part).bind fun x _ =>
      ih x (hp x) fun raw hraw => hcondition raw ⟨x, hraw⟩
  | look next ih =>
    exact .look fun m hm => ih m.graph (hp m.graph hm.graph) fun raw hraw =>
      hcondition raw ⟨m.graph, hm.graph, hraw⟩

end

/-! ### Rows -/

/-- Rows that lead to an operand by steps of some kind, none of them twice. -/
structure IsAround (r : Operand → Operand → Prop) (above : List Operand) (x : Operand) : Prop where
  leads : ∀ y ∈ above, Relation.TransGen r y x
  nodup : above.Nodup

theorem IsAround.nil (r : Operand → Operand → Prop) (x : Operand) : IsAround r [] x :=
  ⟨by simp, .nil⟩

theorem IsAround.step {r : Operand → Operand → Prop} (h : IsAround r above x) (hx : x ∉ above)
    (hxy : r x y) : IsAround r (x :: above) y where
  leads z hz := by
    rcases List.mem_cons.1 hz with rfl | hz
    · exact .single hxy
    · exact (h.leads z hz).tail hxy
  nodup := List.nodup_cons.2 ⟨hx, h.nodup⟩

theorem IsAround.mono {r r' : Operand → Operand → Prop} (h : IsAround r above x)
    (hr : ∀ x y, r x y → r' x y) : IsAround r' above x :=
  ⟨fun y hy => (h.leads y hy).lift id hr, h.nodup⟩

/-- A row that is not around itself is read as its procedure is, unless it was read before. -/
theorem Ends.readRow {tag : String} {arguments : List Operand} {room : Nat} (hraw : g.Has raw)
    (items : g.items? raw = some (.lit (.text tag) :: arguments)) (hnew : raw ∉ above)
    (hrun : ∀ (at' : Step → Place) (place : Place), Ends (Memory.IsSettled g custom) may
      ((procedureOf custom tag arguments).run
        (fun step => readCondition (extensions custom) room (raw :: above) (at' step))
        (fun step => RawForm.readValue (at' step)) place)
      fun _ => Acc (flip (g.Leads custom)) raw) (place : Place) :
    Ends (Memory.IsSettled g custom) may
      (readCondition (extensions custom) (room + 1) above place raw) fun _ =>
        Acc (flip (g.Leads custom)) raw := by
  rw [readCondition]
  refine .look fun m hm => ?_
  rw [hm.graph.items?_eq hraw, items]
  dsimp only
  rw [if_neg hnew]
  refine .look fun m hm => ?_
  cases hknown : known? m raw with
  | some node => exact .pure (hm.known raw node hknown)
  | none =>
    obtain ⟨at', place', hread⟩ := readTagged_eq_run custom
      (readCondition (extensions custom) room (raw :: above)) tag arguments place
    dsimp only
    rw [hread]
    exact (hrun at' place').bind fun node h => (Ends.remember h).bind fun _ _ => .pure h

/-! ### Whole readings -/

variable (hg : g.IsClosed) (hcustom : AreProper custom)

include hcustom in
theorem Position.item (h : g.Position custom x y) : g.Item x y :=
  have ⟨tag, arguments, items, hy⟩ := h
  ⟨_, items, List.mem_cons_of_mem _ ((hcustom.procedureOf tag arguments).mem hy)⟩

include hg hcustom in
theorem Position.has (h : g.Position custom x y) (hx : g.Has x) : g.Has y :=
  have ⟨_, items, hy⟩ := Position.item hcustom h
  hg.items hx items y hy

include hcustom in
/-- Around an operand there are no more rows than parts. -/
theorem IsAround.length_le (h : IsAround (g.Position custom) above x) :
    above.length ≤ g.parts.size :=
  have haround := h.mono fun _ _ => Position.item hcustom
  IsPath.length_le ⟨haround.leads, haround.nodup⟩

/-- A fault that a reading of a root may end with: it is given up only if fewer levels are followed
than there are parts, and refused as circular only for a row that leads back to itself. -/
structure MayEnd (g : Graph) (custom : NameTable (List Operand → Procedure)) (root : Operand)
    (limit : Nat) (e : Fault) : Prop where
  deep : e = .nestedTooDeep → limit ≤ g.parts.size
  circular : ∀ tag name, e = .circular tag name → name = none ∧ ∃ x arguments,
    Relation.ReflTransGen (g.Position custom) root x ∧
    Relation.TransGen (g.Position custom) x x ∧
    g.items? x = some (.lit (.text tag) :: arguments)

variable {root : Operand} {room limit : Nat}

theorem MayEnd.of_ne {e : Fault} (hdeep : e ≠ .nestedTooDeep)
    (hcircular : ∀ tag name, e ≠ .circular tag name) : MayEnd g custom root limit e :=
  ⟨fun h => absurd h hdeep, fun tag name h => absurd h (hcircular tag name)⟩

include hg hcustom in
theorem Ends.readCondition (place : Place) (hraw : g.Has raw)
    (hroot : Relation.ReflTransGen (g.Position custom) root raw)
    (haround : IsAround (g.Position custom) above raw) (hlimit : above.length + room = limit) :
    Ends (Memory.IsSettled g custom) (MayEnd g custom root limit)
      (RawForm.readCondition (extensions custom) room above place raw) fun _ =>
        Acc (flip (g.Leads custom)) raw := by
  induction room generalizing above place raw with
  | zero =>
    refine .throw ⟨fun _ => ?_, fun tag name h => by cases h⟩
    exact hlimit ▸ haround.length_le hcustom
  | succ room ih =>
    have hrefuse (problem : Problem) : Ends (Memory.IsSettled g custom)
        (MayEnd g custom root limit) (refuse problem place : Reading Operand) fun _ =>
          Acc (flip (g.Leads custom)) raw := .throw (.of_ne (by simp) (by simp))
    by_cases hrow : ∃ tag arguments, g.items? raw = some (.lit (.text tag) :: arguments) ∧
        raw ∉ above
    · obtain ⟨tag, arguments, items, hnew⟩ := hrow
      refine Ends.readRow hraw items hnew (fun at' place => ?_) place
      refine (Ends.run (hcustom.procedureOf tag arguments) (fun _ => .of_ne) (fun y hy step => ?_)
        (fun step => .readValue (fun _ _ => .of_ne (by simp) (by simp)) _) place).mono
          (fun _ he => he) fun _ h => .intro raw fun y hy => h y ((Graph.leads_iff items).1 hy)
      have hposition := (Graph.position_iff items).2 hy
      exact ih _ (Position.has hg hcustom hposition hraw) (hroot.tail hposition)
        (haround.step hnew hposition) (by rw [List.length_cons]; omega)
    · rw [RawForm.readCondition]
      refine .look fun m hm => ?_
      rw [hm.graph.items?_eq hraw]
      split
      · exact hrefuse _
      · exact hrefuse _
      · next tag arguments items =>
        split
        · next hmem =>
          -- a row that is around itself has been read by its tag
          obtain ⟨z, ⟨t, _, items', _⟩, _⟩ :=
            Relation.TransGen.head'_iff.1 (haround.leads raw hmem)
          rw [items] at items'
          cases items'
          refine .look fun m _ => .throw ⟨by simp, fun tag name h => ?_⟩
          cases h
          exact ⟨rfl, raw, arguments, hroot, haround.leads raw hmem, items⟩
        · next hnew =>
          refine .look fun m hm => ?_
          split
          · next node hknown => exact .pure (hm.known raw node hknown)
          · split
            · next t => exact absurd ⟨t, arguments, items, hnew⟩ hrow
            · exact hrefuse _

include hg hcustom in
/-- A row with nothing malformed in it is read, if it is not too deep. -/
theorem Ends.readSound (place : Place) (hraw : g.Has raw) (hsound : g.IsSound custom raw)
    (haround : IsAround (g.Position custom) above raw) :
    Ends (Memory.IsSettled g custom) (· = .nestedTooDeep)
      (RawForm.readCondition (extensions custom) room above place raw) fun _ => True := by
  induction room generalizing above place raw with
  | zero => exact .throw rfl
  | succ room ih =>
    obtain ⟨tag, arguments, items, hcompletes⟩ := id hsound
    have hnew : raw ∉ above := fun h =>
      not_transGen_self_of_acc hsound.acc (haround.leads raw h)
    have hacc : Acc (flip (g.Leads custom)) raw :=
      Subrelation.accessible (fun h => Graph.Leads.position h) hsound.acc
    refine (Ends.readRow hraw items hnew (fun at' place => ?_) place).mono (fun _ he => he)
      fun _ _ => trivial
    refine (Ends.run_of_completes hcompletes (fun y hy hsound step => ?_)
      (fun y hy step => .readValueForm hy _) place).mono (fun _ he => he) fun _ _ => hacc
    have hposition := (Graph.position_iff items).2 hy
    exact ih _ (Position.has hg hcustom hposition hraw) hsound (haround.step hnew hposition)

include hg hcustom in
/-- What turns back before anything malformed is refused as circular, if it is not too deep. -/
theorem Ends.readTurning {tag : String} (place : Place) (hraw : g.Has raw)
    (hturns : g.Turns custom above raw tag) (haround : IsAround (g.Leads custom) above raw) :
    Ends (Memory.IsSettled g custom) (fun e => e = .circular tag none ∨ e = .nestedTooDeep)
      (RawForm.readCondition (extensions custom) room above place raw) fun _ => False := by
  induction room generalizing above place raw with
  | zero => exact .throw (.inr rfl)
  | succ room ih =>
    obtain ⟨z, hz, hcycle⟩ := hturns.exists_cycle haround.leads
    cases hturns with
    | back again items =>
      rw [RawForm.readCondition]
      refine .look fun m hm => ?_
      rw [hm.graph.items?_eq hraw, items]
      dsimp only
      rw [if_pos again]
      exact .look fun m _ => .throw (.inl rfl)
    | @down _ _ y _ new leads turns =>
      obtain ⟨t, arguments, items, hcomes⟩ := id leads
      refine (Ends.readRow hraw items new (fun at' place => ?_) place).mono (fun _ he => he)
        fun _ hacc => not_transGen_self_of_acc (acc_of_reflTransGen hacc hz) hcycle
      have haround' := haround.mono fun _ _ => Graph.Leads.position
      refine (Ends.run_of_comesTo hcomes (fun step => ?_) (fun w hw hsound step => ?_)
        (fun w hw step => .readValueForm hw _) place).mono (fun _ he => he) fun _ h => h.elim
      · exact ih _ (Position.has hg hcustom leads.position hraw) turns (haround.step new leads)
      · have hposition := (Graph.position_iff items).2 hw
        exact (Ends.readSound hg hcustom _ (Position.has hg hcustom hposition hraw) hsound
          (haround'.step new hposition)).mono (fun _ => .inr) fun _ h => h

end

end RawForm

/-! ### What is read has an end -/

namespace Graph

/-- From a part to one of the operands that it is made of. -/
def Contains (g : Graph) (x y : Operand) : Prop := ∃ p, g.part? x = some p ∧ y ∈ p.operands

variable {g : Graph} {x : Operand}

theorem acc_lit (v : Literal) : Acc (flip g.Contains) (.lit v) :=
  .intro _ fun y ⟨_, hp, _⟩ => by cases hp

theorem acc_of_part {p : Part} (hp : g.part? x = some p)
    (h : ∀ y ∈ p.operands, Acc (flip g.Contains) y) : Acc (flip g.Contains) x := by
  refine .intro x fun y ⟨p', hp', hy⟩ => ?_
  rw [hp] at hp'
  cases hp'
  exact h y hy

theorem acc_of_node {n : Node} (hn : g.node? x = some n)
    (h : ∀ y ∈ n.arguments, Acc (flip g.Contains) y) : Acc (flip g.Contains) x := by
  unfold node? at hn
  split at hn
  · next hp =>
    cases hn
    exact acc_of_part hp h
  · cases hn

theorem HoldsValue.acc {u : Value} (h : g.HoldsValue x u) : Acc (flip g.Contains) x := by
  cases h with
  | literal v => exact acc_lit v
  | field node => exact acc_of_node node (by simpa [Node.arguments] using acc_lit _)

/-- Below what is built as a condition nothing contains itself. -/
theorem Builds.acc {c : Condition} (h : g.Builds x c) : Acc (flip g.Contains) x := by
  induction h with
  | @join _ l r k _ _ node _ _ ihl ihr =>
    exact acc_of_node node (by cases k <;> simpa [Connective.node, Node.arguments] using ⟨ihl, ihr⟩)
  | not node _ ih => exact acc_of_node node (by simpa [Node.arguments] using ih)
  | @ordering _ _ _ greater _ _ node left right =>
    refine acc_of_node node ?_
    cases greater <;> simpa [Node.ordering, Node.arguments] using ⟨left.acc, right.acc⟩
  | @equality _ y values negated items _ _ node operand tuple compared =>
    have hvalues : Acc (flip g.Contains) values := by
      refine acc_of_part tuple fun z hz => ?_
      obtain ⟨_, _, hbuilds⟩ := exists_of_forall₂ compared hz
      exact hbuilds.acc
    refine acc_of_node node ?_
    cases negated <;> simpa [Node.equality, Node.arguments] using ⟨operand.acc, hvalues⟩
  | @nullCheck _ _ negated _ node value =>
    refine acc_of_node node ?_
    cases negated <;> simpa [Node.nullCheck, Node.arguments] using value.acc
  | field node | reference node =>
    exact acc_of_node node (by simpa [Node.arguments] using acc_lit _)

end Graph

namespace RawForm

variable {g : Graph} {raw : Operand}

/-- What is read without custom tags is built as the condition that the raw form spells. -/
theorem readsCondition_of_readBy {limit : Nat} {x : Operand} {G : Graph} (hg : g.IsClosed)
    (hraw : g.Has raw) (h : readBy (readCondition [] limit) g raw = .ok (x, G)) :
    ReadsCondition g G raw x := by
  have hfaithful : Memory.Faithful g ⟨g, {}⟩ := ⟨.refl g, by simp⟩
  have hrun : readBy (readCondition [] limit) g raw =
      readCondition [] limit [] [] raw ⟨g, {}⟩ >>= fun p => .ok (p.1, p.2.graph) := rfl
  have hroom : g.parts.size < ([] : List Operand).length + (g.parts.size + 1) := by simp
  rw [hrun] at h
  rcases Agrees.readCondition hg [] hraw (.nil g raw) (Nat.zero_add limit) hroom ⟨g, {}⟩ ⟨g, {}⟩
    hfaithful hfaithful (.refl g) (.refl g) with
    ⟨⟨y, m, hy, _, _, hreads⟩, _⟩ | ⟨e, _, he, _⟩ | ⟨he, _⟩
  · rw [hy] at h
    cases h
    exact hreads
  · rw [he] at h
    cases h
  · rw [he] at h
    cases h

/-- A reading follows no more rows in each other than there are parts. Without custom tags nothing
that is read has a row inside that stands in itself, and neither has what is read of it. What is
refused as circular has a row with that tag which leads back to itself, and a row that is met again
in itself before anything malformed is refused so. -/
theorem readBy_circular {custom : NameTable (List Operand → Procedure)} (hg : g.IsClosed)
    (hraw : g.Has raw) (hcustom : AreProper custom) (limit : Nat) :
    (readBy (readCondition (extensions custom) limit) g raw = .error .nestedTooDeep →
      limit ≤ g.parts.size) ∧
    (∀ x G, readBy (readCondition [] limit) g raw = .ok (x, G) → g.IsWellFounded raw ∧
      ∀ y, Relation.ReflTransGen G.Contains x y → ¬ Relation.TransGen G.Contains y y) ∧
    (∀ tag name,
      readBy (readCondition (extensions custom) limit) g raw = .error (.circular tag name) →
      name = none ∧ ∃ x arguments, Relation.ReflTransGen (g.Position custom) raw x ∧
        Relation.TransGen (g.Position custom) x x ∧
        g.items? x = some (.lit (.text tag) :: arguments)) ∧
    ∀ tag, g.Turns custom [] raw tag →
      readBy (readCondition (extensions custom) limit) g raw = .error (.circular tag none) ∨
      readBy (readCondition (extensions custom) limit) g raw = .error .nestedTooDeep := by
  have hrun : readBy (readCondition (extensions custom) limit) g raw =
      readCondition (extensions custom) limit [] [] raw ⟨g, {}⟩ >>= fun p =>
        .ok (p.1, p.2.graph) := rfl
  have hsettled : Memory.IsSettled g custom ⟨g, {}⟩ := .empty g _
  have hmay (e : Fault)
      (h : readBy (readCondition (extensions custom) limit) g raw = .error e) :
      MayEnd g custom raw limit e := by
    rw [hrun] at h
    rcases Ends.readCondition hg hcustom [] hraw .refl (.nil _ _) (Nat.zero_add limit) ⟨g, {}⟩
      hsettled with ⟨x, m, hread, _⟩ | ⟨e', hread, he'⟩
    · rw [hread] at h
      cases h
    · rw [hread] at h
      cases h
      exact he'
  refine ⟨fun h => (hmay _ h).deep rfl, fun x G h => ?_, fun tag name h =>
    (hmay _ h).circular tag name rfl, fun tag hturns => ?_⟩
  · obtain ⟨c, _, hbuilds, hspells⟩ := readsCondition_of_readBy hg hraw h
    exact ⟨hspells.isWellFounded, fun y hy =>
      not_transGen_self_of_acc (acc_of_reflTransGen hbuilds.acc hy)⟩
  · rcases Ends.readTurning hg hcustom [] hraw hturns (.nil _ _) ⟨g, {}⟩ hsettled with
      ⟨_, _, _, _, h⟩ | ⟨e, hread, rfl | rfl⟩
    · exact h.elim
    · exact .inl (by rw [hrun, hread, error_bind])
    · exact .inr (by rw [hrun, hread, error_bind])

/-- A pair of conditions, the second of which is the pair itself. -/
def endlessPair : Graph :=
  ⟨#[.list [.lit (.text "Both"), .part 1, .part 0],
    .list [.lit (.text "field"), .lit (.integer 3)]]⟩

theorem endlessPair_circular :
    endlessPair.IsClosed ∧ endlessPair.Has (.part 0) ∧ AreProper [("Both", Procedure.pairSteps)] ∧
      endlessPair.Turns [("Both", Procedure.pairSteps)] [] (.part 0) "Both" ∧
      read [("Both", pairReader)] endlessPair (.part 0) = .error (.circular "Both" none) := by
  have hg : endlessPair.IsClosed := by decide
  have hraw : endlessPair.Has (.part 0) := by decide
  have hproper : AreProper [("Both", Procedure.pairSteps)] := by
    intro tag procedure hfind arguments
    obtain rfl : procedure = Procedure.pairSteps := by
      simp only [NameTable.find?, List.lookup_cons, List.lookup_nil] at hfind
      split at hfind <;> cases hfind
      rfl
    exact Procedure.isProper_pairSteps
  have hsound : endlessPair.IsSound [("Both", Procedure.pairSteps)] (.part 1) :=
    (Graph.IsForm.field rfl).isSound
  have hturns : endlessPair.Turns [("Both", Procedure.pairSteps)] [] (.part 0) "Both" :=
    .down (by simp) ⟨_, _, rfl, .inr ⟨hsound, fun _ => .inl rfl⟩⟩ (.back (by simp) rfl)
  obtain ⟨hdeep, _, _, hcircular⟩ := readBy_circular hg hraw hproper nestingLimit
  refine ⟨hg, hraw, hproper, hturns, ?_⟩
  rw [Procedure.pairReader_eq]
  exact (hcircular "Both" hturns).resolve_right fun h => absurd (hdeep h) (by decide)

end RawForm

end FilterCompiler
