import FilterCompiler.Proofs.SelfContainment

/-! What is to blame for a refusal. An element of a raw form is read as a condition or as a value,
and some things are wrong with it whatever stands inside. Proved here, for data of any shape and no
custom tags: the place of a refusal leads from the root to an element that has the problem by
itself and is refused for it when it is read alone, and all that is read before that element can be
read. -/

namespace FilterCompiler

namespace RawForm

/-- One place is to the left of another: neither leads to the other, and where they part it takes
the lower index. What stands there has been read before. -/
inductive Place.Precedes : Place → Place → Prop where
  | left {i j : Nat} {p q : Place} (lower : i < j) : Precedes (.index i :: p) (.index j :: q)
  | deeper {step : Step} {p q : Place} (rest : Precedes p q) : Precedes (step :: p) (step :: q)

/-- What an element is read as. -/
inductive Kind where
  | condition | value
deriving DecidableEq

namespace Kind

/-- Reads an element alone or inside other rows, as one of its kind. -/
def read (room : Nat) (k : Kind) (above : List Operand) (place : Place) (x : Operand) :
    Reading Operand :=
  match k with
  | condition => readCondition [] room above place x
  | value => readValue place x

/-- The reader of a kind. -/
def via (conditions values : Step → Operand → Reading Operand) :
    Kind → Step → Operand → Reading Operand
  | condition => conditions
  | value => values

/-- The step of a procedure that reads an element of a kind. -/
def ask : Kind → Step → Operand → (Operand → Procedure) → Procedure
  | condition => .condition
  | value => .value

end Kind

namespace Head

/-- What the arguments of a tag are read as; some tags read none. -/
def kind? : Head → Option Kind
  | join _ | not => some .condition
  | ordering _ | equality _ | nullCheck _ => some .value
  | reference | field => none

/-- What is wrong with the arguments of a tag, whatever stands in them. -/
def problem? (arguments : List Operand) (head : Head) : Option Problem :=
  match head, arguments with
  | join _, [_, _] | ordering _, [_, _] | not, [_] | nullCheck _, [_] | equality _, _ :: _ :: _
  | reference, [.lit (.text _)] | field, [.lit (.integer _)] => none
  | join _, _ | ordering _, _ => some (.wrongCount head.tag 2 arguments.length)
  | not, _ | nullCheck _, _ => some (.wrongCount head.tag 1 arguments.length)
  | equality _, _ => some (.nothingToCompare head.tag)
  | reference, [_] => some .nameNotText
  | field, [_] => some .numberNotInteger
  | reference, _ | field, _ => some (.wrongCount head.tag 1 arguments.length)

end Head

end RawForm

open RawForm (Head Kind Memory Place Problem Procedure Step readBy)

namespace Graph

/-- An element is of the grammar, as what it is read as. -/
def IsOf (g : Graph) : Kind → Operand → Prop
  | .condition => g.IsForm
  | .value => g.IsValueForm

/-- What is wrong with an element itself, read as a condition or as a value. -/
def problem? (g : Graph) (k : Kind) (x : Operand) : Option Problem :=
  match k with
  | .condition =>
    match g.items? x with
    | none | some [] => some .notAList
    | some (.lit (.text t) :: arguments) =>
      match RawForm.head? t with
      | some head => head.problem? arguments
      | none => some (.unknownTag (Text.Escaped.text t))
    | some _ => some .tagNotText
  | .value =>
    match x, g.items? x with
    | .lit v, _ => if RawForm.isScalar v then none else some (.notAValue (g.kind x))
    | _, some (.lit (.text "field") :: arguments) => Head.field.problem? arguments
    | _, _ => some (.notAValue (g.kind x))

/-- An element has another one at a place. What leads there are the indices of rows that are read as
conditions and have arguments that are read. -/
inductive At (g : Graph) : Kind → Operand → Place → Kind → Operand → Prop where
  | here {k : Kind} {x : Operand} : At g k x [] k x
  | inside {x y z : Operand} {head : Head} {arguments : List Operand} {i : Nat} {k k' : Kind}
      {place : Place} (items : g.items? x = some (.lit (.text head.tag) :: arguments))
      (kind : head.kind? = some k) (argument : arguments[i]? = some y)
      (rest : At g k y place k' z) : At g .condition x (.index (i + 1) :: place) k' z

/-- The first thing in an element that is not as it should be is at a place. -/
structure Blames (g : Graph) (k : Kind) (x : Operand) (place : Place) (problem : Problem) :
    Prop where
  wrong : ∃ k' y, g.At k x place k' y ∧ g.problem? k' y = some problem
  before : ∀ other k' y, g.At k x other k' y → other.Precedes place → g.IsOf k' y

variable {g : Graph} {k k' : Kind} {x y : Operand} {place : Place} {problem : Problem}

/-! ### Elements of the grammar -/

theorem isOf_of_fits {head : Head} {arguments : List Operand}
    (h : head.Fits g.IsValueForm g.IsForm arguments) (hkind : head.kind? = some k)
    (hx : x ∈ arguments) : g.IsOf k x := by
  cases head with
  | join _ =>
    cases hkind
    obtain ⟨l, r, rfl, hl, hr⟩ := h
    rcases List.mem_pair.1 hx with rfl | rfl
    · exact hl
    · exact hr
  | not =>
    cases hkind
    obtain ⟨y, rfl, hy⟩ := h
    exact List.mem_singleton.1 hx ▸ hy
  | ordering _ =>
    cases hkind
    obtain ⟨l, r, rfl, hl, hr⟩ := h
    rcases List.mem_pair.1 hx with rfl | rfl
    · exact hl
    · exact hr
  | equality _ =>
    cases hkind
    obtain ⟨y, z, rest, rfl, hy, hrest⟩ := h
    rcases List.mem_cons.1 hx with rfl | hx
    · exact hy
    · exact hrest x hx
  | nullCheck _ =>
    cases hkind
    obtain ⟨y, rfl, hy⟩ := h
    exact List.mem_singleton.1 hx ▸ hy
  | reference | field => cases hkind

/-- What is inside an element of the grammar is of the grammar. -/
theorem IsOf.at (h : g.IsOf k x) (hy : g.At k x place k' y) : g.IsOf k' y := by
  induction hy with
  | here => exact h
  | inside items kind argument _ ih =>
    exact ih (isOf_of_fits (IsForm.fits_of_tag h items) kind (List.mem_of_getElem? argument))

/-- What is inside an element is a part of the graph. -/
theorem At.has (h : g.At k x place k' y) (hg : g.IsClosed) (hx : g.Has x) : g.Has y := by
  induction h with
  | here => exact hx
  | inside items _ argument _ ih =>
    exact ih (hg.items hx items _ (List.mem_cons_of_mem _ (List.mem_of_getElem? argument)))

/-- A row that goes on as its tag has it is of the grammar. -/
theorem isForm_of_fits {head : Head} {arguments : List Operand}
    (items : g.items? x = some (.lit (.text head.tag) :: arguments))
    (h : head.Fits g.IsValueForm g.IsForm arguments) : g.IsForm x := by
  cases head with
  | join _ =>
    obtain ⟨l, r, rfl, hl, hr⟩ := h
    exact .join items hl hr
  | not =>
    obtain ⟨y, rfl, hy⟩ := h
    exact .not items hy
  | ordering _ =>
    obtain ⟨l, r, rfl, hl, hr⟩ := h
    exact .ordering items hl hr
  | equality _ =>
    obtain ⟨y, z, rest, rfl, hy, hrest⟩ := h
    exact .equality items hy hrest
  | nullCheck _ =>
    obtain ⟨y, rfl, hy⟩ := h
    exact .nullCheck items hy
  | reference =>
    obtain ⟨name, rfl⟩ := h
    exact .reference items
  | field =>
    obtain ⟨n, rfl⟩ := h
    exact .field items

end Graph

theorem RawForm.Head.Fits.trivial {value condition : Operand → Prop} {head : Head}
    {arguments : List Operand} (h : head.Fits value condition arguments) :
    head.Fits (fun _ => True) (fun _ => True) arguments := by
  cases head <;> grind [Fits]

/-- Nothing is wrong with arguments that fit but for what stands inside them. -/
theorem RawForm.Head.problem?_eq_none_iff {head : Head} {arguments : List Operand} :
    head.problem? arguments = none ↔ head.Fits (fun _ => True) (fun _ => True) arguments := by
  unfold problem?
  split <;> simp_all [Fits]

namespace Graph

variable {g : Graph} {k k' : Kind} {x y : Operand} {place : Place} {problem : Problem}

/-- A row is of the grammar if nothing is wrong with its arguments and those that are read are of
the grammar. -/
theorem isForm_of_arguments {head : Head} {arguments : List Operand}
    (items : g.items? x = some (.lit (.text head.tag) :: arguments))
    (hproblem : head.problem? arguments = none)
    (h : ∀ k, head.kind? = some k → ∀ y ∈ arguments, g.IsOf k y) : g.IsForm x := by
  refine isForm_of_fits items ?_
  have hfits := Head.problem?_eq_none_iff.1 hproblem
  cases head with
  | join _ =>
    obtain ⟨l, r, rfl, -, -⟩ := hfits
    exact ⟨l, r, rfl, h _ rfl l (by simp), h _ rfl r (by simp)⟩
  | not =>
    obtain ⟨y, rfl, -⟩ := hfits
    exact ⟨y, rfl, h _ rfl y (by simp)⟩
  | ordering _ =>
    obtain ⟨l, r, rfl, -, -⟩ := hfits
    exact ⟨l, r, rfl, h _ rfl l (by simp), h _ rfl r (by simp)⟩
  | equality _ =>
    obtain ⟨y, z, rest, rfl, -, -⟩ := hfits
    exact ⟨y, z, rest, rfl, h _ rfl y (by simp), fun w hw => h _ rfl w (by simp_all)⟩
  | nullCheck _ =>
    obtain ⟨y, rfl, -⟩ := hfits
    exact ⟨y, rfl, h _ rfl y (by simp)⟩
  | reference | field => exact hfits

theorem problem?_of_items {head : Head} {arguments : List Operand}
    (items : g.items? x = some (.lit (.text head.tag) :: arguments)) :
    g.problem? .condition x = head.problem? arguments := by
  simp only [problem?, items, RawForm.head?_tag]

theorem problem?_of_unknown {t : String} {arguments : List Operand}
    (items : g.items? x = some (.lit (.text t) :: arguments)) (h : RawForm.head? t = none) :
    g.problem? .condition x = some (.unknownTag (Text.Escaped.text t)) := by
  simp only [problem?, items, h]

theorem problem?_of_tag {tag : Operand} {arguments : List Operand}
    (items : g.items? x = some (tag :: arguments)) (h : ∀ t, tag ≠ .lit (.text t)) :
    g.problem? .condition x = some .tagNotText := by
  simp only [problem?, items]
  split <;> simp_all

theorem problem?_of_field {n : Nat} {arguments : List Operand}
    (items : g.items? (.part n) = some (.lit (.text Head.field.tag) :: arguments)) :
    g.problem? .value (.part n) = Head.field.problem? arguments := by
  simp only [problem?, items]
  rfl

theorem problem?_of_not_field {n : Nat}
    (h : ∀ arguments, g.items? (.part n) ≠ some (.lit (.text Head.field.tag) :: arguments)) :
    g.problem? .value (.part n) = some (.notAValue (g.kind (.part n))) := by
  unfold problem?
  dsimp only
  split
  · next heq => cases heq
  · next items _ => exact absurd items (h _)
  · rfl

/-- Nothing is wrong with an element of the grammar. -/
theorem IsOf.problem?_eq_none (h : g.IsOf k x) : g.problem? k x = none := by
  cases k with
  | condition =>
    obtain ⟨head, arguments, items, hfits⟩ := IsForm.exists_head h
    exact problem?_of_items items ▸ Head.problem?_eq_none_iff.2 hfits.trivial
  | value =>
    cases h with
    | literal scalar => exact if_pos (RawForm.isScalar_iff.2 scalar)
    | field items =>
      cases x with
      | lit v => cases items
      | part n => exact problem?_of_field items

/-- A value with which nothing is wrong is of the grammar. -/
theorem isValueForm_of_problem? (h : g.problem? .value x = none) : g.IsValueForm x := by
  dsimp only [problem?] at h
  split at h
  · next v =>
    split at h
    · next scalar => exact .literal (RawForm.isScalar_iff.1 scalar)
    · cases h
  · next items =>
    obtain ⟨n, rfl⟩ := Head.problem?_eq_none_iff.1 h
    exact .field items
  · cases h

/-- A condition with which nothing is wrong is a row with a built-in tag. -/
theorem exists_items_of_problem? (h : g.problem? .condition x = none) :
    ∃ (head : Head) (arguments : List Operand),
      g.items? x = some (.lit (.text head.tag) :: arguments) ∧ head.problem? arguments = none := by
  dsimp only [problem?] at h
  split at h
  · cases h
  · cases h
  · next t arguments items =>
    split at h
    · next head hhead =>
      obtain rfl := RawForm.head?_eq_some_iff.1 hhead
      exact ⟨head, arguments, items, h⟩
    · cases h
  · cases h

/-! ### Blame -/

theorem Blames.here (h : g.problem? k x = some problem) : g.Blames k x [] problem where
  wrong := ⟨k, x, .here, h⟩
  before _ _ _ _ hother := by cases hother

/-- What is to blame in an argument is to blame in the row, if all the arguments before it are of
the grammar. -/
theorem Blames.inside {head : Head} {arguments : List Operand} {i : Nat}
    (items : g.items? x = some (.lit (.text head.tag) :: arguments)) (kind : head.kind? = some k)
    (argument : arguments[i]? = some y) (hbefore : ∀ z ∈ arguments.take i, g.IsOf k z)
    (h : g.Blames k y place problem) :
    g.Blames .condition x (.index (i + 1) :: place) problem where
  wrong :=
    have ⟨k', z, hz, hproblem⟩ := h.wrong
    ⟨k', z, .inside items kind argument hz, hproblem⟩
  before other k' z hz hother := by
    cases hz with
    | here => cases hother
    | @inside _ w _ head' arguments' j k'' _ rest items' kind' argument' hrest =>
      rw [items] at items'
      obtain ⟨htag, rfl⟩ : Operand.lit (.text head.tag) = .lit (.text head'.tag) ∧
          arguments = arguments' := by simpa using items'
      obtain rfl : head = head' := Head.tag_injective (by simpa using htag)
      obtain rfl : k = k'' := Option.some.inj (kind.symm.trans kind')
      cases hother with
      | left lower =>
        have hw : w ∈ arguments.take i :=
          List.mem_of_getElem? ((List.getElem?_take_of_lt (by omega)).trans argument')
        exact (hbefore w hw).at hrest
      | deeper hother =>
        obtain rfl : y = w := Option.some.inj (argument.symm.trans argument')
        exact h.before _ k' z hrest hother

end Graph

namespace RawForm

/-! ### Procedures that read their arguments in order -/

namespace Procedure

/-- A procedure reads nothing and does not fail. -/
def IsQuiet : Procedure → Prop
  | give _ => True
  | .add _ next => ∀ x, (next x).IsQuiet
  | _ => False

/-- A procedure reads arguments one after the other, all as of one kind, and nothing else. -/
def ReadsAll (k : Kind) : Nat → List Operand → Procedure → Prop
  | _, [], p => p.IsQuiet
  | i, raw :: rest, p =>
    ∃ next, p = k.ask (.index i) raw next ∧ ∀ x, ReadsAll k (i + 1) rest (next x)

theorem readsAll_values {i : Nat} {raws : List Operand} {next : List Operand → Procedure}
    (h : ∀ xs, (next xs).IsQuiet) : (values i raws next).ReadsAll .value i raws := by
  induction raws generalizing i next with
  | nil => exact h []
  | cons raw rest ih => exact ⟨_, rfl, fun x => ih fun xs => h (x :: xs)⟩

end Procedure

namespace Head

variable {head : Head} {arguments : List Operand}

/-- Arguments with which something is wrong are refused for it. -/
theorem procedure_of_problem? {problem : Problem} (h : head.problem? arguments = some problem) :
    head.procedure arguments = .refuse problem := by
  cases head with
  | equality negated =>
    rcases arguments with _ | ⟨x, _ | ⟨y, rest⟩⟩ <;> cases h <;> rfl
  | reference | field =>
    rcases arguments with _ | ⟨v | n, _ | ⟨y, rest⟩⟩
    case cons.lit.nil | cons.lit.cons => cases v <;> cases h <;> rfl
    all_goals cases h; rfl
  | join k | not | ordering greater | nullCheck negated =>
    rcases arguments with _ | ⟨x, _ | ⟨y, _ | ⟨z, rest⟩⟩⟩ <;> cases h <;> rfl

/-- Other arguments are all read, or the tag is one that reads none. -/
theorem readsAll_procedure {k : Kind} (h : head.problem? arguments = none)
    (hkind : head.kind? = some k) : (head.procedure arguments).ReadsAll k 1 arguments := by
  have hfits := problem?_eq_none_iff.1 h
  cases head with
  | join _ =>
    cases hkind
    obtain ⟨l, r, rfl, -, -⟩ := hfits
    exact ⟨_, rfl, fun _ => ⟨_, rfl, fun _ _ => trivial⟩⟩
  | not =>
    cases hkind
    obtain ⟨y, rfl, -⟩ := hfits
    exact ⟨_, rfl, fun _ _ => trivial⟩
  | ordering _ =>
    cases hkind
    obtain ⟨l, r, rfl, -, -⟩ := hfits
    exact ⟨_, rfl, fun _ => ⟨_, rfl, fun _ _ => trivial⟩⟩
  | equality _ =>
    cases hkind
    obtain ⟨y, z, rest, rfl, -, -⟩ := hfits
    exact ⟨_, rfl, fun _ => Procedure.readsAll_values fun _ _ _ => trivial⟩
  | nullCheck _ =>
    cases hkind
    obtain ⟨y, rfl, -⟩ := hfits
    exact ⟨_, rfl, fun _ _ => trivial⟩
  | reference | field => cases hkind

theorem isQuiet_procedure (h : head.problem? arguments = none) (hkind : head.kind? = none) :
    (head.procedure arguments).IsQuiet := by
  have hfits := problem?_eq_none_iff.1 h
  cases head with
  | reference =>
    obtain ⟨name, rfl⟩ := hfits
    exact fun _ => trivial
  | field =>
    obtain ⟨n, rfl⟩ := hfits
    exact fun _ => trivial
  | _ => cases hkind

end Head

end RawForm

/-- Whatever a fault says to be malformed is to blame in an element at a place. -/
def Graph.MayBlame (g : Graph) (k : Kind) (x : Operand) (place : Place) (e : Fault) : Prop :=
  ∀ problem text, e = .malformed problem text →
    ∃ inner : Place, text = Place.text (place ++ inner) ∧ g.Blames k x inner problem

section

variable {g : Graph} {k : Kind} {x y raw : Operand} {place : Place} {problem : Problem} {e : Fault}

theorem Graph.mayBlame_here (h : g.problem? k x = some problem) :
    g.MayBlame k x place (.malformed problem place.text) := by
  rintro _ _ ⟨⟩
  exact ⟨[], by simp, .here h⟩

theorem Graph.MayBlame.inside {head : Head} {arguments : List Operand} {i : Nat}
    (h : g.MayBlame k y (place ++ [.index (i + 1)]) e)
    (items : g.items? x = some (.lit (.text head.tag) :: arguments)) (kind : head.kind? = some k)
    (argument : arguments[i]? = some y) (hbefore : ∀ z ∈ arguments.take i, g.IsOf k z) :
    g.MayBlame .condition x place e := by
  intro problem text he
  obtain ⟨inner, rfl, hblames⟩ := h problem text he
  exact ⟨.index (i + 1) :: inner, by simp, hblames.inside items kind argument hbefore⟩

end

namespace RawForm

open FilterCompiler.Graph (problem? mayBlame_here)

section

variable {g : Graph} {P : Operand → Prop} {may : Fault → Prop} {raw : Operand} {place : Place}
  {k : Kind} {p : Procedure} {arguments : List Operand}
  {condition value : Step → Operand → Reading Operand}

theorem Ends.run_of_isQuiet (hp : p.IsQuiet) :
    Ends (Memory.Knows g P) may (p.run condition value place) fun _ => True := by
  induction p with
  | give x => exact .pure trivial
  | add part next ih => exact (Ends.addPart part).bind fun x _ => ih x (hp x)
  | fail _ | condition _ _ _ | value _ _ _ | look _ => exact hp.elim

theorem Procedure.run_ask (step : Step) (next : Operand → Procedure) :
    (k.ask step raw next).run condition value place =
      k.via condition value step raw >>= fun x => (next x).run condition value place := by
  cases k <;> rfl

/-- Arguments are read in order, so that before one of them all others have been read. -/
theorem Ends.run_of_readsAll {i : Nat} (hp : p.ReadsAll k i arguments)
    (h : ∀ j raw, arguments[j]? = some raw → (∀ z ∈ arguments.take j, g.IsOf k z) →
      Ends (Memory.Knows g P) may (k.via condition value (.index (i + j)) raw) fun _ =>
        g.IsOf k raw) :
    Ends (Memory.Knows g P) may (p.run condition value place) fun _ =>
      ∀ raw ∈ arguments, g.IsOf k raw := by
  induction arguments generalizing i p with
  | nil => exact (Ends.run_of_isQuiet hp).mono (fun _ he => he) (by simp)
  | cons raw rest ih =>
    obtain ⟨next, rfl, hnext⟩ := hp
    rw [Procedure.run_ask]
    refine (h 0 raw rfl (by simp)).bind fun x hraw => ?_
    refine (ih (hnext x) fun j y hy hbefore => ?_).mono (fun _ he => he) fun _ hrest => ?_
    · rw [Nat.add_assoc, Nat.add_comm 1 j]
      exact h (j + 1) y hy (List.forall_mem_cons.2 ⟨hraw, hbefore⟩)
    · exact List.forall_mem_cons.2 ⟨hraw, hrest⟩

/-- A value with which something is wrong is refused for it. -/
theorem Ends.readValue_of_problem? {problem : Problem} (hraw : g.Has raw)
    (h : g.problem? .value raw = some problem) (place : Place) :
    Ends (Memory.Knows g P) (· = .malformed problem place.text) (RawForm.readValue place raw)
      fun _ => False := by
  unfold RawForm.readValue
  refine .look fun m hm => ?_
  rw [hm.graph.items?_eq hraw, hm.graph.kind_eq hraw]
  cases raw with
  | lit v =>
    dsimp only [problem?] at h ⊢
    split at h
    · cases h
    · next scalar =>
      cases h
      rw [if_neg scalar]
      exact .throw rfl
  | part n =>
    dsimp only
    split
    · next heq => cases heq
    · next arguments items _ =>
      rw [Graph.problem?_of_field items] at h
      have hread : RawForm.readField arguments place = RawForm.refuse problem place :=
        (Head.read_eq_run (fun _ => RawForm.readValue []) .field).trans
          (by rw [Head.procedure_of_problem? h]; rfl)
      rw [hread]
      exact .throw rfl
    · next hne =>
      cases h.symm.trans (Graph.problem?_of_not_field fun _ => hne _)
      exact .throw rfl

/-- A condition with which something is wrong is refused for it, unless it stands in itself. -/
theorem Ends.readCondition_of_problem? {problem : Problem} {above : List Operand} (hraw : g.Has raw)
    (h : g.problem? .condition raw = some problem) (hknown : ¬ P raw) (room : Nat)
    (place : Place) :
    Ends (Memory.Knows g P)
      (fun e => e = .malformed problem place.text ∨ raw ∈ above ∧ ∃ tag, e = .circular tag none)
      (RawForm.readCondition [] (room + 1) above place raw) fun _ => False := by
  rw [RawForm.readCondition]
  refine .look fun m hm => ?_
  rw [hm.graph.items?_eq hraw]
  split
  · next items =>
    simp only [problem?, items] at h
    cases h
    exact .throw (.inl rfl)
  · next items =>
    simp only [problem?, items] at h
    cases h
    exact .throw (.inl rfl)
  · next tag arguments items =>
    split
    · next hmem => exact .look fun m _ => .throw (.inr ⟨hmem, _, rfl⟩)
    · refine .look fun m hm => ?_
      split
      · next node known => exact (hknown (hm.known raw node known)).elim
      · split
        · next t =>
          refine Ends.bind (Q := fun _ => False) ?_ fun _ h => h.elim
          cases hhead : head? t with
          | none =>
            cases h.symm.trans (Graph.problem?_of_unknown items hhead)
            rw [readTagged_unknown hhead]
            exact .throw (.inl rfl)
          | some head =>
            obtain rfl := head?_eq_some_iff.1 hhead
            rw [Graph.problem?_of_items items] at h
            rw [readTagged_tag, Head.read_eq_run, Head.procedure_of_problem? h]
            exact .throw (.inl rfl)
        · next htag =>
          cases h.symm.trans (Graph.problem?_of_tag items htag)
          exact .throw (.inl rfl)

/-- A value is read, or refused for what is wrong with it. -/
theorem Ends.readValue_mayBlame (hraw : g.Has raw) (place : Place) :
    Ends (Memory.Knows g P) (g.MayBlame .value raw place) (RawForm.readValue place raw) fun _ =>
      g.IsValueForm raw := by
  cases hproblem : g.problem? .value raw with
  | none =>
    have hform := Graph.isValueForm_of_problem? hproblem
    exact (Ends.readValueForm hform place).mono (fun _ he => he) fun _ _ => hform
  | some problem =>
    exact (Ends.readValue_of_problem? hraw hproblem place).mono
      (fun _ he => he ▸ mayBlame_here hproblem) fun _ h => h.elim

/-- A row is read if its arguments are. -/
theorem Ends.read_mayBlame {head : Head} {condition : Place → Operand → Reading Operand}
    (items : g.items? raw = some (.lit (.text head.tag) :: arguments))
    (hproblem : head.problem? arguments = none) (hhas : ∀ y ∈ arguments, g.Has y)
    (hcondition : ∀ y ∈ arguments, ∀ place, Ends (Memory.Knows g P)
      (g.MayBlame .condition y place) (condition place y) fun _ => g.IsForm y) (place : Place) :
    Ends (Memory.Knows g P) (g.MayBlame .condition raw place)
      (head.read condition arguments place) fun _ => g.IsForm raw := by
  have hform := Graph.isForm_of_arguments items hproblem
  rw [Head.read_eq_run]
  cases hkind : head.kind? with
  | none =>
    exact (Ends.run_of_isQuiet (Head.isQuiet_procedure hproblem hkind)).mono (fun _ he => he)
      fun _ _ => hform (by simp [hkind])
  | some k =>
    refine (Ends.run_of_readsAll (Head.readsAll_procedure hproblem hkind)
      fun j y hy hbefore => ?_).mono (fun _ he => he) fun _ hall => hform (by simpa [hkind])
    have hmem : y ∈ arguments := List.mem_of_getElem? hy
    rw [Nat.add_comm]
    refine Ends.mono ?_ (fun e (he : g.MayBlame k y (place ++ [.index (j + 1)]) e) =>
      he.inside items hkind hy hbefore) fun _ h => h
    cases k with
    | condition => exact hcondition y hmem _
    | value => exact .readValue_mayBlame (hhas y hmem) _

/-- A condition is read, or refused for what is to blame in it. -/
theorem Ends.readCondition_mayBlame (hg : g.IsClosed) (hraw : g.Has raw) (room : Nat)
    (above : List Operand) (place : Place) :
    Ends (Memory.Knows g g.IsForm) (g.MayBlame .condition raw place)
      (RawForm.readCondition [] room above place raw) fun _ => g.IsForm raw := by
  induction room generalizing raw above place with
  | zero => exact .throw fun _ _ he => by cases he
  | succ room ih =>
    cases hproblem : g.problem? .condition raw with
    | some problem =>
      have hknown (h : g.IsForm raw) : False := by
        cases hproblem.symm.trans (Graph.IsOf.problem?_eq_none (k := .condition) h)
      refine (Ends.readCondition_of_problem? hraw hproblem hknown room place).mono ?_
        fun _ h => h.elim
      rintro _ (rfl | ⟨_, tag, rfl⟩)
      · exact mayBlame_here hproblem
      · exact fun _ _ he => by cases he
    | none =>
      obtain ⟨head, arguments, items, hproblem⟩ := Graph.exists_items_of_problem? hproblem
      rw [RawForm.readCondition]
      refine .look fun m hm => ?_
      rw [hm.graph.items?_eq hraw, items]
      dsimp only
      split
      · exact .look fun m _ => .throw fun _ _ he => by cases he
      · refine .look fun m hm => ?_
        split
        · next node known => exact .pure (hm.known raw node known)
        · refine Ends.bind (Q := fun _ => g.IsForm raw) ?_ fun node h =>
            (Ends.remember h).bind fun _ _ => .pure h
          rw [readTagged_tag]
          have hhas (y : Operand) (hy : y ∈ arguments) : g.Has y :=
            hg.items hraw items y (List.mem_cons_of_mem _ hy)
          exact .read_mayBlame items hproblem hhas (fun y hy place => ih (hhas y hy) _ place) place

end

/-! ### Elements alone -/

section

variable {g : Graph} {k : Kind} {raw x y : Operand} {room limit : Nat} {problem : Problem}

/-- What is wrong with an element itself is what it is refused for alone. -/
theorem readBy_of_problem? (hx : g.Has x) (h : g.problem? k x = some problem)
    (hroom : 0 < room) :
    readBy (k.read room) g x = .error (.malformed problem "") := by
  have hrun : readBy (k.read room) g x =
      k.read room [] [] x ⟨g, {}⟩ >>= fun p => .ok (p.1, p.2.graph) := rfl
  suffices hread : k.read room [] [] x ⟨g, {}⟩ = .error (.malformed problem "") by
    rw [hrun, hread, error_bind]
  have hempty : Memory.Knows g (fun _ => False) ⟨g, {}⟩ := .empty g _
  cases k with
  | condition =>
    obtain ⟨room, rfl⟩ := Nat.exists_eq_add_one.2 hroom
    have hends : Ends (Memory.Knows g fun _ => False)
        (fun e => e = .malformed problem "" ∨ x ∈ [] ∧ ∃ tag, e = .circular tag none)
        (readCondition [] (room + 1) [] [] x) fun _ => False :=
      .readCondition_of_problem? hx h id room []
    rcases hends _ hempty with ⟨_, _, _, _, h⟩ | ⟨_, hread, rfl | ⟨h, _⟩⟩
    · exact h.elim
    · exact hread
    · cases h
  | value =>
    rcases Ends.readValue_of_problem? hx h [] _ hempty with ⟨_, _, _, _, h⟩ | ⟨_, hread, rfl⟩
    · exact h.elim
    · exact hread

/-- What is of the grammar can be read alone, if it is not too deep. -/
theorem readBy_of_isOf (hg : g.IsClosed) (hx : g.Has x) (h : g.IsOf k x) (room : Nat) :
    (∃ p, readBy (k.read room) g x = .ok p) ∨
      readBy (k.read room) g x = .error .nestedTooDeep ∧ room ≤ g.parts.size := by
  have hrun : readBy (k.read room) g x =
      k.read room [] [] x ⟨g, {}⟩ >>= fun p => .ok (p.1, p.2.graph) := rfl
  have hproper : AreProper [] := fun _ _ hfind => by cases hfind
  have hsettled : Memory.IsSettled g [] ⟨g, {}⟩ := .empty g _
  rw [hrun]
  cases k with
  | condition =>
    rw [Kind.read]
    have hends : Ends (Memory.IsSettled g []) (· = .nestedTooDeep)
        (readCondition (extensions []) room [] [] x) fun _ => True :=
      .readSound hg hproper [] hx (Graph.IsForm.isSound h) (.nil _ _)
    rcases hends ⟨g, {}⟩ hsettled with ⟨a, m, hread, _⟩ | ⟨_, hread, rfl⟩
    · exact .inl ⟨_, by rw [show ([] : Extensions) = extensions [] from rfl, hread]; rfl⟩
    · refine .inr ⟨by rw [show ([] : Extensions) = extensions [] from rfl, hread]; rfl, ?_⟩
      rcases Ends.readCondition hg hproper [] hx .refl (.nil _ _) (Nat.zero_add room) ⟨g, {}⟩
        hsettled with ⟨_, _, hread', _⟩ | ⟨e, hread', he⟩
      · rw [hread] at hread'
        cases hread'
      · rw [hread] at hread'
        cases hread'
        exact he.deep rfl
  | value =>
    have hends : Ends (Memory.IsSettled g []) (fun _ => False) (readValue [] x) fun _ => True :=
      .readValueForm h []
    rcases hends ⟨g, {}⟩ hsettled with ⟨_, _, hread, _⟩ | ⟨_, _, h⟩
    · exact .inl ⟨_, by rw [Kind.read, hread]; rfl⟩
    · exact h.elim

/-- A raw form is refused as malformed for the first thing that is not as it should be. The place
leads from the root to an element, which is refused for the same alone, and what is read before that
element is read alone as well, if it is not too deep; it never is if more levels are followed than
there are parts. -/
theorem readBy_malformed (hg : g.IsClosed) (hraw : g.Has raw) {text : String}
    (h : readBy (readCondition [] limit) g raw = .error (.malformed problem text)) :
    ∃ place k x, text = Place.text place ∧ g.At .condition raw place k x ∧
      (∀ room, 0 < room → readBy (k.read room) g x = .error (.malformed problem "")) ∧
      ∀ other k' y, g.At .condition raw other k' y → other.Precedes place → ∀ room,
        (∃ p, readBy (k'.read room) g y = .ok p) ∨
          readBy (k'.read room) g y = .error .nestedTooDeep ∧ room ≤ g.parts.size := by
  have hrun : readBy (readCondition [] limit) g raw =
      readCondition [] limit [] [] raw ⟨g, {}⟩ >>= fun p => .ok (p.1, p.2.graph) := rfl
  rw [hrun] at h
  rcases Ends.readCondition_mayBlame hg hraw limit [] [] ⟨g, {}⟩ (.empty g _) with
    ⟨_, _, hread, _⟩ | ⟨e, hread, he⟩
  · rw [hread] at h
    cases h
  · rw [hread] at h
    obtain ⟨place, rfl, ⟨k, x, hx, hproblem⟩, hbefore⟩ := he problem text (Except.error.inj h)
    refine ⟨place, k, x, rfl, hx, fun room => readBy_of_problem? (hx.has hg hraw) hproblem,
      fun other k' y hy hother room => ?_⟩
    exact readBy_of_isOf hg (hy.has hg hraw) (hbefore other k' y hy hother) room

end

/-- The second of two conditions is a pair as well, whose second row has an unknown tag. -/
def misspelt : Graph :=
  ⟨#[.list [.lit (.text "field"), .lit (.integer 1)], .list [.lit (.text "either")],
    .list [.lit (.text "or"), .part 0, .part 1], .list [.lit (.text "and"), .part 0, .part 2]]⟩

theorem misspelt_malformed :
    misspelt.IsClosed ∧ misspelt.Has (.part 3) ∧
      read [] misspelt (.part 3) = .error (.malformed (.unknownTag "'either'") "[2][2]") ∧
      ∃ place k x, "[2][2]" = Place.text place ∧ misspelt.At .condition (.part 3) place k x ∧
        (∀ room, 0 < room → readBy (k.read room) misspelt x =
          .error (.malformed (.unknownTag "'either'") "")) ∧
        ∀ other k' y, misspelt.At .condition (.part 3) other k' y → other.Precedes place →
          ∀ room, (∃ p, readBy (k'.read room) misspelt y = .ok p) ∨
            readBy (k'.read room) misspelt y = .error .nestedTooDeep ∧
              room ≤ misspelt.parts.size := by
  have hg : misspelt.IsClosed := by decide
  have hraw : misspelt.Has (.part 3) := by decide
  have hroom : misspelt.parts.size < 5 := by decide
  have hread : readBy (readCondition [] nestingLimit) misspelt (.part 3) =
      .error (.malformed (.unknownTag "'either'") "[2][2]") :=
    (readBy_eq_error_iff hg hraw hroom (by decide)).2 rfl
  exact ⟨hg, hraw, hread, readBy_malformed hg hraw hread⟩

end RawForm

end FilterCompiler
