import FilterCompiler.Proofs.Locality
import FilterCompiler.Proofs.Parsing

/-! The grammar of raw forms. A raw form is a row that begins with a tag, and the tag says what has
to follow; lists and tuples are rows alike. A condition has a raw form of its own, and a graph may
spell that in many ways. Proved here: a condition is known by its raw form, what a graph spells is
settled by the graph, and what spells the raw form of a condition is of the grammar. -/

namespace FilterCompiler

namespace RawForm

/-! ### Tags -/

/-- What a tag stands for. -/
inductive Head where
  | join (connective : Connective)
  | not
  | ordering (greater : Bool)
  | equality (negated : Bool)
  | nullCheck (negated : Bool)
  | reference
  | field
deriving DecidableEq

def Head.tag : Head → String
  | join .and => "and"
  | join .or => "or"
  | not => "not"
  | ordering false => "<"
  | ordering true => ">"
  | equality false => "="
  | equality true => "!="
  | nullCheck false => "is-empty"
  | nullCheck true => "not-empty"
  | reference => "macro"
  | field => "field"

def head? : String → Option Head
  | "and" => some (.join .and)
  | "or" => some (.join .or)
  | "not" => some .not
  | "<" => some (.ordering false)
  | ">" => some (.ordering true)
  | "=" => some (.equality false)
  | "!=" => some (.equality true)
  | "is-empty" => some (.nullCheck false)
  | "not-empty" => some (.nullCheck true)
  | "macro" => some .reference
  | "field" => some .field
  | _ => none

theorem head?_tag (head : Head) : head? head.tag = some head := by
  cases head with
  | join k => cases k <;> rfl
  | ordering greater => cases greater <;> rfl
  | equality negated | nullCheck negated => cases negated <;> rfl
  | _ => rfl

theorem head?_eq_some_iff {tag : String} {head : Head} :
    head? tag = some head ↔ head.tag = tag := by
  constructor
  · intro h
    unfold head? at h
    split at h <;> cases h <;> rfl
  · rintro rfl
    exact head?_tag head

theorem Head.tag_injective {head head' : Head} (h : head.tag = head'.tag) : head = head' := by
  have htag := head?_tag head
  rw [h, head?_tag] at htag
  exact (Option.some.inj htag).symm

/-! ### Forms -/

/-- Raw data in which lists and tuples are the same. -/
inductive Form where
  | literal (value : Literal)
  | row (items : List Form)

end RawForm

open RawForm (Head Form)

def Value.form : Value → Form
  | field n => .row [.literal (.text Head.field.tag), .literal (.integer n)]
  | literal v => .literal v

namespace Condition

def head : Condition → Head
  | join k _ _ => .join k
  | not _ => .not
  | ordering greater _ _ => .ordering greater
  | equality negated _ _ => .equality negated
  | nullCheck negated _ => .nullCheck negated
  | field _ => .field
  | reference _ => .reference

/-- A condition as raw data. -/
def form : Condition → Form
  | join k c d => .row [.literal (.text (Head.join k).tag), c.form, d.form]
  | not c => .row [.literal (.text Head.not.tag), c.form]
  | ordering greater u v =>
    .row [.literal (.text (Head.ordering greater).tag), u.form, v.form]
  | equality negated u vs =>
    .row (.literal (.text (Head.equality negated).tag) :: u.form :: vs.map Value.form)
  | nullCheck negated u => .row [.literal (.text (Head.nullCheck negated).tag), u.form]
  | field n => .row [.literal (.text Head.field.tag), .literal (.integer n)]
  | reference name => .row [.literal (.text Head.reference.tag), .literal (.text name)]

end Condition

/-- A literal that may stand in a raw form. -/
inductive Literal.IsScalar : Literal → Prop
  | null : IsScalar .null
  | truth (b : Bool) : IsScalar (.truth b)
  | integer (n : Int) : IsScalar (.integer n)
  | float (x : Binary64) : IsScalar (.float x)
  | text (s : String) : IsScalar (.text s)

theorem RawForm.isScalar_iff {v : Literal} : isScalar v = true ↔ v.IsScalar := by
  constructor
  · intro h
    cases v <;> first | constructor | cases h
  · rintro (_ | _ | _ | _ | _) <;> rfl

/-- A value that may stand in a raw form. -/
def Value.IsPlain : Value → Prop
  | field _ => True
  | literal v => v.IsScalar

/-- A condition whose literals may stand in a raw form and whose comparisons are all with
something. -/
def Condition.IsPlain : Condition → Prop
  | join _ c d => c.IsPlain ∧ d.IsPlain
  | not c => c.IsPlain
  | ordering _ u v => u.IsPlain ∧ v.IsPlain
  | equality _ u vs => u.IsPlain ∧ vs ≠ [] ∧ ∀ v ∈ vs, v.IsPlain
  | nullCheck _ u => u.IsPlain
  | field _ | reference _ => True

theorem Value.form_injective {u v : Value} (h : u.form = v.form) : u = v := by
  cases u <;> cases v <;> simp_all [form]

theorem Condition.exists_form (c : Condition) :
    ∃ forms, c.form = .row (.literal (.text c.head.tag) :: forms) := by
  cases c <;> exact ⟨_, rfl⟩

/-- A condition is known by its raw form. -/
theorem Condition.form_injective {c d : Condition} (h : c.form = d.form) : c = d := by
  have hhead (c d : Condition) (h : c.form = d.form) : c.head = d.head := by
    obtain ⟨forms, hc⟩ := c.exists_form
    obtain ⟨forms', hd⟩ := d.exists_form
    rw [hc, hd] at h
    simp only [Form.row.injEq, List.cons.injEq, Form.literal.injEq, Literal.text.injEq] at h
    exact Head.tag_injective h.1
  induction c generalizing d with
  | join k c₁ c₂ ih₁ ih₂ =>
    have hjoin := hhead _ _ h
    cases d with
    | join k' d₁ d₂ =>
      cases hjoin
      simp only [form, Form.row.injEq, List.cons.injEq] at h
      rw [ih₁ h.2.1, ih₂ h.2.2.1]
    | _ => cases hjoin
  | not c ih =>
    have hnot := hhead _ _ h
    cases d with
    | not d =>
      simp only [form, Form.row.injEq, List.cons.injEq] at h
      rw [ih h.2.1]
    | _ => cases hnot
  | ordering greater u v =>
    have hordering := hhead _ _ h
    cases d with
    | ordering greater' u' v' =>
      cases hordering
      simp only [form, Form.row.injEq, List.cons.injEq] at h
      rw [Value.form_injective h.2.1, Value.form_injective h.2.2.1]
    | _ => cases hordering
  | equality negated u vs =>
    have hequality := hhead _ _ h
    cases d with
    | equality negated' u' vs' =>
      cases hequality
      simp only [form, Form.row.injEq, List.cons.injEq] at h
      rw [Value.form_injective h.2.1,
        List.map_injective_iff.2 (fun _ _ => Value.form_injective) h.2.2]
    | _ => cases hequality
  | nullCheck negated u =>
    have hcheck := hhead _ _ h
    cases d with
    | nullCheck negated' u' =>
      cases hcheck
      simp only [form, Form.row.injEq, List.cons.injEq] at h
      rw [Value.form_injective h.2.1]
    | _ => cases hcheck
  | field n =>
    have hfield := hhead _ _ h
    cases d with
    | field n' =>
      simp only [form, Form.row.injEq, List.cons.injEq, Form.literal.injEq,
        Literal.integer.injEq] at h
      rw [h.2.1]
    | _ => cases hfield
  | reference name =>
    have hreference := hhead _ _ h
    cases d with
    | reference name' =>
      simp only [form, Form.row.injEq, List.cons.injEq, Form.literal.injEq,
        Literal.text.injEq] at h
      rw [h.2.1]
    | _ => cases hreference

namespace Graph

mutual

/-- An operand of a graph is some raw data. -/
def Spells (g : Graph) : Operand → Form → Prop
  | x, .literal v => x = .lit v
  | x, .row forms => ∃ items, g.items? x = some items ∧ SpellAll g items forms

def SpellAll (g : Graph) : List Operand → List Form → Prop
  | [], [] => True
  | x :: xs, form :: forms => Spells g x form ∧ SpellAll g xs forms
  | _, _ => False

end

variable {g G : Graph} {x : Operand}

theorem spells_literal {v : Literal} : g.Spells x (.literal v) ↔ x = .lit v := by rw [Spells]

theorem spells_row {forms : List Form} :
    g.Spells x (.row forms) ↔ ∃ items, g.items? x = some items ∧ g.SpellAll items forms := by
  rw [Spells]

theorem spellAll_iff {xs : List Operand} {forms : List Form} :
    g.SpellAll xs forms ↔ List.Forall₂ g.Spells xs forms := by
  induction xs generalizing forms with
  | nil => cases forms <;> simp [SpellAll]
  | cons x xs ih => cases forms <;> simp [SpellAll, ih]

/-- A row whose first item is a tag. -/
theorem spells_tagged {t : String} {forms : List Form} :
    g.Spells x (.row (.literal (.text t) :: forms)) ↔
      ∃ arguments, g.items? x = some (.lit (.text t) :: arguments) ∧
        List.Forall₂ g.Spells arguments forms := by
  simp only [spells_row, spellAll_iff, List.forall₂_cons_right_iff, spells_literal]
  constructor
  · rintro ⟨items, hitems, y, arguments, rfl, hall, rfl⟩
    exact ⟨arguments, hitems, hall⟩
  · rintro ⟨arguments, hitems, hall⟩
    exact ⟨_, hitems, _, arguments, rfl, hall, rfl⟩

mutual

/-- An operand is one piece of raw data at most. -/
theorem Spells.unique : ∀ {x : Operand} {form form' : Form}, g.Spells x form → g.Spells x form' →
    form = form'
  | x, .literal v, .literal v', h, h' => by
    rw [spells_literal.1 h] at h'
    exact congrArg _ (Operand.lit.inj (spells_literal.1 h'))
  | x, .literal v, .row forms, h, h' => by
    obtain ⟨_, hitems, _⟩ := spells_row.1 h'
    rw [spells_literal.1 h] at hitems
    cases hitems
  | x, .row forms, .literal v, h, h' => by
    obtain ⟨_, hitems, _⟩ := spells_row.1 h
    rw [spells_literal.1 h'] at hitems
    cases hitems
  | x, .row forms, .row forms', h, h' => by
    obtain ⟨items, hitems, hall⟩ := spells_row.1 h
    obtain ⟨items', hitems', hall'⟩ := spells_row.1 h'
    rw [hitems] at hitems'
    cases hitems'
    rw [SpellAll.unique hall hall']

theorem SpellAll.unique : ∀ {xs : List Operand} {forms forms' : List Form}, g.SpellAll xs forms →
    g.SpellAll xs forms' → forms = forms'
  | [], [], [], _, _ => rfl
  | x :: xs, form :: forms, form' :: forms', h, h' => by
    rw [SpellAll] at h h'
    rw [Spells.unique h.1 h'.1, SpellAll.unique h.2 h'.2]

end

mutual

theorem Spells.extend (hG : g.Extends G) : ∀ {x : Operand} {form : Form}, g.Spells x form →
    G.Spells x form
  | x, .literal v, h => spells_literal.2 (spells_literal.1 h)
  | x, .row forms, h => by
    obtain ⟨items, hitems, hall⟩ := spells_row.1 h
    exact spells_row.2 ⟨items, hG.items? hitems, SpellAll.extend hG hall⟩

theorem SpellAll.extend (hG : g.Extends G) : ∀ {xs : List Operand} {forms : List Form},
    g.SpellAll xs forms → G.SpellAll xs forms
  | [], [], _ => trivial
  | x :: xs, form :: forms, h => by
    rw [SpellAll] at h ⊢
    exact ⟨Spells.extend hG h.1, SpellAll.extend hG h.2⟩

end

mutual

/-- Every piece of raw data can be put into a graph. -/
theorem exists_spells : ∀ (form : Form) {g : Graph}, g.IsClosed →
    ∃ G x, g.Extends G ∧ G.IsClosed ∧ G.Has x ∧ G.Spells x form
  | .literal v, g, hg => ⟨g, .lit v, .refl g, hg, trivial, spells_literal.2 rfl⟩
  | .row forms, g, hg => by
    obtain ⟨G, xs, hG, hclosed, hxs, hall⟩ := exists_spellAll forms hg
    have hadd := G.extends_add (.list xs)
    refine ⟨_, _, hG.trans hadd, hclosed.add hxs, G.has_add _,
      spells_row.2 ⟨xs, ?_, hall.extend hadd⟩⟩
    simp [Graph.items?, Graph.part?, Graph.get?, Graph.add]

theorem exists_spellAll : ∀ (forms : List Form) {g : Graph}, g.IsClosed →
    ∃ G xs, g.Extends G ∧ G.IsClosed ∧ (∀ x ∈ xs, G.Has x) ∧ G.SpellAll xs forms
  | [], g, hg => ⟨g, [], .refl g, hg, by simp, trivial⟩
  | form :: forms, g, hg => by
    obtain ⟨G, x, hG, hclosed, hx, hspells⟩ := exists_spells form hg
    obtain ⟨G', xs, hG', hclosed', hxs, hall⟩ := exists_spellAll forms hclosed
    refine ⟨G', x :: xs, hG.trans hG', hclosed', ?_, ?_⟩
    · simpa using ⟨hG'.has hx, hxs⟩
    · rw [SpellAll]
      exact ⟨hspells.extend hG', hall⟩

end

/-! ### The grammar -/

/-- A value in a raw form: a scalar or a field by its number. -/
inductive IsValueForm (g : Graph) : Operand → Prop where
  | literal {v : Literal} (scalar : v.IsScalar) : IsValueForm g (.lit v)
  | field {x : Operand} {n : Int}
      (items : g.items? x = some [.lit (.text Head.field.tag), .lit (.integer n)]) :
      IsValueForm g x

/-- A raw form. -/
inductive IsForm (g : Graph) : Operand → Prop where
  | join {x l r : Operand} {k : Connective}
      (items : g.items? x = some [.lit (.text (Head.join k).tag), l, r]) (left : IsForm g l)
      (right : IsForm g r) : IsForm g x
  | not {x y : Operand} (items : g.items? x = some [.lit (.text Head.not.tag), y])
      (operand : IsForm g y) : IsForm g x
  | ordering {x l r : Operand} {greater : Bool}
      (items : g.items? x = some [.lit (.text (Head.ordering greater).tag), l, r])
      (left : g.IsValueForm l) (right : g.IsValueForm r) : IsForm g x
  | equality {x y z : Operand} {rest : List Operand} {negated : Bool}
      (items : g.items? x = some (.lit (.text (Head.equality negated).tag) :: y :: z :: rest))
      (operand : g.IsValueForm y) (compared : ∀ w ∈ z :: rest, g.IsValueForm w) : IsForm g x
  | nullCheck {x y : Operand} {negated : Bool}
      (items : g.items? x = some [.lit (.text (Head.nullCheck negated).tag), y])
      (value : g.IsValueForm y) : IsForm g x
  | reference {x : Operand} {name : String}
      (items : g.items? x = some [.lit (.text Head.reference.tag), .lit (.text name)]) : IsForm g x
  | field {x : Operand} {n : Int}
      (items : g.items? x = some [.lit (.text Head.field.tag), .lit (.integer n)]) : IsForm g x

end Graph

/-- What has to follow a tag. -/
def RawForm.Head.Fits (value condition : Operand → Prop) (arguments : List Operand) : Head → Prop
  | join _ => ∃ l r, arguments = [l, r] ∧ condition l ∧ condition r
  | not => ∃ y, arguments = [y] ∧ condition y
  | ordering _ => ∃ l r, arguments = [l, r] ∧ value l ∧ value r
  | equality _ => ∃ y z rest, arguments = y :: z :: rest ∧ value y ∧ ∀ w ∈ z :: rest, value w
  | nullCheck _ => ∃ y, arguments = [y] ∧ value y
  | reference => ∃ name, arguments = [.lit (.text name)]
  | field => ∃ n, arguments = [.lit (.integer n)]

namespace Graph

variable {g G : Graph} {x : Operand}

/-- A raw form is a row that begins with a tag and goes on as the tag has it. -/
theorem IsForm.exists_head (h : g.IsForm x) :
    ∃ (head : Head) (arguments : List Operand),
      g.items? x = some (.lit (.text head.tag) :: arguments) ∧
        head.Fits g.IsValueForm g.IsForm arguments := by
  cases h with
  | join items left right => exact ⟨.join _, _, items, _, _, rfl, left, right⟩
  | not items operand => exact ⟨.not, _, items, _, rfl, operand⟩
  | ordering items left right => exact ⟨.ordering _, _, items, _, _, rfl, left, right⟩
  | equality items operand compared =>
    exact ⟨.equality _, _, items, _, _, _, rfl, operand, compared⟩
  | nullCheck items value => exact ⟨.nullCheck _, _, items, _, rfl, value⟩
  | reference items => exact ⟨.reference, _, items, _, rfl⟩
  | field items => exact ⟨.field, _, items, _, rfl⟩

theorem not_isForm (h : ∀ tag arguments, g.items? x ≠ some (tag :: arguments)) : ¬ g.IsForm x :=
  fun hx => have ⟨_, _, hitems, _⟩ := hx.exists_head; h _ _ hitems

theorem IsForm.fits (h : g.IsForm x) {tag : Operand} {arguments : List Operand}
    (hitems : g.items? x = some (tag :: arguments)) :
    ∃ head : Head, tag = .lit (.text head.tag) ∧ head.Fits g.IsValueForm g.IsForm arguments := by
  obtain ⟨head, arguments', hitems', hfits⟩ := h.exists_head
  rw [hitems] at hitems'
  cases hitems'
  exact ⟨head, rfl, hfits⟩

theorem IsForm.fits_of_tag (h : g.IsForm x) {head : Head} {arguments : List Operand}
    (hitems : g.items? x = some (.lit (.text head.tag) :: arguments)) :
    head.Fits g.IsValueForm g.IsForm arguments := by
  obtain ⟨head', htag, hfits⟩ := h.fits hitems
  obtain rfl : head = head' := Head.tag_injective (by simpa using htag)
  exact hfits

/-- What spells a value is one. -/
theorem isValueForm_of_spells {u : Value} (h : g.Spells x u.form) (hu : u.IsPlain) :
    g.IsValueForm x := by
  cases u with
  | field n =>
    obtain ⟨_, hitems, hall⟩ := spells_tagged.1 h
    rcases hall with _ | ⟨hn, _ | _⟩
    rw [spells_literal.1 hn] at hitems
    exact .field hitems
  | literal v =>
    rw [Value.form, spells_literal] at h
    subst h
    exact .literal hu

theorem isValueForm_of_spells_all {us : List Value} {xs : List Operand}
    (h : List.Forall₂ g.Spells xs (us.map Value.form)) (hus : ∀ u ∈ us, u.IsPlain) :
    ∀ x ∈ xs, g.IsValueForm x := by
  intro x hx
  obtain ⟨form, hform, hspells⟩ := exists_of_forall₂ h hx
  obtain ⟨u, hu, rfl⟩ := List.mem_map.1 hform
  exact isValueForm_of_spells hspells (hus u hu)

/-- What spells the raw form of a condition is one. -/
theorem isForm_of_spells {c : Condition} (h : g.Spells x c.form) (hc : c.IsPlain) :
    g.IsForm x := by
  induction c generalizing x with
  | join k c d ihc ihd =>
    obtain ⟨_, hitems, hall⟩ := spells_tagged.1 h
    rcases hall with _ | ⟨hl, _ | ⟨hr, _ | _⟩⟩
    exact .join hitems (ihc hl hc.1) (ihd hr hc.2)
  | not c ih =>
    obtain ⟨_, hitems, hall⟩ := spells_tagged.1 h
    rcases hall with _ | ⟨hy, _ | _⟩
    exact .not hitems (ih hy hc)
  | ordering greater u v =>
    obtain ⟨_, hitems, hall⟩ := spells_tagged.1 h
    rcases hall with _ | ⟨hl, _ | ⟨hr, _ | _⟩⟩
    exact .ordering hitems (isValueForm_of_spells hl hc.1) (isValueForm_of_spells hr hc.2)
  | equality negated u vs =>
    obtain ⟨hu, hne, hvs⟩ := hc
    obtain ⟨_, hitems, hall⟩ := spells_tagged.1 h
    rcases hall with _ | ⟨hy, hall⟩
    have hcompared := isValueForm_of_spells_all hall hvs
    cases vs with
    | nil => contradiction
    | cons v vs =>
      rcases hall with _ | ⟨_, _⟩
      exact .equality hitems (isValueForm_of_spells hy hu) hcompared
  | nullCheck negated u =>
    obtain ⟨_, hitems, hall⟩ := spells_tagged.1 h
    rcases hall with _ | ⟨hy, _ | _⟩
    exact .nullCheck hitems (isValueForm_of_spells hy hc)
  | field n =>
    obtain ⟨_, hitems, hall⟩ := spells_tagged.1 h
    rcases hall with _ | ⟨hn, _ | _⟩
    rw [spells_literal.1 hn] at hitems
    exact .field hitems
  | reference name =>
    obtain ⟨_, hitems, hall⟩ := spells_tagged.1 h
    rcases hall with _ | ⟨hname, _ | _⟩
    rw [spells_literal.1 hname] at hitems
    exact .reference hitems

/-! ### Rows that hold no end -/

/-- From a row to one of its items. -/
def Item (g : Graph) (x y : Operand) : Prop := ∃ items, g.items? x = some items ∧ y ∈ items

/-- No row inside an operand holds itself. -/
def IsWellFounded (g : Graph) (x : Operand) : Prop :=
  ∀ y, g.Inside x y → ¬ Relation.TransGen g.Item y y

mutual

theorem Spells.acc : ∀ {x : Operand} {form : Form}, g.Spells x form → Acc (flip g.Item) x
  | x, .literal v, h => by
    rw [spells_literal.1 h]
    exact .intro _ fun y ⟨_, hitems, _⟩ => nomatch hitems
  | x, .row forms, h => by
    obtain ⟨items, hitems, hall⟩ := spells_row.1 h
    refine .intro x fun y ⟨items', hitems', hy⟩ => ?_
    rw [hitems] at hitems'
    cases hitems'
    exact SpellAll.acc hall y hy

theorem SpellAll.acc : ∀ {xs : List Operand} {forms : List Form}, g.SpellAll xs forms →
    ∀ x ∈ xs, Acc (flip g.Item) x
  | [], [], _ => by simp
  | x :: xs, form :: forms, h => by
    rw [SpellAll] at h
    simpa using ⟨Spells.acc h.1, SpellAll.acc h.2⟩

end

theorem Spells.isWellFounded {form : Form} (h : g.Spells x form) : g.IsWellFounded x :=
  fun _ hy => not_transGen_self_of_acc (acc_of_reflTransGen h.acc hy)

end Graph

end FilterCompiler
