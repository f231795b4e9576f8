import FilterCompiler.Proofs.Compilation
import FilterCompiler.Proofs.Meaning

/-! Runs that differ in data alone. Two graphs are twins when they differ in nothing but texts
that stand as values, and two field maps when they differ in nothing but column names that are not
empty; which texts and which names may stand for each other is left open, also whether one may
stand for itself. Proved here: twins stand for formulas that are twins themselves, so they are
nested equally deep and have the same lexemes but for quotations, and each quotation is one of a
text or name that stands in its twin's place. -/

namespace FilterCompiler

/-- Whether a lexeme is a quotation. -/
def Lexeme.isQuotation : Lexeme → Bool
  | text _ | name _ => true
  | _ => false

section

variable (P Q : String → String → Prop)

/-! ### Twins -/

/-- The same operand, or texts that may stand for each other. -/
inductive Operand.Twin : Operand → Operand → Prop where
  | same (x : Operand) (h : ∀ t, x ≠ .lit (.text t)) : Twin x x
  | text {t t' : String} (h : P t t') : Twin (.lit (.text t)) (.lit (.text t'))

/-- The characters of a text, taken one by one, may stand for themselves. -/
def Operand.Repeats (x : Operand) : Prop :=
  ∀ t, x = .lit (.text t) → ∀ c ∈ t.toList, P c.toString c.toString

/-- Nodes of one kind whose conditions and values are twins. The number of a field and the name
of a reference are the same. Nodes that are no conditions are never looked into. -/
inductive Node.Twin : Node → Node → Prop where
  | join (k : Connective) {l r l' r' : Operand} (left : Operand.Twin P l l')
      (right : Operand.Twin P r r') : Twin (k.node l r) (k.node l' r')
  | not {y y' : Operand} (operand : Operand.Twin P y y') : Twin (.not y) (.not y')
  | ordering (greater : Bool) {l r l' r' : Operand} (left : Operand.Twin P l l')
      (right : Operand.Twin P r r') : Twin (.ordering greater l r) (.ordering greater l' r')
  | equality (negated : Bool) {y y' : Operand} (operand : Operand.Twin P y y')
      {values : Operand} (characters : values.Repeats P) :
      Twin (.equality negated y values) (.equality negated y' values)
  | nullCheck (negated : Bool) {y y' : Operand} (value : Operand.Twin P y y') :
      Twin (.nullCheck negated y) (.nullCheck negated y')
  | field (number : Literal) : Twin (.field (.lit number)) (.field (.lit number))
  | reference (name : Operand) : Twin (.reference name) (.reference name)
  | other {n n' : Node} (h : n.outline = .other) (h' : n'.outline = .other) : Twin n n'

/-- Parts that hold twins in the same places; of records nothing but the keys counts. -/
inductive Part.Twin : Part → Part → Prop where
  | node {n n' : Node} (h : Node.Twin P n n') : Twin (.node n) (.node n')
  | list {xs xs' : List Operand} (h : List.Forall₂ (Operand.Twin P) xs xs') :
      Twin (.list xs) (.list xs')
  | tuple {xs xs' : List Operand} (h : List.Forall₂ (Operand.Twin P) xs xs') :
      Twin (.tuple xs) (.tuple xs')
  | set {xs xs' : List Operand} (h : List.Forall₂ (Operand.Twin P) xs xs') :
      Twin (.set xs) (.set xs')
  | record {es es' : List (Operand × Operand)}
      (h : List.Forall₂ (Operand.Twin P) (es.map Prod.fst) (es'.map Prod.fst)) :
      Twin (.record es) (.record es')
  | ordered {es es' : List (Operand × Operand)}
      (h : List.Forall₂ (Operand.Twin P) (es.map Prod.fst) (es'.map Prod.fst)) :
      Twin (.ordered es) (.ordered es')

structure Graph.Twin (g g' : Graph) : Prop where
  parts : List.Forall₂ (Part.Twin P) g.parts.toList g'.parts.toList

/-- Columns that are absent or empty in both, or names that may stand for each other. -/
inductive ColumnTwin : Option String → Option String → Prop where
  | absent : ColumnTwin none none
  | empty : ColumnTwin (some "") (some "")
  | named {name name' : String} (hne : name ≠ "") (hne' : name' ≠ "") (h : Q name name') :
      ColumnTwin (some name) (some name')

/-- Field maps with the same keys and twins for columns. -/
def Fields.Twin (fields fields' : Fields) : Prop :=
  List.Forall₂ (fun e e' => e.1 = e'.1 ∧ ColumnTwin Q e.2 e'.2) fields fields'

/-- Tables of the same names for twins. -/
def Definitions.Twin (t t' : Definitions) : Prop :=
  List.Forall₂ (fun e e' => e.1 = e'.1 ∧ Operand.Twin P e.2 e'.2) t t'

structure Scope.Twin (s s' : Scope) : Prop where
  graph : Graph.Twin P s.graph s'.graph
  fields : Fields.Twin Q s.fields s'.fields
  definitions : Definitions.Twin P s.definitions s'.definitions

/-- The same term, or texts or columns that may stand for each other. -/
inductive Term.Twin : Term → Term → Prop where
  | same (t : Term) (h : t.lexeme.isQuotation = false) : Twin t t
  | text {t t' : String} (h : P t t') : Twin (.text t) (.text t')
  | column {name name' : String} (h : Q name name') : Twin (.column name) (.column name')

inductive Predicate.Twin : Predicate → Predicate → Prop where
  | compare (sign : Sign) {l r l' r' : Term} (left : Term.Twin P Q l l')
      (right : Term.Twin P Q r r') : Twin (.compare sign l r) (.compare sign l' r')
  | among (negated : Bool) {x x' : Term} {values values' : List Term}
      (operand : Term.Twin P Q x x') (compared : List.Forall₂ (Term.Twin P Q) values values') :
      Twin (.among negated x values) (.among negated x' values')
  | isNull (negated : Bool) {x x' : Term} (operand : Term.Twin P Q x x') :
      Twin (.isNull negated x) (.isNull negated x')
  | column {name name' : String} (h : Q name name') : Twin (.column name) (.column name')

inductive Shape.Twin : Shape → Shape → Prop where
  | atom {p p' : Predicate} (h : Predicate.Twin P Q p p') : Twin (.atom p) (.atom p')
  | join (k : Connective) {l r l' r' : Operand} (left : Operand.Twin P l l')
      (right : Operand.Twin P r r') : Twin (.join k l r) (.join k l' r')
  | not {y y' : Operand} (operand : Operand.Twin P y y') : Twin (.not y) (.not y')
  | follow {y y' : Operand} (body : Operand.Twin P y y') : Twin (.follow y) (.follow y')

inductive Formula.Twin : Formula → Formula → Prop where
  | atom {p p' : Predicate} (h : Predicate.Twin P Q p p') : Twin (.atom p) (.atom p')
  | join (k : Connective) {f g f' g' : Formula} (left : Twin f f') (right : Twin g g') :
      Twin (.join k f g) (.join k f' g')
  | not {f f' : Formula} (operand : Twin f f') : Twin (.not f) (.not f')
  | named {f f' : Formula} (body : Twin f f') : Twin (.named f) (.named f')

/-- The same word or mark, or quotations of what may stand for each other. -/
inductive Lexeme.Twin : Lexeme → Lexeme → Prop where
  | same (t : Lexeme) (h : t.isQuotation = false) : Twin t t
  | text {t t' : String} (h : P t t') : Twin (.text t) (.text t')
  | name {name name' : String} (h : Q name name') : Twin (.name name) (.name name')

end

variable {P Q : String → String → Prop}

/-! ### Twins the other way round -/

theorem Operand.Twin.symm {x x' : Operand} (h : Twin P x x') : Twin (flip P) x' x := by
  cases h with
  | same x h => exact .same x h
  | text h => exact .text h

theorem Node.Twin.symm {n n' : Node} (h : Twin P n n') : Twin (flip P) n' n := by
  cases h with
  | join k left right => exact .join k left.symm right.symm
  | not operand => exact .not operand.symm
  | ordering greater left right => exact .ordering greater left.symm right.symm
  | equality negated operand characters => exact .equality negated operand.symm characters
  | nullCheck negated value => exact .nullCheck negated value.symm
  | field number => exact .field number
  | reference name => exact .reference name
  | other h h' => exact .other h' h

/-- A relation between the elements of two lists, the other way round. -/
theorem forall₂_symm {α : Type} {R S : α → α → Prop} (h : ∀ a b, R a b → S b a) {xs ys : List α}
    (hxs : List.Forall₂ R xs ys) : List.Forall₂ S ys xs :=
  (hxs.imp fun a b => h a b).flip

theorem Part.Twin.symm {p p' : Part} (h : Twin P p p') : Twin (flip P) p' p := by
  have hsymm {xs xs' : List Operand} (h : List.Forall₂ (Operand.Twin P) xs xs') :=
    forall₂_symm (S := Operand.Twin (flip P)) (fun _ _ => Operand.Twin.symm) h
  cases h with
  | node h => exact .node h.symm
  | list h => exact .list (hsymm h)
  | tuple h => exact .tuple (hsymm h)
  | set h => exact .set (hsymm h)
  | record h => exact .record (hsymm h)
  | ordered h => exact .ordered (hsymm h)

theorem ColumnTwin.symm {c c' : Option String} (h : ColumnTwin Q c c') :
    ColumnTwin (flip Q) c' c := by
  cases h with
  | absent => exact .absent
  | empty => exact .empty
  | named hne hne' h => exact .named hne' hne h

theorem Graph.Twin.symm {g g' : Graph} (h : Twin P g g') : Twin (flip P) g' g :=
  ⟨forall₂_symm (fun _ _ => Part.Twin.symm) h.parts⟩

theorem Fields.Twin.symm {fields fields' : Fields} (h : Twin Q fields fields') :
    Twin (flip Q) fields' fields :=
  forall₂_symm (fun _ _ ⟨hkey, hcolumn⟩ => ⟨hkey.symm, hcolumn.symm⟩) h

theorem Definitions.Twin.symm {t t' : Definitions} (h : Twin P t t') : Twin (flip P) t' t :=
  forall₂_symm (fun _ _ ⟨hname, hbody⟩ => ⟨hname.symm, hbody.symm⟩) h

theorem Scope.Twin.symm {s s' : Scope} (h : Twin P Q s s') : Twin (flip P) (flip Q) s' s :=
  ⟨h.graph.symm, h.fields.symm, h.definitions.symm⟩

/-- Only a field of the same number is the twin of a field. -/
theorem Node.Twin.of_field {number : Operand} {n : Node} (h : Twin P (.field number) n) :
    ∃ v, number = .lit v ∧ n = .field number := by
  generalize hm : Node.field number = m at h
  have houtline := congrArg Node.outline hm
  cases h with
  | field v =>
    cases hm
    exact ⟨v, rfl, rfl⟩
  | other h => simp [h] at houtline
  | _ => simp at houtline

/-- Comparing twins with twins takes the same form. -/
theorem Predicate.Twin.membership (negated : Bool) {x x' : Term} (hx : Term.Twin P Q x x')
    {ts ts' : List Term} (h : List.Forall₂ (Term.Twin P Q) ts ts') :
    Predicate.Twin P Q (.membership negated x ts) (.membership negated x' ts') := by
  cases h with
  | nil => exact .among negated hx .nil
  | @cons t t' rest rest' hfirst hrest =>
    cases hrest with
    | nil =>
      cases hfirst with
      | same =>
        cases t with
        | null => exact .isNull negated hx
        | _ => exact .compare _ hx (.same _ ‹_›)
      | text h => exact .compare _ hx (.text h)
      | column h => exact .compare _ hx (.column h)
    | cons hsecond hrest =>
      have hall := List.Forall₂.cons hfirst (List.Forall₂.cons hsecond hrest)
      cases hfirst with
      | same => cases t <;> exact .among negated hx hall
      | text _ | column _ => exact .among negated hx hall

/-! ### Lookups in twins -/

namespace Graph.Twin

variable {g g' : Graph} (h : Graph.Twin P g g')

include h

theorem part? {x : Operand} {p : Part} (hp : g.part? x = some p) :
    ∃ p', g'.part? x = some p' ∧ Part.Twin P p p' := by
  cases x with
  | lit v => cases hp
  | part n =>
    simp only [Graph.part?, get?, ← Array.getElem?_toList] at hp ⊢
    exact exists_getElem?_of_forall₂ h.parts hp

theorem node? {x : Operand} {n : Node} (hn : g.node? x = some n) :
    ∃ n', g'.node? x = some n' ∧ Node.Twin P n n' := by
  unfold Graph.node? at hn
  split at hn
  · next m hm =>
    cases hn
    obtain ⟨p', hp', htwin⟩ := h.part? hm
    cases htwin with
    | @node _ n' hn => exact ⟨n', by simp [Graph.node?, hp'], hn⟩
  · cases hn

theorem elements? {x : Operand} (hcharacters : x.Repeats P) {items : List Operand}
    (hx : g.elements? x = some items) :
    ∃ items', g'.elements? x = some items' ∧ List.Forall₂ (Operand.Twin P) items items' := by
  cases x with
  | lit v =>
    refine ⟨items, by cases v <;> exact hx, List.forall₂_same.2 fun y hy => ?_⟩
    cases v with
    | text t =>
      cases hx
      obtain ⟨c, hc, rfl⟩ := List.mem_map.1 hy
      exact .text (hcharacters t rfl c hc)
    | bytes bs =>
      cases hx
      obtain ⟨b, _, rfl⟩ := List.mem_map.1 hy
      exact .same _ (by simp)
    | _ => cases hx
  | part n =>
    cases hp : g.part? (.part n) with
    | none => simp [Graph.elements?, hp] at hx
    | some p =>
      obtain ⟨p', hp', htwin⟩ := h.part? hp
      simp only [Graph.elements?, hp] at hx
      simp only [Graph.elements?, hp']
      cases htwin with
      | node h => cases hx
      | list h | tuple h | set h | record h | ordered h =>
        cases hx
        exact ⟨_, rfl, h⟩

end Graph.Twin

theorem Fields.Twin.find? {fields fields' : Fields} (h : Fields.Twin Q fields fields')
    (g g' : Graph) {v : Literal} {name : String}
    (hfind : fields.find? g (.lit v) = .ok (some name)) (hne : name ≠ "") :
    ∃ name', fields'.find? g' (.lit v) = .ok (some name') ∧ name' ≠ "" ∧ Q name name' := by
  unfold Fields.Twin at h
  induction h with
  | nil => cases hfind
  | @cons e e' _ _ he _ ih =>
    obtain ⟨key, column⟩ := e
    obtain ⟨key', column'⟩ := e'
    obtain ⟨rfl, hcolumn⟩ := he
    rw [Fields.find?, g.sameKey_lit g'] at hfind
    rw [Fields.find?]
    split at hfind
    · cases hfind
    · next hkey =>
      rw [hkey]
      cases hfind
      cases hcolumn with
      | empty => exact absurd rfl hne
      | named _ hne' hq => exact ⟨_, rfl, hne', hq⟩
    · next hkey =>
      rw [hkey]
      exact ih hfind

theorem Definitions.Twin.find? {t t' : Definitions} (h : Definitions.Twin P t t') {name : String}
    {body : Operand} (hbody : NameTable.find? name t = some body) :
    ∃ body', NameTable.find? name t' = some body' ∧ Operand.Twin P body body' := by
  unfold Definitions.Twin at h
  unfold NameTable.find? at *
  induction h with
  | nil => cases hbody
  | @cons e e' _ _ he _ ih =>
    obtain ⟨key, x⟩ := e
    obtain ⟨key', x'⟩ := e'
    obtain ⟨rfl, hx⟩ := he
    rw [List.lookup_cons] at hbody ⊢
    split at hbody
    · next hkey =>
      cases hbody
      exact ⟨x', by simp [hkey], hx⟩
    · next hkey =>
      obtain ⟨body', hbody', htwin⟩ := ih hbody
      exact ⟨body', by simp [hkey, hbody'], htwin⟩

/-- A literal other than a text is written without quotation marks. -/
theorem Scope.isQuotation_of_literalTerm {s : Scope} {v : Literal} {t : Term}
    (hv : ∀ u, v ≠ .text u) (h : s.literalTerm v = .ok t) : t.lexeme.isQuotation = false := by
  unfold literalTerm at h
  split at h
  · cases h
    rfl
  · cases h
    rename_i b
    cases b <;> rfl
  · exact absurd rfl (hv _)
  any_goals
    obtain ⟨shown, _, rfl⟩ := map_eq_ok_iff.1 h
    rfl
  · cases h

namespace Scope.Twin

variable {s s' : Scope} (h : Scope.Twin P Q s s')

include h

theorem column {v : Literal} {name : String} (hname : s.column (.lit v) = .ok name) :
    ∃ name', s'.column (.lit v) = .ok name' ∧ Q name name' := by
  obtain ⟨hkey, hfind, hne⟩ := column_eq_ok_iff.1 hname
  obtain ⟨name', hfind', hne', hq⟩ := h.fields.find? s.graph s'.graph hfind hne
  exact ⟨name', column_eq_ok_iff.2 ⟨hkey, hfind', hne'⟩, hq⟩

theorem resolve {name body : Operand} (hbody : s.resolve name = .ok body) :
    ∃ body', s'.resolve name = .ok body' ∧ Operand.Twin P body body' := by
  obtain ⟨t, rfl, hfind, hne⟩ := resolve_eq_ok_iff.1 hbody
  obtain ⟨body', hfind', htwin⟩ := h.definitions.find? hfind
  refine ⟨body', resolve_eq_ok_iff.2 ⟨t, rfl, hfind', ?_⟩, htwin⟩
  cases htwin with
  | same => exact hne
  | text _ => simp

theorem term {x x' : Operand} (hx : Operand.Twin P x x') {t : Term} (ht : s.term x = .ok t) :
    ∃ t', s'.term x' = .ok t' ∧ Term.Twin P Q t t' := by
  cases hx with
  | text hp =>
    cases ht
    exact ⟨_, rfl, .text hp⟩
  | same x hx =>
    cases x with
    | lit v => exact ⟨t, ht, .same t (isQuotation_of_literalTerm (fun t h => hx t (h ▸ rfl)) ht)⟩
    | part n =>
      simp only [Scope.term] at ht
      split at ht
      · next number hn =>
        obtain ⟨name, hname, rfl⟩ := map_eq_ok_iff.1 ht
        obtain ⟨n', hn', htwin⟩ := h.graph.node? hn
        obtain ⟨v, rfl, rfl⟩ := htwin.of_field
        obtain ⟨name', hname', hq⟩ := h.column hname
        refine ⟨.column name', ?_, .column hq⟩
        rw [term_of_field hn', hname']
        rfl
      · cases ht

theorem mapM_term {xs xs' : List Operand} (hx : List.Forall₂ (Operand.Twin P) xs xs')
    {ts : List Term} (ht : xs.mapM s.term = .ok ts) :
    ∃ ts', xs'.mapM s'.term = .ok ts' ∧ List.Forall₂ (Term.Twin P Q) ts ts' := by
  induction hx generalizing ts with
  | nil =>
    cases ht
    exact ⟨[], rfl, .nil⟩
  | cons hx _ ih =>
    simp only [List.mapM_cons, bind_eq_ok_iff, pure_eq_ok, Except.ok.injEq] at ht
    obtain ⟨t, ht, ts, hts, rfl⟩ := ht
    obtain ⟨t', ht', htwin⟩ := h.term hx ht
    obtain ⟨ts', hts', htwins⟩ := ih hts
    exact ⟨t' :: ts', by simp [ht', hts'], .cons htwin htwins⟩

theorem membership {x x' values : Operand} (hx : Operand.Twin P x x')
    (hcharacters : values.Repeats P) {negated : Bool} {p : Predicate}
    (hp : s.membership negated x values = .ok p) :
    ∃ p', s'.membership negated x' values = .ok p' ∧ Predicate.Twin P Q p p' := by
  simp only [Scope.membership, bind_eq_ok_iff, pure_eq_ok, Except.ok.injEq] at hp
  obtain ⟨t, ht, items, hitems, ts, hts, rfl⟩ := hp
  have helements : s.graph.elements? values = some items := by
    unfold Dialect.valuesOf at hitems
    split at hitems
    · next heq =>
      cases hitems
      exact heq
    · cases hitems
  obtain ⟨t', ht', htwin⟩ := h.term hx ht
  obtain ⟨items', hitems', htwins⟩ := h.graph.elements? hcharacters helements
  obtain ⟨ts', hts', hterms⟩ := h.mapM_term htwins hts
  refine ⟨.membership negated t' ts', ?_, ?_⟩
  · simp only [Scope.membership, ht', Dialect.valuesOf, hitems', hts', ok_bind, pure_eq_ok]
  · exact .membership negated htwin hterms

theorem shape {x x' : Operand} (hx : Operand.Twin P x x') {shape : Shape}
    (hshape : s.shape x = .ok shape) :
    ∃ shape', s'.shape x' = .ok shape' ∧ Shape.Twin P Q shape shape' := by
  cases hx with
  | text _ => cases hshape
  | same x =>
    unfold Scope.shape at hshape ⊢
    cases hn : s.graph.node? x with
    | none => simp [hn] at hshape
    | some n =>
      obtain ⟨n', hn', htwin⟩ := h.graph.node? hn
      rw [hn] at hshape
      rw [hn']
      cases htwin with
      | join k left right =>
        cases k <;> cases hshape <;> exact ⟨_, rfl, .join _ left right⟩
      | not operand =>
        cases hshape
        exact ⟨_, rfl, .not operand⟩
      | ordering greater left right =>
        cases greater <;>
          simp only [Node.ordering, Bool.false_eq_true, if_false, if_true, bind_eq_ok_iff,
            pure_eq_ok, Except.ok.injEq] at hshape ⊢ <;>
        · obtain ⟨t, ht, u, hu, rfl⟩ := hshape
          obtain ⟨t', ht', htwin⟩ := h.term left ht
          obtain ⟨u', hu', hutwin⟩ := h.term right hu
          exact ⟨_, ⟨t', ht', u', hu', rfl⟩, .atom (.compare _ htwin hutwin)⟩
      | equality negated operand characters =>
        cases negated <;>
          simp only [Node.equality, Bool.false_eq_true, if_false, if_true, bind_eq_ok_iff,
            pure_eq_ok, Except.ok.injEq] at hshape ⊢ <;>
        · obtain ⟨p, hp, rfl⟩ := hshape
          obtain ⟨p', hp', htwin⟩ := h.membership operand characters hp
          exact ⟨_, ⟨p', hp', rfl⟩, .atom htwin⟩
      | nullCheck negated value =>
        cases negated <;>
          simp only [Node.nullCheck, Bool.false_eq_true, if_false, if_true, bind_eq_ok_iff,
            pure_eq_ok, Except.ok.injEq] at hshape ⊢ <;>
        · obtain ⟨t, ht, rfl⟩ := hshape
          obtain ⟨t', ht', htwin⟩ := h.term value ht
          exact ⟨_, ⟨t', ht', rfl⟩, .atom (.isNull _ htwin)⟩
      | field number =>
        simp only [bind_eq_ok_iff, pure_eq_ok, Except.ok.injEq] at hshape ⊢
        obtain ⟨name, hname, rfl⟩ := hshape
        obtain ⟨name', hname', hq⟩ := h.column hname
        exact ⟨_, ⟨name', hname', rfl⟩, .atom (.column hq)⟩
      | reference name =>
        simp only [bind_eq_ok_iff, pure_eq_ok, Except.ok.injEq] at hshape ⊢
        obtain ⟨body, hbody, rfl⟩ := hshape
        obtain ⟨body', hbody', htwin⟩ := h.resolve hbody
        exact ⟨_, ⟨body', hbody', rfl⟩, .follow htwin⟩
      | other hother _ =>
        cases n with
        | custom | select => simp at hshape
        | _ => simp [Node.outline] at hother

/-- Twins stand for twins. -/
theorem stands {x x' : Operand} {f : Formula} (hx : Operand.Twin P x x') (hf : s.Stands x f) :
    ∃ f', s'.Stands x' f' ∧ Formula.Twin P Q f f' := by
  induction hf generalizing x' with
  | atom shape =>
    obtain ⟨shape', hshape', htwin⟩ := h.shape hx shape
    cases htwin with
    | atom hp => exact ⟨_, .atom hshape', .atom hp⟩
  | join shape _ _ ihl ihr =>
    obtain ⟨shape', hshape', htwin⟩ := h.shape hx shape
    cases htwin with
    | join k left right =>
      obtain ⟨f', hf', hftwin⟩ := ihl left
      obtain ⟨g', hg', hgtwin⟩ := ihr right
      exact ⟨_, .join hshape' hf' hg', .join _ hftwin hgtwin⟩
  | not shape _ ih =>
    obtain ⟨shape', hshape', htwin⟩ := h.shape hx shape
    cases htwin with
    | not operand =>
      obtain ⟨f', hf', hftwin⟩ := ih operand
      exact ⟨_, .not hshape' hf', .not hftwin⟩
  | named shape _ ih =>
    obtain ⟨shape', hshape', htwin⟩ := h.shape hx shape
    cases htwin with
    | follow body =>
      obtain ⟨f', hf', hftwin⟩ := ih body
      exact ⟨_, .named hshape' hf', .named hftwin⟩

end Scope.Twin

/-! ### Lexemes of twins -/

theorem Term.Twin.lexeme {t t' : Term} (h : Term.Twin P Q t t') :
    Lexeme.Twin P Q t.lexeme t'.lexeme := by
  cases h with
  | same t h => exact .same _ h
  | text h => exact .text h
  | column h => exact .name h

theorem Lexeme.twin_same {ts : List Lexeme} (h : ∀ t ∈ ts, t.isQuotation = false) :
    List.Forall₂ (Lexeme.Twin P Q) ts ts :=
  List.forall₂_same.2 fun t ht => .same t (h t ht)

theorem Predicate.twin_listed {ts ts' : List Term} (h : List.Forall₂ (Term.Twin P Q) ts ts') :
    List.Forall₂ (Lexeme.Twin P Q) (listed ts) (listed ts') := by
  cases h with
  | nil => exact .nil
  | cons hfirst hrest =>
    refine .cons hfirst.lexeme ?_
    induction hrest with
    | nil => exact .nil
    | cons hx _ ih => exact .cons (.same _ rfl) (.cons hx.lexeme ih)

theorem Predicate.Twin.lexemes {p p' : Predicate} (h : Predicate.Twin P Q p p') :
    List.Forall₂ (Lexeme.Twin P Q) p.lexemes p'.lexemes := by
  cases h with
  | compare sign left right =>
    exact .cons left.lexeme (.cons (.same _ rfl) (.cons right.lexeme .nil))
  | among negated operand compared =>
    exact .cons operand.lexeme (List.rel_append (List.rel_append
      (Lexeme.twin_same (by cases negated <;> decide)) (Predicate.twin_listed compared))
      (Lexeme.twin_same (by decide)))
  | isNull negated operand =>
    exact .cons operand.lexeme (Lexeme.twin_same (by cases negated <;> decide))
  | column h => exact .cons (.name h) .nil

namespace Formula.Twin

variable {f f' : Formula} (h : Formula.Twin P Q f f')

include h

theorem isJunction : f.isJunction = f'.isJunction := by
  cases h <;> rfl

theorem depth : f.depth = f'.depth := by
  induction h with
  | atom h => rfl
  | join k _ _ ihf ihg => rw [Formula.depth, Formula.depth, ihf, ihg]
  | not _ ih | named _ ih => rw [Formula.depth, Formula.depth, ih]

theorem lexemes : List.Forall₂ (Lexeme.Twin P Q) f.lexemes f'.lexemes := by
  have parenthesized (needed : Bool) {ts ts' : List Lexeme}
      (h : List.Forall₂ (Lexeme.Twin P Q) ts ts') :
      List.Forall₂ (Lexeme.Twin P Q) (Formula.parenthesized needed ts)
        (Formula.parenthesized needed ts') := by
    cases needed with
    | false => exact h
    | true => exact List.rel_append (.cons (.same _ rfl) h) (Lexeme.twin_same (by decide))
  induction h with
  | atom h => exact h.lexemes
  | join k left right ihf ihg =>
    rw [Formula.lexemes, Formula.lexemes, left.isJunction, right.isJunction]
    exact List.rel_append (List.rel_append (parenthesized _ ihf)
      (Lexeme.twin_same (by simp [Lexeme.isQuotation]))) (parenthesized _ ihg)
  | not _ ih =>
    exact List.rel_append (List.rel_append (Lexeme.twin_same (by decide)) ih)
      (Lexeme.twin_same (by decide))
  | named _ ih => exact ih

end Formula.Twin

end FilterCompiler
