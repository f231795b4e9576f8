import FilterCompiler.Proofs.Spelling

/-! A reader of conditions. It knows lexemes and the precedence of connectives, NOT before AND
and AND before OR, both of these to the left, and that parentheses group; of how conditions are
written it knows nothing. Proved here: what is read from the lexemes of a formula without
references is that formula again, with the same nesting. Parentheses around the two sides of a
connective, and there only where another connective stands, are enough. -/

namespace FilterCompiler

/-! ### Reading values and predicates -/

/-- Words and signs with a meaning of their own, which are neither numbers nor names. -/
def reserved : List String :=
  ["SELECT", "TOP", "*", "FROM", "WHERE", "LIMIT", "AND", "OR", "NOT", "IN", "IS", "NULL", "TRUE",
   "FALSE", "<", ">", "=", "<>"]

/-- The value that a lexeme is. -/
def Lexeme.term? : Lexeme → Option Term
  | .word w =>
    if w = "NULL" then some .null
    else if w = "TRUE" then some (.truth true)
    else if w = "FALSE" then some (.truth false)
    else if w ∈ reserved then none
    else some (.number w)
  | .text t => some (.text t)
  | .name n => some (.column n)
  | _ => none

/-- The sign that a word is. -/
def Sign.ofWord? (w : String) : Option Sign :=
  if w = "<" then some .less
  else if w = ">" then some .greater
  else if w = "=" then some .equal
  else if w = "<>" then some .unequal
  else none

namespace Reader

/-- Values up to a closing parenthesis, at least one, and what follows it. -/
def moreValues? : List Lexeme → Option (List Term × List Lexeme)
  | x :: .comma :: rest => do
    let t ← x.term?
    let (ts, rest) ← moreValues? rest
    return (t :: ts, rest)
  | x :: .closing :: rest => x.term?.map fun t => ([t], rest)
  | _ => none

/-- Values behind an opening parenthesis, none or more. -/
def values? : List Lexeme → Option (List Term × List Lexeme)
  | .closing :: rest => some ([], rest)
  | ts => moreValues? ts

/-- What is said of a value by the lexemes behind it. Nothing need be said of a column. -/
def said? (t : Term) : List Lexeme → Option (Predicate × List Lexeme)
  | .word "IS" :: .word "NULL" :: rest => some (.isNull false t, rest)
  | .word "IS" :: .word "NOT" :: .word "NULL" :: rest => some (.isNull true t, rest)
  | .word "IN" :: .opening :: rest => (values? rest).map fun (ts, rest) => (.among false t ts, rest)
  | .word "NOT" :: .word "IN" :: .opening :: rest =>
    (values? rest).map fun (ts, rest) => (.among true t ts, rest)
  | ts =>
    match comparison? ts, t with
    | some found, _ => some found
    | none, .column name => some (.column name, ts)
    | none, _ => none
where
  comparison? : List Lexeme → Option (Predicate × List Lexeme)
    | .word w :: y :: rest => do
      let sign ← Sign.ofWord? w
      let u ← y.term?
      return (.compare sign t u, rest)
    | _ => none

/-- A condition that holds no other one. -/
def predicate? : List Lexeme → Option (Predicate × List Lexeme)
  | x :: ts => x.term?.bind fun t => said? t ts
  | [] => none

/-! ### Reading formulas -/

mutual

/-- A predicate, a negation or a condition in parentheses. -/
def unary? : Nat → List Lexeme → Option (Formula × List Lexeme)
  | 0, _ => none
  | room + 1, .word "NOT" :: ts => do
    let (f, rest) ← unary? room ts
    return (.not f, rest)
  | room + 1, .opening :: ts =>
    match chain? room .or ts with
    | some (f, .closing :: rest) => some (f, rest)
    | _ => none
  | _ + 1, ts => (predicate? ts).map fun (p, rest) => (.atom p, rest)

/-- What a connective joins: chains of the one that binds more tightly. -/
def operand? : Nat → Connective → List Lexeme → Option (Formula × List Lexeme)
  | 0, _, _ => none
  | room + 1, .and, ts => unary? room ts
  | room + 1, .or, ts => chain? room .and ts

/-- One or more conditions with the same connective between them. -/
def chain? : Nat → Connective → List Lexeme → Option (Formula × List Lexeme)
  | 0, _, _ => none
  | room + 1, k, ts => do
    let (f, rest) ← operand? room k ts
    more? room k f rest

/-- What a chain goes on with behind the condition read so far. -/
def more? : Nat → Connective → Formula → List Lexeme → Option (Formula × List Lexeme)
  | 0, _, _, _ => none
  | room + 1, k, f, .word w :: ts =>
    if w = k.word then do
      let (g, rest) ← operand? room k ts
      more? room k (.join k f g) rest
    else some (f, .word w :: ts)
  | _ + 1, _, f, ts => some (f, ts)

end

end Reader

/-! ### Reading back values and predicates -/

theorem IsNumeral.not_mem_reserved {shown : String} (h : IsNumeral shown.toList) :
    shown ∉ reserved := by
  -- a reserved word is all capitals, and a sign has a character that no number has
  have hall : (reserved.all fun w => w.toList.all Char.isUpper || w.toList.any fun c =>
      !(c.isAlphanum || c == '.' || c == '+' || c == '-')) = true := by
    decide
  intro hmem
  have hw := List.all_eq_true.1 hall shown hmem
  rw [Bool.or_eq_true, List.all_eq_true, List.any_eq_true] at hw
  rcases hw with hupper | ⟨c, hc, hclass⟩
  · obtain ⟨c, hc, hn⟩ := h.exists_not_upper
    simp [hupper c hc] at hn
  · rcases h.mem hc with hc | rfl | rfl | rfl <;> simp_all

theorem Term.term?_lexeme (t : Term) (h : t.WellShown) : t.lexeme.term? = some t := by
  cases t with
  | number shown =>
    have hw := IsNumeral.not_mem_reserved h
    have hne {w : String} (hmem : w ∈ reserved) : shown ≠ w := fun heq => hw (heq ▸ hmem)
    rw [lexeme, Lexeme.term?, if_neg (hne (by decide)), if_neg (hne (by decide)),
      if_neg (hne (by decide)), if_neg hw]
  | truth b => cases b <;> rfl
  | _ => rfl

/-- What may stand behind a condition: nothing, a connective, a closing parenthesis, or the rest
of the statement. -/
inductive Stops : List Lexeme → Prop where
  | nothing : Stops []
  | closing (rest : List Lexeme) : Stops (.closing :: rest)
  | semicolon (rest : List Lexeme) : Stops (.semicolon :: rest)
  | limit (rest : List Lexeme) : Stops (.word "LIMIT" :: rest)
  | connective (k : Connective) (rest : List Lexeme) : Stops (.word k.word :: rest)

namespace Reader

theorem moreValues?_listed (x : Term) (xs : List Term) (rest : List Lexeme)
    (h : ∀ t ∈ x :: xs, t.WellShown) :
    moreValues? (Predicate.listed (x :: xs) ++ .closing :: rest) = some (x :: xs, rest) := by
  induction xs generalizing x with
  | nil => simp [Predicate.listed, moreValues?, x.term?_lexeme (h x (by simp))]
  | cons y ys ih =>
    have hlisted : Predicate.listed (x :: y :: ys) =
        x.lexeme :: .comma :: Predicate.listed (y :: ys) := rfl
    rw [hlisted, List.cons_append, List.cons_append, moreValues?,
      ih y fun t ht => h t (List.mem_cons_of_mem x ht), x.term?_lexeme (h x (by simp))]
    rfl

theorem values?_listed (xs : List Term) (rest : List Lexeme) (h : ∀ t ∈ xs, t.WellShown) :
    values? (Predicate.listed xs ++ .closing :: rest) = some (xs, rest) := by
  cases xs with
  | nil => rfl
  | cons x xs =>
    have hmore := moreValues?_listed x xs rest h
    rw [values?.eq_2]
    · exact hmore
    · intro rest' heq
      have : x.lexeme = .closing := (List.cons.inj heq).1
      cases x <;> cases this

theorem said?_column {name : String} {rest : List Lexeme} (h : Stops rest) :
    said? (.column name) rest = some (.column name, rest) := by
  cases h with
  | nothing | closing rest | semicolon rest => rfl
  | limit rest => cases rest <;> rfl
  | connective k rest => cases k <;> cases rest <;> rfl

theorem predicate?_lexemes (p : Predicate) (h : ∀ t ∈ p.terms, t.WellShown) {rest : List Lexeme}
    (hrest : Stops rest) : predicate? (p.lexemes ++ rest) = some (p, rest) := by
  cases p with
  | compare sign l r =>
    have hl := l.term?_lexeme (h l (by simp [Predicate.terms]))
    have hr := r.term?_lexeme (h r (by simp [Predicate.terms]))
    rw [Predicate.lexemes, List.cons_append, predicate?, hl, Option.bind_some]
    cases sign <;> simp [said?, said?.comparison?, Sign.word, Sign.ofWord?, hr]
  | among negated x values =>
    have hx := x.term?_lexeme (h x (by simp [Predicate.terms]))
    have hvalues := values?_listed values rest fun t ht => h t (by simp [Predicate.terms, ht])
    rw [Predicate.lexemes, List.cons_append, predicate?, hx, Option.bind_some]
    cases negated <;> simp [said?, hvalues]
  | isNull negated x =>
    have hx := x.term?_lexeme (h x (by simp [Predicate.terms]))
    rw [Predicate.lexemes, List.cons_append, predicate?, hx, Option.bind_some]
    cases negated <;> simp [said?]
  | column name => exact said?_column hrest

end Reader

theorem Predicate.exists_head (p : Predicate) :
    ∃ t ∈ p.terms, ∃ ts, p.lexemes = t.lexeme :: ts := by
  cases p with
  | compare sign l r => exact ⟨l, by simp [terms], _, rfl⟩
  | among negated x values => exact ⟨x, by simp [terms], _, rfl⟩
  | isNull negated x => exact ⟨x, by simp [terms], _, rfl⟩
  | column name => exact ⟨.column name, by simp [terms], [], rfl⟩

namespace Reader

theorem unary?_predicate (p : Predicate) (h : ∀ t ∈ p.terms, t.WellShown) {rest : List Lexeme}
    (hrest : Stops rest) (room : Nat) :
    unary? (room + 1) (p.lexemes ++ rest) = some (.atom p, rest) := by
  obtain ⟨t, ht, ts, hp⟩ := p.exists_head
  have hterm := t.term?_lexeme (h t ht)
  rw [unary?.eq_4, predicate?_lexemes p h hrest]
  · rfl
  -- no value is written as the word NOT or as a parenthesis
  · intro us heq
    rw [hp, List.cons_append] at heq
    rw [(List.cons.inj heq).1] at hterm
    cases hterm
  · intro us heq
    rw [hp, List.cons_append] at heq
    rw [(List.cons.inj heq).1] at hterm
    cases hterm

/-! ### Reading back chains -/

variable {room : Nat} {k : Connective} {f g : Formula} {ts us rest : List Lexeme}

theorem more?_stop (h : rest.head? ≠ some (.word k.word)) :
    more? (room + 1) k f rest = some (f, rest) := by
  cases rest with
  | nil => rfl
  | cons t rest =>
    cases t with
    | word w =>
      have hw : w ≠ k.word := fun hw => h (by rw [hw]; rfl)
      rw [more?, if_neg hw]
    | _ => rfl

/-- A chain of one condition. -/
theorem chain?_single (hf : operand? (room + 1) k ts = some (f, rest))
    (h : rest.head? ≠ some (.word k.word)) : chain? (room + 2) k ts = some (f, rest) := by
  rw [chain?, hf]
  exact more?_stop h

/-- A chain of two conditions. -/
theorem chain?_pair (hf : operand? (room + 2) k ts = some (f, .word k.word :: us))
    (hg : operand? (room + 1) k us = some (g, rest)) (h : rest.head? ≠ some (.word k.word)) :
    chain? (room + 3) k ts = some (.join k f g, rest) := by
  rw [chain?, hf]
  change more? (room + 2) k f (.word k.word :: us) = _
  rw [more?, if_pos rfl, hg]
  exact more?_stop h

/-- One side of a connective, as it is written, is read as such from some room on. -/
def ReadsSide (f : Formula) (need : Nat) : Prop :=
  ∀ room rest, need ≤ room → Stops rest →
    unary? room (Formula.parenthesized f.isJunction f.lexemes ++ rest) = some (f, rest)

/-- A formula is read in front of what is not a connective, from some room on. -/
def ReadsChain (f : Formula) (need : Nat) : Prop :=
  ∀ room rest, need ≤ room → Stops rest → (∀ k : Connective, rest.head? ≠ some (.word k.word)) →
    chain? room .or (f.lexemes ++ rest) = some (f, rest)

theorem ReadsSide.mono {need need' : Nat} (h : ReadsSide f need) (hle : need ≤ need') :
    ReadsSide f need' := fun room rest hroom => h room rest (hle.trans hroom)

theorem ReadsChain.mono {need need' : Nat} (h : ReadsChain f need) (hle : need ≤ need') :
    ReadsChain f need' := fun room rest hroom => h room rest (hle.trans hroom)

/-- A side by itself is a chain of AND, unless that goes on behind it. -/
theorem ReadsSide.single {need : Nat} (h : ReadsSide f need) (hroom : need + 3 ≤ room)
    (hstops : Stops rest) (hrest : rest.head? ≠ some (.word Connective.and.word)) :
    operand? room .or (Formula.parenthesized f.isJunction f.lexemes ++ rest) = some (f, rest) := by
  obtain ⟨room, rfl⟩ : ∃ n, room = n + 3 := ⟨room - 3, by omega⟩
  exact chain?_single (h room rest (by omega) hstops) hrest

theorem ReadsSide.chain {need : Nat} (h : ReadsSide f need) (hf : f.isJunction = false) :
    ReadsChain f (need + 4) := by
  intro room rest hroom hstops hrest
  obtain ⟨room, rfl⟩ : ∃ n, room = n + 2 := ⟨room - 2, by omega⟩
  have hside : operand? (room + 1) .or
      (Formula.parenthesized f.isJunction f.lexemes ++ rest) = some (f, rest) :=
    h.single (by omega) hstops (hrest .and)
  rw [hf] at hside
  exact chain?_single hside (hrest .or)

theorem ReadsSide.join {need : Nat} (hf : ReadsSide f need) (hg : ReadsSide g need)
    (k : Connective) : ReadsChain (.join k f g) (need + 5) := by
  intro room rest hroom hstops hrest
  have hlexemes : (Formula.join k f g).lexemes ++ rest =
      Formula.parenthesized f.isJunction f.lexemes ++ (.word k.word ::
        (Formula.parenthesized g.isJunction g.lexemes ++ rest)) := by
    simp [Formula.lexemes]
  rw [hlexemes]
  cases k with
  | or =>
    obtain ⟨room, rfl⟩ : ∃ n, room = n + 3 := ⟨room - 3, by omega⟩
    have hor : Connective.or.word ≠ Connective.and.word := by decide
    exact chain?_pair (hf.single (by omega) (.connective .or _) (by simpa using hor))
      (hg.single (by omega) hstops (hrest .and)) (hrest .or)
  | and =>
    obtain ⟨room, rfl⟩ : ∃ n, room = n + 5 := ⟨room - 5, by omega⟩
    have hpair := chain?_pair (k := .and) (hf (room + 1) _ (by omega) (.connective .and _))
      (hg room rest (by omega) hstops) (hrest .and)
    exact chain?_single hpair (hrest .or)

/-- A connective as a side stands in parentheses. -/
theorem ReadsChain.side {need : Nat} (h : ReadsChain f need) (hf : f.isJunction = true) :
    ReadsSide f (need + 1) := by
  intro room rest hroom _
  obtain ⟨room, rfl⟩ : ∃ n, room = n + 1 := ⟨room - 1, by omega⟩
  have := h room (.closing :: rest) (by omega) (.closing rest) (by simp)
  have hlexemes : Formula.parenthesized true f.lexemes ++ rest =
      .opening :: (f.lexemes ++ .closing :: rest) := by
    simp [Formula.parenthesized]
  rw [hf, hlexemes, unary?, this]

theorem ReadsChain.not {need : Nat} (h : ReadsChain f need) : ReadsSide (.not f) (need + 2) := by
  intro room rest hroom _
  obtain ⟨room, rfl⟩ : ∃ n, room = n + 2 := ⟨room - 2, by omega⟩
  have := h room (.closing :: rest) (by omega) (.closing rest) (by simp)
  have hlexemes : Formula.parenthesized (Formula.not f).isJunction (Formula.not f).lexemes ++ rest =
      .word "NOT" :: .opening :: (f.lexemes ++ .closing :: rest) := by
    simp [Formula.isJunction, Formula.parenthesized, Formula.lexemes]
  rw [hlexemes, unary?, unary?, this]
  rfl

end Reader

/-- Whether a formula holds no reference. -/
def Formula.isUnnamed : Formula → Bool
  | atom _ => true
  | join _ l r => l.isUnnamed && r.isUnnamed
  | not f => f.isUnnamed
  | named _ => false

namespace Reader

/-- A formula is read back as a side and as a whole, with room for six steps a level. -/
theorem reads (f : Formula) (hf : f.isUnnamed = true) (h : ∀ t ∈ f.terms, t.WellShown) :
    ReadsSide f (6 * f.depth + 1) ∧ ReadsChain f (6 * f.depth) := by
  induction f with
  | atom p =>
    have hside : ReadsSide (.atom p) 1 := by
      intro room rest hroom hstops
      obtain ⟨room, rfl⟩ : ∃ n, room = n + 1 := ⟨room - 1, by omega⟩
      exact unary?_predicate p h hstops room
    exact ⟨hside.mono (by omega), (hside.chain rfl).mono (by simp [Formula.depth])⟩
  | join k l r ihl ihr =>
    rw [Formula.isUnnamed, Bool.and_eq_true] at hf
    have hl := (ihl hf.1 fun t ht => h t (by simp [Formula.terms, ht])).1
    have hr := (ihr hf.2 fun t ht => h t (by simp [Formula.terms, ht])).1
    have hneed : ReadsChain (.join k l r) (6 * (Formula.join k l r).depth) := by
      have hl' : ReadsSide l (6 * max l.depth r.depth + 1) := hl.mono (by omega)
      have hr' : ReadsSide r (6 * max l.depth r.depth + 1) := hr.mono (by omega)
      exact (hl'.join hr' k).mono (by simp only [Formula.depth]; omega)
    exact ⟨hneed.side rfl, hneed⟩
  | not f ih =>
    have hside := (ih hf h).2.not
    refine ⟨hside.mono ?_, (hside.chain rfl).mono ?_⟩ <;> simp only [Formula.depth] <;> omega
  | named f => cases hf

end Reader

end FilterCompiler
