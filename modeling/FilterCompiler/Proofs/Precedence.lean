import FilterCompiler.Proofs.Framing
import FilterCompiler.Proofs.Truth

/-! Conditions that spill. What a reference stands for is written without parentheses, so under a
connective its own connectives stand in one row with the one above it, and a reader groups them by
precedence alone. Proved here: unless a reference right below an AND leads to an OR, what is read
has the value of the condition, whatever values its predicates have. -/

namespace FilterCompiler

/-! ### Rows -/

/-- Lexemes that are read as one side of a connective, and what they are read as. -/
structure Piece where
  lexemes : List Lexeme
  formula : Formula

/-- Pieces as they stand in a text, with a connective in front of each but the first. -/
structure Row where
  first : Piece
  rest : List (Connective × Piece)

namespace Row

def restLexemes (rest : List (Connective × Piece)) : List Lexeme :=
  rest.flatMap fun e => .word e.1.word :: e.2.lexemes

def lexemes (r : Row) : List Lexeme := r.first.lexemes ++ restLexemes r.rest

def pieces (r : Row) : List Piece := r.first :: r.rest.map Prod.snd

def single (p : Piece) : Row := ⟨p, []⟩

/-- Two rows with a connective between them. -/
def join (k : Connective) (r r' : Row) : Row := ⟨r.first, r.rest ++ (k, r'.first) :: r'.rest⟩

/-- A product added to the sum of those before it. -/
def close : Option Formula → Formula → Formula
  | none, product => product
  | some sum, product => .join .or sum product

/-- What is read from the rest of a row, behind a sum of products and a product that may go on. -/
def fold (sum : Option Formula) (product : Formula) : List (Connective × Piece) → Formula
  | [] => close sum product
  | (.and, p) :: rest => fold sum (.join .and product p.formula) rest
  | (.or, p) :: rest => fold (some (close sum product)) p.formula rest

/-- What a row is read as: AND binds before OR, both to the left. -/
def read (r : Row) : Formula := fold none r.first.formula r.rest

/-- A formula as a side of a connective: one piece if it stands in parentheses, else its row. -/
def side (f : Formula) (row : Row) : Row :=
  if f.isJunction then single ⟨Formula.parenthesized true f.lexemes, row.read⟩ else row

end Row

/-- The row that the text of a formula is. -/
def Formula.row : Formula → Row
  | atom p => .single ⟨p.lexemes, .atom p⟩
  | join k f g => (Row.side f f.row).join k (Row.side g g.row)
  | not f => .single ⟨.word "NOT" :: parenthesized true f.lexemes, .not f.row.read⟩
  | named f => f.row

theorem Row.lexemes_join (k : Connective) (r r' : Row) :
    (r.join k r').lexemes = r.lexemes ++ .word k.word :: r'.lexemes := by
  simp [lexemes, join, restLexemes]

theorem Row.lexemes_side {f : Formula} {row : Row} (h : row.lexemes = f.lexemes) :
    (side f row).lexemes = Formula.parenthesized f.isJunction f.lexemes := by
  unfold side
  cases f.isJunction with
  | false => exact h
  | true => simp [lexemes, single, restLexemes]

theorem Formula.lexemes_row (f : Formula) : f.row.lexemes = f.lexemes := by
  induction f with
  | atom p => simp [row, Row.single, Row.lexemes, Row.restLexemes, lexemes]
  | join k f g ihf ihg =>
    rw [row, Row.lexemes_join, Row.lexemes_side ihf, Row.lexemes_side ihg, lexemes]
    simp
  | not f => simp [row, Row.single, Row.lexemes, Row.restLexemes, lexemes, parenthesized]
  | named f ih => exact ih

/-! ### Reading rows -/

namespace Reader

open Row (close fold restLexemes)

theorem stops_restLexemes {after : List Lexeme} (h : Stops after)
    (rest : List (Connective × Piece)) : Stops (restLexemes rest ++ after) := by
  cases rest with
  | nil => exact h
  | cons e rest => exact .connective e.1 _

/-- The rest of a row is read behind a product: first the product goes on, then the sum. -/
theorem more?_restLexemes {need : Nat} {after : List Lexeme} (hstops : Stops after)
    (hafter : ∀ k : Connective, after.head? ≠ some (.word k.word))
    {rest : List (Connective × Piece)}
    (hrest : ∀ e ∈ rest, ∀ room us, need ≤ room → Stops us →
      unary? room (e.2.lexemes ++ us) = some (e.2.formula, us))
    (sum : Option Formula) (product : Formula) {n m : Nat} (hn : need + 3 * rest.length + 1 ≤ n)
    (hm : need + 3 * rest.length + 3 ≤ m) :
    (more? n .and product (restLexemes rest ++ after)).bind
        (fun p => more? m .or (close sum p.1) p.2) = some (fold sum product rest, after) := by
  induction rest generalizing sum product n m with
  | nil =>
    obtain ⟨n, rfl⟩ : ∃ n', n = n' + 1 := ⟨n - 1, by omega⟩
    obtain ⟨m, rfl⟩ : ∃ m', m = m' + 1 := ⟨m - 1, by omega⟩
    have hempty : restLexemes [] ++ after = after := rfl
    rw [hempty, more?_stop (hafter .and), Option.bind_some, more?_stop (hafter .or)]
    rfl
  | cons e rest ih =>
    obtain ⟨k, p⟩ := e
    have hp := hrest (k, p) (by simp)
    have ih := @ih fun e he => hrest e (by simp [he])
    have hnext := stops_restLexemes hstops rest
    rw [List.length_cons] at hn hm
    have hlexemes : restLexemes ((k, p) :: rest) ++ after =
        .word k.word :: (p.lexemes ++ (restLexemes rest ++ after)) := by
      simp [restLexemes]
    rw [hlexemes]
    cases k with
    | and =>
      obtain ⟨n, rfl⟩ : ∃ n', n = n' + 2 := ⟨n - 2, by omega⟩
      rw [more?, if_pos rfl, operand?, hp n _ (by omega) hnext]
      exact ih sum (.join .and product p.formula) (by omega) (by omega)
    | or =>
      obtain ⟨n, rfl⟩ : ∃ n', n = n' + 1 := ⟨n - 1, by omega⟩
      obtain ⟨m, rfl⟩ : ∃ m', m = m' + 4 := ⟨m - 4, by omega⟩
      have hne : ¬ Connective.or.word = Connective.and.word := by decide
      have hchain : operand? (m + 3) .or (p.lexemes ++ (restLexemes rest ++ after)) =
          more? (m + 1) .and p.formula (restLexemes rest ++ after) := by
        rw [operand?, chain?, operand?, hp m _ (by omega) hnext]
        rfl
      rw [more?, if_neg hne, Option.bind_some, more?, if_pos rfl, hchain]
      exact ih (some (close sum product)) p.formula (by omega) (by omega)

/-- A row is read by precedence. -/
theorem chain?_row (need : Nat) {room : Nat} {after : List Lexeme} (hstops : Stops after)
    (hafter : ∀ k : Connective, after.head? ≠ some (.word k.word)) {r : Row}
    (hpieces : ∀ p ∈ r.pieces, ∀ room us, need ≤ room → Stops us →
      unary? room (p.lexemes ++ us) = some (p.formula, us))
    (hroom : need + 3 * r.rest.length + 4 ≤ room) :
    chain? room .or (r.lexemes ++ after) = some (r.read, after) := by
  obtain ⟨room, rfl⟩ : ∃ n, room = n + 4 := ⟨room - 4, by omega⟩
  have hfirst := hpieces r.first (by simp [Row.pieces]) room _ (by omega)
    (stops_restLexemes hstops r.rest)
  have hrest : ∀ e ∈ r.rest, ∀ room us, need ≤ room → Stops us →
      unary? room (e.2.lexemes ++ us) = some (e.2.formula, us) :=
    fun e he => hpieces e.2 (List.mem_cons_of_mem _ (List.mem_map_of_mem he))
  rw [Row.lexemes, List.append_assoc, chain?, operand?, chain?, operand?, hfirst]
  exact more?_restLexemes hstops hafter hrest none r.first.formula (by omega) (by omega)

end Reader

/-! ### Reading formulas with references -/

/-- A piece is not empty and is read in front of what may stand behind it, with room for six steps
a lexeme. -/
structure Piece.IsRead (p : Piece) : Prop where
  pos : 0 < p.lexemes.length
  unary? : ∀ room rest, 6 * p.lexemes.length ≤ room + 5 → Stops rest →
    Reader.unary? room (p.lexemes ++ rest) = some (p.formula, rest)

namespace Row

theorem length_restLexemes_cons (e : Connective × Piece) (rest : List (Connective × Piece)) :
    (restLexemes (e :: rest)).length = e.2.lexemes.length + 1 + (restLexemes rest).length := by
  rw [restLexemes, List.flatMap_cons, List.length_append, List.length_cons]
  rfl

theorem length_restLexemes {rest : List (Connective × Piece)}
    (h : ∀ e ∈ rest, 0 < e.2.lexemes.length) : 2 * rest.length ≤ (restLexemes rest).length := by
  induction rest with
  | nil => simp
  | cons e rest ih =>
    have he := h e (by simp)
    have := ih fun e he => h e (by simp [he])
    rw [length_restLexemes_cons, List.length_cons]
    omega

theorem length_piece_of_mem {rest : List (Connective × Piece)}
    (h : ∀ e ∈ rest, 0 < e.2.lexemes.length) {e : Connective × Piece} (he : e ∈ rest) :
    e.2.lexemes.length + 2 * rest.length ≤ (restLexemes rest).length + 1 := by
  induction rest with
  | nil => cases he
  | cons e' rest ih =>
    have he' := h e' (by simp)
    have hrest : ∀ e ∈ rest, 0 < e.2.lexemes.length := fun e he => h e (by simp [he])
    rw [length_restLexemes_cons, List.length_cons]
    rcases List.mem_cons.1 he with rfl | he
    · have := length_restLexemes hrest
      omega
    · have := ih hrest he
      omega

/-- Each piece leaves two lexemes for every other one. -/
theorem length_piece {r : Row} (h : ∀ p ∈ r.pieces, p.IsRead) {p : Piece} (hp : p ∈ r.pieces) :
    p.lexemes.length + 2 * r.rest.length ≤ r.lexemes.length := by
  have hrest : ∀ e ∈ r.rest, 0 < e.2.lexemes.length :=
    fun e he => (h e.2 (List.mem_cons_of_mem _ (List.mem_map_of_mem he))).pos
  have hfirst := (h r.first (by simp [pieces])).pos
  rw [lexemes, List.length_append]
  rcases List.mem_cons.1 hp with rfl | hp
  · have := length_restLexemes hrest
    omega
  · obtain ⟨e, he, rfl⟩ := List.mem_map.1 hp
    have := length_piece_of_mem hrest he
    omega

/-- A row whose pieces are read is read, with room for six steps a lexeme. -/
theorem chain?_read {r : Row} (h : ∀ p ∈ r.pieces, p.IsRead) {room : Nat} {after : List Lexeme}
    (hroom : 6 * r.lexemes.length ≤ room) (hstops : Stops after)
    (hafter : ∀ k : Connective, after.head? ≠ some (.word k.word)) :
    Reader.chain? room .or (r.lexemes ++ after) = some (r.read, after) := by
  have hfirst := length_piece h (p := r.first) (by simp [pieces])
  have hpos := (h r.first (by simp [pieces])).pos
  refine Reader.chain?_row (6 * (r.lexemes.length - 2 * r.rest.length) - 5) hstops hafter
    (fun p hp room us hroom hus => (h p hp).unary? room us ?_ hus) (by omega)
  have := length_piece h hp
  omega

theorem pieces_join (k : Connective) (r r' : Row) :
    (r.join k r').pieces = r.pieces ++ r'.pieces := by
  simp [pieces, join]

end Row

namespace Formula

theorem isRead_parenthesized {f : Formula} (h : ∀ p ∈ f.row.pieces, p.IsRead) :
    (Piece.mk (parenthesized true f.lexemes) f.row.read).IsRead where
  pos := by simp [parenthesized]
  unary? room rest hroom _ := by
    have hlength : (parenthesized true f.lexemes).length = f.lexemes.length + 2 := by
      simp [parenthesized]
    rw [hlength] at hroom
    obtain ⟨room, rfl⟩ : ∃ n, room = n + 1 := ⟨room - 1, by omega⟩
    have hchain : Reader.chain? room .or (f.row.lexemes ++ .closing :: rest) =
        some (f.row.read, .closing :: rest) :=
      Row.chain?_read h (by rw [lexemes_row]; omega) (.closing rest) (by simp)
    have hlexemes : parenthesized true f.lexemes ++ rest =
        .opening :: (f.row.lexemes ++ .closing :: rest) := by
      simp [parenthesized, lexemes_row]
    rw [hlexemes, Reader.unary?, hchain]

theorem isRead_not {f : Formula} (h : ∀ p ∈ f.row.pieces, p.IsRead) :
    (Piece.mk (.word "NOT" :: parenthesized true f.lexemes) (.not f.row.read)).IsRead where
  pos := by simp
  unary? room rest hroom hrest := by
    rw [List.length_cons] at hroom
    obtain ⟨room, rfl⟩ : ∃ n, room = n + 1 := ⟨room - 1, by omega⟩
    have hinner := (isRead_parenthesized h).unary? room rest (by dsimp only; omega) hrest
    rw [List.cons_append, Reader.unary?, hinner]
    rfl

/-- The pieces of a formula are read, so long as its numbers have the texts of numbers. -/
theorem isRead_pieces (f : Formula) (h : ∀ t ∈ f.terms, t.WellShown) :
    ∀ p ∈ f.row.pieces, p.IsRead := by
  induction f with
  | atom p =>
    obtain ⟨t, _, ts, hp⟩ := p.exists_head
    have hatom : (Piece.mk p.lexemes (.atom p)).IsRead := by
      refine ⟨by simp [hp], fun room rest hroom hrest => ?_⟩
      have hpos : 0 < p.lexemes.length := by simp [hp]
      obtain ⟨room, rfl⟩ : ∃ n, room = n + 1 := ⟨room - 1, by dsimp only at hroom; omega⟩
      exact Reader.unary?_predicate p h hrest room
    simpa [row, Row.single, Row.pieces] using hatom
  | join k f g ihf ihg =>
    have side {f : Formula} (hf : ∀ p ∈ f.row.pieces, p.IsRead) :
        ∀ p ∈ (Row.side f f.row).pieces, p.IsRead := by
      unfold Row.side
      split
      · simpa [Row.single, Row.pieces] using isRead_parenthesized hf
      · exact hf
    intro p hp
    rw [row, Row.pieces_join, List.mem_append] at hp
    rcases hp with hp | hp
    · exact side (ihf fun t ht => h t (by simp [terms, ht])) p hp
    · exact side (ihg fun t ht => h t (by simp [terms, ht])) p hp
  | not f ih => simpa [row, Row.single, Row.pieces] using isRead_not (ih h)
  | named f ih => exact ih h

end Formula

namespace Reader

/-- Reads the text of a condition, the whole of it. -/
def formula? (mark : Char) (text : String) : Option Formula := do
  let ts ← Lexeme.read? mark text
  match chain? (6 * ts.length) .or ts with
  | some (f, []) => some f
  | _ => none

/-- The text of a formula is read as its row. -/
theorem formula?_write (b : BuiltIn) (f : Formula) (h : ∀ t ∈ f.terms, t.WellShown) :
    formula? b.mark (f.write b.mark) = some f.row.read := by
  have hchain := Row.chain?_read (f.isRead_pieces h) (Nat.le_refl _) .nothing (by simp)
  rw [List.append_nil, f.lexemes_row] at hchain
  rw [formula?, f.read?_write b h]
  simp only [Option.bind_eq_bind, Option.bind_some, hchain]

end Reader

/-! ### The value of what is read -/

namespace Row

variable (mark : Char) (σ : String → Truth)

theorem truth_fold_some (sum product : Formula) (rest : List (Connective × Piece)) :
    (fold (some sum) product rest).truth mark σ =
      (sum.truth mark σ).or ((fold none product rest).truth mark σ) := by
  induction rest generalizing sum product with
  | nil => rfl
  | cons e rest ih =>
    obtain ⟨k, p⟩ := e
    cases k with
    | and => exact ih sum (.join .and product p.formula)
    | or =>
      rw [fold, fold, ih, ih (close none product), ← Truth.or_assoc]
      rfl

theorem truth_fold_or (sum : Option Formula) (product : Formula)
    (rest rest' : List (Connective × Piece)) (p : Piece) :
    (fold sum product (rest ++ (.or, p) :: rest')).truth mark σ =
      ((fold sum product rest).truth mark σ).or ((fold none p.formula rest').truth mark σ) := by
  induction rest generalizing sum product with
  | nil => exact truth_fold_some mark σ _ _ _
  | cons e rest ih =>
    obtain ⟨k, q⟩ := e
    cases k with
    | and => exact ih sum (.join .and product q.formula)
    | or => exact ih (some (close sum product)) q.formula

/-- A row without OR. -/
def IsProduct (rest : List (Connective × Piece)) : Prop := ∀ e ∈ rest, e.1 = .and

theorem truth_fold_of_isProduct (product : Formula) {rest : List (Connective × Piece)}
    (h : IsProduct rest) :
    (fold none product rest).truth mark σ =
      (rest.map fun e => e.2.formula.truth mark σ).foldl Truth.and (product.truth mark σ) := by
  induction rest generalizing product with
  | nil => rfl
  | cons e rest ih =>
    obtain ⟨k, p⟩ := e
    obtain rfl : k = .and := h (k, p) (by simp)
    exact ih (.join .and product p.formula) fun e he => h e (by simp [he])

variable {mark σ}

/-- Rows joined by OR come to the OR of their values, whatever they are. -/
theorem truth_join_or (r r' : Row) :
    (r.join .or r').read.truth mark σ = (r.read.truth mark σ).or (r'.read.truth mark σ) :=
  truth_fold_or mark σ none r.first.formula r.rest r'.rest r'.first

/-- Rows joined by AND come to the AND of their values if neither has an OR. -/
theorem truth_join_and {r r' : Row} (h : IsProduct r.rest) (h' : IsProduct r'.rest) :
    (r.join .and r').read.truth mark σ = (r.read.truth mark σ).and (r'.read.truth mark σ) := by
  have hjoin : IsProduct (r.join .and r').rest := by
    intro e he
    rcases List.mem_append.1 he with he | he
    · exact h e he
    · rcases List.mem_cons.1 he with rfl | he
      · rfl
      · exact h' e he
  rw [read, read, read, truth_fold_of_isProduct mark σ _ hjoin, truth_fold_of_isProduct mark σ _ h,
    truth_fold_of_isProduct mark σ _ h']
  simp only [join, List.map_append, List.map_cons, List.foldl_append, List.foldl_cons,
    List.foldl_assoc]

end Row

namespace Formula

/-- The connective that a formula or what it refers to is built with. -/
def top? : Formula → Option Connective
  | join k _ _ => some k
  | named f => f.top?
  | _ => none

/-- The connective that a reference leads to. -/
def hidden? : Formula → Option Connective
  | named f => f.top?
  | _ => none

/-- No reference right below an AND leads to an OR. -/
def IsGuarded : Formula → Prop
  | atom _ => True
  | join k f g => f.IsGuarded ∧ g.IsGuarded ∧
      (k = .and → f.hidden? ≠ some .or ∧ g.hidden? ≠ some .or)
  | not f | named f => f.IsGuarded

theorem hidden?_eq_top? {f : Formula} (h : f.isJunction = false) : f.hidden? = f.top? := by
  cases f with
  | join => cases h
  | _ => rfl

/-- A side that hides no OR has a row without OR if what is no OR has one. -/
theorem isProduct_side {f : Formula} (hhidden : f.hidden? ≠ some .or)
    (h : f.top? ≠ some .or → Row.IsProduct f.row.rest) : Row.IsProduct (Row.side f f.row).rest := by
  unfold Row.side
  split
  · simp [Row.single, Row.IsProduct]
  · next hjunction => exact h (hidden?_eq_top? (by simpa using hjunction) ▸ hhidden)

/-- What is no OR has a row without OR. -/
theorem isProduct_row {f : Formula} (h : f.IsGuarded) (htop : f.top? ≠ some .or) :
    Row.IsProduct f.row.rest := by
  induction f with
  | atom p => simp [row, Row.single, Row.IsProduct]
  | join k f g ihf ihg =>
    obtain ⟨hf, hg, hhidden⟩ := h
    obtain rfl : k = .and := by
      cases k with
      | and => rfl
      | or => exact absurd rfl htop
    intro e he
    rcases List.mem_append.1 he with he | he
    · exact isProduct_side (hhidden rfl).1 (ihf hf) e he
    · rcases List.mem_cons.1 he with rfl | he
      · rfl
      · exact isProduct_side (hhidden rfl).2 (ihg hg) e he
  | not f => simp [row, Row.single, Row.IsProduct]
  | named f ih => exact ih h htop

theorem truth_side {mark : Char} {σ : String → Truth} {f : Formula}
    (h : f.row.read.truth mark σ = f.truth mark σ) :
    (Row.side f f.row).read.truth mark σ = f.truth mark σ := by
  unfold Row.side
  split
  · exact h
  · exact h

/-- A guarded formula is read with its value. -/
theorem truth_row (mark : Char) (σ : String → Truth) {f : Formula} (h : f.IsGuarded) :
    f.row.read.truth mark σ = f.truth mark σ := by
  induction f with
  | atom p => rfl
  | join k f g ihf ihg =>
    obtain ⟨hf, hg, hhidden⟩ := h
    have hleft := truth_side (ihf hf)
    have hright := truth_side (ihg hg)
    cases k with
    | and =>
      have hproduct {f : Formula} (hf : f.IsGuarded) (hhidden : f.hidden? ≠ some .or) :
          Row.IsProduct (Row.side f f.row).rest := isProduct_side hhidden (isProduct_row hf)
      rw [row, Row.truth_join_and (hproduct hf (hhidden rfl).1) (hproduct hg (hhidden rfl).2),
        hleft, hright]
      rfl
    | or =>
      rw [row, Row.truth_join_or, hleft, hright]
      rfl
  | not f ih => exact congrArg Truth.not (ih h)
  | named f ih => exact ih h

end Formula

/-! ### Conditions that guard their references -/

namespace Scope

/-- One step from a reference to what its name stands for. -/
def Follows (s : Scope) (x y : Operand) : Prop :=
  ∃ name, s.graph.node? x = some (.reference name) ∧ s.resolve name = .ok y

/-- No reference right below an AND leads to an OR, through however many references. -/
def IsGuarded (s : Scope) (x : Operand) : Prop :=
  ∀ y l r z w u v, s.Reaches x y → s.graph.node? y = some (.and l r) → z = l ∨ z = r →
    Relation.TransGen s.Follows z w → s.graph.node? w ≠ some (.or u v)

variable {s : Scope} {x y : Operand} {f : Formula}

theorem IsGuarded.edge (h : s.IsGuarded x) (hxy : s.Edge x y) : s.IsGuarded y :=
  fun y' l r z w u v hy => h y' l r z w u v (.head hxy hy)

theorem Follows.of_shape (h : s.shape x = .ok (.follow y)) : s.Follows x y := by
  obtain ⟨n, hn, name, rfl, hname⟩ := exists_node_of_shape h
  exact ⟨name, hn, hname⟩

/-- The connective of a formula is found behind the references. -/
theorem Stands.exists_top (h : s.Stands x f) {k : Connective} (hk : f.top? = some k) :
    ∃ w u v, Relation.ReflTransGen s.Follows x w ∧ s.graph.node? w = some (k.node u v) := by
  induction h with
  | atom | not => cases hk
  | @join x l r k' f g shape left right =>
    obtain rfl : k' = k := Option.some.inj hk
    obtain ⟨n, hn, rfl⟩ := exists_node_of_shape shape
    exact ⟨x, l, r, .refl, hn⟩
  | named shape _ ih =>
    obtain ⟨w, u, v, hw, hnode⟩ := ih hk
    exact ⟨w, u, v, .head (.of_shape shape) hw, hnode⟩

/-- What a side of a connective hides is found behind at least one reference. -/
theorem Stands.exists_hidden (h : s.Stands x f) {k : Connective} (hk : f.hidden? = some k) :
    ∃ w u v, Relation.TransGen s.Follows x w ∧ s.graph.node? w = some (k.node u v) := by
  cases h with
  | atom | not | join => cases hk
  | named shape body =>
    obtain ⟨w, u, v, hw, hnode⟩ := body.exists_top hk
    exact ⟨w, u, v, .head' (.of_shape shape) hw, hnode⟩

theorem Stands.isGuarded (h : s.Stands x f) (hguarded : s.IsGuarded x) : f.IsGuarded := by
  induction h with
  | atom => trivial
  | @join x l r k f g shape left right ihl ihr =>
    have hedge {y : Operand} (hy : y ∈ [l, r]) : s.Edge x y := .of_shape shape hy
    refine ⟨ihl (hguarded.edge (hedge (by simp))), ihr (hguarded.edge (hedge (by simp))), ?_⟩
    rintro rfl
    obtain ⟨n, hn, rfl⟩ := exists_node_of_shape shape
    have hshown {z : Operand} {f : Formula} (hz : z = l ∨ z = r) (hf : s.Stands z f) :
        f.hidden? ≠ some .or := by
      intro hhidden
      obtain ⟨w, u, v, hw, hnode⟩ := hf.exists_hidden hhidden
      exact hguarded x l r z w u v .refl hn hz hw hnode
    exact ⟨hshown (.inl rfl) left, hshown (.inr rfl) right⟩
  | not shape _ ih => exact ih (hguarded.edge (.of_shape shape (List.mem_singleton_self _)))
  | named shape _ ih => exact ih (hguarded.edge (.of_shape shape (List.mem_singleton_self _)))

end Scope

/-! ### Compiled conditions -/

namespace Compiler

variable {c : Compiler} {g : Graph} {fields : Fields} {q : Query} {table : Option String}
  {limit : Option Nat}

/-- What follows WHERE is read, by precedence alone, as a formula that has the value of the
condition whatever values its predicates have, if no reference right below an AND leads to an
OR. -/
theorem compile_keeps_value (b : BuiltIn) (hregistry : c.registry = .builtin)
    (htable : c.table = tableOperand table) (hlimit : q.limit = limitOperand limit)
    (hcondition : q.condition ≠ .lit .null)
    (hguarded : (c.scope g fields q).IsGuarded q.condition) {sql : String}
    (h : c.compile g b.name fields q = .ok sql) :
    ∃ text read,
      sql = b.frame (namedTable table) (limit.map fun n => Integer.text n) (some text) ++ ";" ∧
      Reader.formula? b.mark text = some read ∧
      ∀ σ v, (c.scope g fields q).Evaluates b.dialect σ q.condition v ↔
        read.truth b.mark σ = v := by
  obtain ⟨shown, condition, hshown, hexpress, rfl⟩ :=
    exists_frame_of_compile hregistry htable hlimit h
  rw [conditionText, if_neg hcondition, map_eq_ok_iff] at hexpress
  obtain ⟨text, hexpress, rfl⟩ := hexpress
  obtain ⟨f, hf, _, rfl⟩ := Scope.express_eq_ok_iff.1 hexpress
  refine ⟨_, f.row.read, by rw [eq_of_limitText hshown], Reader.formula?_write b f hf.wellShown,
    fun σ v => ?_⟩
  rw [hf.evaluates_iff, Formula.truth_row b.mark σ (hf.isGuarded hguarded)]

/-- A null check and, below the same AND, a reference to an AND: what is written without
parentheses associates the other way. -/
def spilledAnd : Graph :=
  ⟨#[.node (.isEmpty (.lit .null)), .node (.notEmpty (.lit .null)),
    .node (.and (.part 0) (.part 1)), .node (.reference (.lit (.text "both"))),
    .node (.and (.part 0) (.part 3))]⟩

def spilledCompiler : Compiler := { definitions := [("both", .part 2)] }

/-- What a query for it is rendered in. -/
def spilledScope : Scope := spilledCompiler.scope spilledAnd [] ⟨.part 4, .lit .null⟩

theorem isGuarded_spilledScope : spilledScope.IsGuarded (.part 4) := by
  have hfollows {x y : Operand} (h : spilledScope.Follows x y) : y = .part 2 := by
    obtain ⟨name, hname, hy⟩ := h
    cases x with
    | lit v => cases hname
    | part n =>
      match n with
      | 0 | 1 | 2 | 4 | 5 | n + 6 => cases hname
      | 3 =>
        cases hname
        cases hy
        rfl
  intro y l r z w u v _ _ _ hw hor
  obtain ⟨w', _, hlast⟩ := Relation.TransGen.tail'_iff.1 hw
  rw [hfollows hlast] at hor
  cases hor

/-- What it stands for. -/
def spilledFormula : Formula :=
  .join .and (.atom (.isNull false .null))
    (.named (.join .and (.atom (.isNull false .null)) (.atom (.isNull true .null))))

theorem compile_spilledAnd :
    spilledCompiler.compile spilledAnd "postgres" [] ⟨.part 4, .lit .null⟩ =
      .ok (Statement.write .postgres ⟨none, some spilledFormula, none⟩ ++ ";") := by
  have hmeans : spilledScope.Means (.part 4) (some spilledFormula) :=
    .formula (.join rfl (.atom rfl) (.named rfl (.join rfl (.atom rfl) (.atom rfl))))
  have htable : spilledCompiler.table = tableOperand none := rfl
  have hlimit : Operand.lit .null = limitOperand none := rfl
  have hcompile := compile_of_means (c := spilledCompiler) (b := .postgres)
    (q := ⟨.part 4, .lit .null⟩) rfl htable hlimit (by simp) hmeans
  rw [if_pos (by decide)] at hcompile
  exact hcompile

theorem spilledAnd_keeps_value :
    ∃ sql text read,
      spilledCompiler.compile spilledAnd "postgres" [] ⟨.part 4, .lit .null⟩ = .ok sql ∧
      sql = BuiltIn.postgres.frame none none (some text) ++ ";" ∧
      Reader.formula? '"' text = some read ∧
      ∀ σ v, spilledScope.Evaluates Dialect.postgres σ (.part 4) v ↔ read.truth '"' σ = v := by
  have htable : spilledCompiler.table = tableOperand none := rfl
  have hlimit : Operand.lit .null = limitOperand none := rfl
  obtain ⟨text, read, hsql, hread, hvalue⟩ := compile_keeps_value .postgres rfl htable hlimit
    (by simp) isGuarded_spilledScope compile_spilledAnd
  exact ⟨_, text, read, compile_spilledAnd, hsql, hread, hvalue⟩

end Compiler

end FilterCompiler
