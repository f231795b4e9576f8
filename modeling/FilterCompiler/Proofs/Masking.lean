import FilterCompiler.Proofs.Filling
import FilterCompiler.Proofs.FreshFields

/-! Masks. Behind the parts of a graph stands a copy of each with a fresh field in place of a
custom node and of every value that an override writes in its own way. Proved here: what an
override writes has such a copy, whatever is added behind it, so that the built-in dialect compiles
the copy of whatever the override compiles. -/

namespace FilterCompiler

namespace Graph

/-- The operands that the parts of a graph are made of. -/
def operands (g : Graph) : List Operand := g.parts.toList.flatMap Part.operands

theorem mem_operands {g : Graph} {x y : Operand} {p : Part} (hp : g.part? x = some p)
    (hy : y ∈ p.operands) : y ∈ g.operands := by
  cases x with
  | lit v => cases hp
  | part n =>
    have hpart : p ∈ g.parts.toList := List.mem_iff_getElem?.2 ⟨n, by simpa [part?, get?] using hp⟩
    exact List.mem_flatMap.2 ⟨p, hpart, hy⟩

end Graph

/-- An override and a scope, with a number and a length from which on numbers and columns are
fresh. -/
structure Mask where
  override : Override
  scope : Scope
  number : Nat
  length : Nat

namespace Mask

variable (m : Mask)

/-- How many parts there are. -/
def size : Nat := m.scope.graph.parts.size

/-- What the fresh fields stand for: the nodes in order, and then the values. -/
def holeList : List Hole :=
  (List.range m.size).map (fun n => .node (.part n)) ++ m.scope.graph.operands.map .value

/-- The columns of the fresh fields are told apart by their lengths. -/
def column (n : Nat) : String := String.ofList (List.replicate (m.length + 1 + (n - m.number)) 'x')

/-- What the column of a fresh field stands for. -/
def holes (name : String) : Option Hole :=
  if m.length < name.length then m.holeList[name.length - (m.length + 1)]? else none

/-- A fresh field. -/
def freshField (k : Nat) : Part := .node (.field (.lit (.integer (m.number + k : Nat))))

/-- A condition as it is in the copy. -/
def condition : Operand → Operand
  | .part n => .part (m.size + n)
  | x => x

/-- A value as it is in the copy. -/
def value (x : Operand) : Operand :=
  if (m.override.value m.scope x).isSome then
    .part (3 * m.size + m.scope.graph.operands.idxOf x)
  else x

/-- A node in the copy, whose compared values stand in a tuple of their own. -/
def node (n : Nat) : Node → Node
  | .and l r => .and (m.condition l) (m.condition r)
  | .or l r => .or (m.condition l) (m.condition r)
  | .not y => .not (m.condition y)
  | .lessThan l r => .lessThan (m.value l) (m.value r)
  | .greaterThan l r => .greaterThan (m.value l) (m.value r)
  | .equal y _ => .equal (m.value y) (.part (2 * m.size + n))
  | .notEqual y _ => .notEqual (m.value y) (.part (2 * m.size + n))
  | .isEmpty y => .isEmpty (m.value y)
  | .notEmpty y => .notEmpty (m.value y)
  | other => other

section

variable {n : Nat} {l r y values : Operand}

theorem node_join {k : Connective} :
    m.node n (k.node l r) = k.node (m.condition l) (m.condition r) := by cases k <;> rfl

theorem node_ordering {greater : Bool} :
    m.node n (.ordering greater l r) = .ordering greater (m.value l) (m.value r) := by
  cases greater <;> rfl

theorem node_equality {negated : Bool} : m.node n (.equality negated y values) =
    .equality negated (m.value y) (.part (2 * m.size + n)) := by
  cases negated <;> rfl

theorem node_nullCheck {negated : Bool} :
    m.node n (.nullCheck negated y) = .nullCheck negated (m.value y) := by
  cases negated <;> rfl

end

/-- The copy of a part. -/
def part (n : Nat) : Part :=
  if (m.override.operator m.scope (.part n)).isSome then m.freshField n
  else
    match m.scope.graph.node? (.part n) with
    | some other => .node (m.node n other)
    | none => .tuple []

/-- The compared values at a node as they are in the copy. -/
def tuple (n : Nat) : Part :=
  match m.scope.graph.node? (.part n) with
  | some (.equal _ values) | some (.notEqual _ values) =>
    .tuple (((m.scope.graph.elements? values).getD []).map m.value)
  | _ => .tuple []

/-- The parts of the copy: those of nodes, of tuples and of values. -/
def copies : List Part :=
  (List.range m.size).map m.part ++ (List.range m.size).map m.tuple ++
    (List.range m.scope.graph.operands.length).map fun n => m.freshField (m.size + n)

def graph : Graph := ⟨(m.scope.graph.parts.toList ++ m.copies).toArray⟩

def fields : Fields :=
  m.scope.fields ++ (List.range' m.number m.holeList.length).map fun (n : Nat) =>
    (.lit (.integer n), some (m.column n))

def definitions : Definitions := m.scope.definitions.map fun e => (e.1, m.condition e.2)

/-- What is looked up in a graph that the copy is in. -/
def on (G : Graph) : Scope := ⟨G, m.fields, m.definitions, m.scope.room⟩

/-- The fresh numbers and columns are none of the scope. -/
structure IsFresh : Prop where
  numbers : ∀ n, m.number ≤ n → m.scope.fields.Lacks n
  columns : ∀ e ∈ m.scope.fields, ∀ name ∈ e.2, name.length ≤ m.length

variable {m} {G : Graph} {x y : Operand} {n : Nat}

/-! ### The parts of the copy -/

theorem get?_copies (k : Nat) : m.graph.get? (m.size + k) = m.copies[k]? := by
  have hplace : m.scope.graph.parts.toList.length ≤ m.size + k := by simp [size]
  simp only [graph, Graph.get?, List.getElem?_toArray, List.getElem?_append_right hplace]
  simp [size]

theorem extends_graph : m.scope.graph.Extends m.graph := by
  intro n p hp
  have hn : n < m.scope.graph.parts.toList.length := by
    by_contra hn
    have hnone : m.scope.graph.parts[n]? = none := Array.getElem?_eq_none (by simpa using hn)
    rw [Graph.get?, hnone] at hp
    cases hp
  simp only [graph, Graph.get?, List.getElem?_toArray, List.getElem?_append_left hn]
  simpa [Graph.get?] using hp

theorem get?_part (hn : n < m.size) : m.graph.get? (m.size + n) = some (m.part n) := by
  rw [get?_copies]
  simp [copies, hn, List.getElem?_append]

theorem get?_tuple (hn : n < m.size) : m.graph.get? (2 * m.size + n) = some (m.tuple n) := by
  have hplace : 2 * m.size + n = m.size + (m.size + n) := by omega
  rw [hplace, get?_copies]
  simp [copies, hn, List.getElem?_append]

theorem get?_field (hn : n < m.scope.graph.operands.length) :
    m.graph.get? (3 * m.size + n) = some (m.freshField (m.size + n)) := by
  have hplace : 3 * m.size + n = m.size + (m.size + (m.size + n)) := by omega
  rw [hplace, get?_copies]
  simp [copies, hn]

/-! ### Fresh fields -/

theorem length_column (k : Nat) : (m.column (m.number + k)).length = m.length + 1 + k := by
  simp [column]

theorem holes_column (k : Nat) : m.holes (m.column (m.number + k)) = m.holeList[k]? := by
  rw [holes, length_column, if_pos (by omega)]
  congr 1
  omega

/-- A fresh field has its own column. -/
theorem column_on (h : m.IsFresh) {k : Nat} (hk : k < m.holeList.length) :
    (m.on G).column (.lit (.integer (m.number + k : Nat))) = .ok (m.column (m.number + k)) := by
  have hfind : (m.on G).fields.find? G (.lit (.integer (m.number + k : Nat))) =
      .ok (some (m.column (m.number + k))) := by
    change m.fields.find? G _ = _
    rw [fields, Fields.find?_append_of_lacks (h.numbers _ (by omega))]
    exact Fields.find?_numbered m.column (List.mem_range'_1.2 ⟨by omega, by omega⟩)
  refine Scope.column_eq_ok_iff.2 ⟨rfl, hfind, fun hempty => ?_⟩
  have hlength := m.length_column k
  rw [hempty, String.length_empty] at hlength
  omega

theorem isHole (h : m.IsFresh) (hG : m.graph.Extends G) {place k : Nat} {hole : Hole}
    (hpart : m.graph.get? place = some (m.freshField k)) (hhole : m.holeList[k]? = some hole) :
    Override.IsHole (m.on G) m.holes (.part place) hole := by
  have hnode : m.graph.node? (.part place) =
      some (.field (.lit (.integer (m.number + k : Nat)))) := by
    simp only [Graph.node?, Graph.part?, hpart, freshField]
  have hk : k < m.holeList.length := (List.getElem?_eq_some_iff.1 hhole).1
  exact ⟨_, _, hG.node? hnode, column_on h hk, by rw [holes_column, hhole]⟩

/-- The fields of the scope are what they were. -/
theorem isKept (h : m.IsFresh) (hs : m.scope.IsClosed) (hG : m.graph.Extends G)
    {number : Operand} (hx : m.scope.graph.node? x = some (.field number))
    (hy : G.node? y = some (.field number)) : Override.IsKept m.scope (m.on G) m.holes x y := by
  have hG' := extends_graph.trans hG
  refine ⟨number, hx, hy, fun name hname => ?_⟩
  have hnumber : m.scope.graph.Has number :=
    hs.graph.node (Graph.has_of_node? hx) hx number (by simp [Node.arguments])
  obtain ⟨hkey, hfind, hne⟩ := Scope.column_eq_ok_iff.1 hname
  constructor
  · refine Scope.column_eq_ok_iff.2 ⟨?_, ?_, hne⟩
    · have hcheck := hs.checkKey_eq hG' hnumber
      exact hcheck.trans hkey
    · have hfind' := hs.find?_eq hG' hnumber
      exact Fields.find?_append (hfind'.trans hfind) _
  · obtain ⟨e, he, hcolumn⟩ := Fields.mem_of_find? hfind
    rw [holes, if_neg (by have := h.columns e he name hcolumn; omega)]

/-! ### The copy of a condition -/

theorem holeList_node (hn : n < m.size) : m.holeList[n]? = some (.node (.part n)) := by
  simp [holeList, hn, List.getElem?_append]

theorem holeList_value (hx : x ∈ m.scope.graph.operands) :
    m.holeList[m.size + m.scope.graph.operands.idxOf x]? = some (.value x) := by
  have hidx := List.idxOf_lt_length_of_mem hx
  simp [holeList, hidx]

/-- A value that is written has its copy, if it is an operand of a part or written in the common
way. -/
theorem replacesValue (h : m.IsFresh) (hs : m.scope.IsClosed) (hG : m.graph.Extends G)
    (hx : x ∈ m.scope.graph.operands ∨ m.override.value m.scope x = none) {text : String}
    (hwritten : m.override.dialect.formatValue m.scope x = .ok text) :
    m.override.ReplacesValue m.scope (m.on G) m.holes x (m.value x) := by
  cases hown : m.override.value m.scope x with
  | some written =>
    have hmem : x ∈ m.scope.graph.operands :=
      hx.resolve_right fun hnone => by rw [hown] at hnone; cases hnone
    have hsome : (m.override.value m.scope x).isSome = true := by rw [hown]; rfl
    rw [value, if_pos hsome]
    exact .hole hsome (isHole h hG (get?_field (List.idxOf_lt_length_of_mem hmem))
      (holeList_value hmem))
  | none =>
    rw [value, hown, if_neg (by simp)]
    rw [Override.formatValue_of_none hown, BuiltIn.formatValue_eq] at hwritten
    obtain ⟨t, ht, _⟩ := map_eq_ok_iff.1 hwritten
    cases x with
    | lit v =>
      refine .literal ?_
      cases v with
      | bytes _ | day _ | moment _ => cases ht
      | _ => trivial
    | part n =>
      simp only [Scope.term] at ht
      split at ht
      · next number hnode =>
        exact .field (isKept h hs hG hnode ((extends_graph.trans hG).node? hnode))
      · cases ht

/-- What a comparison goes through are operands of a part, or written in the common way. -/
theorem mem_operands_or_none {values : Operand} {items : List Operand}
    (hitems : m.scope.graph.elements? values = some items) :
    ∀ y ∈ items, y ∈ m.scope.graph.operands ∨ m.override.value m.scope y = none := by
  intro y hy
  cases values with
  | lit v =>
    refine .inr (m.override.value_eq_none ?_)
    cases v with
    | text t | bytes bs =>
      obtain rfl := Option.some.inj hitems
      obtain ⟨_, _, rfl⟩ := List.mem_map.1 hy
      trivial
    | _ => cases hitems
  | part n =>
    left
    cases hp : m.scope.graph.part? (.part n) with
    | none => simp [Graph.elements?, hp] at hitems
    | some p =>
      simp only [Graph.elements?, hp] at hitems
      refine Graph.mem_operands hp ?_
      cases p with
      | node n => cases hitems
      | list items | tuple items | set items =>
        cases hitems
        exact hy
      | record entries | ordered entries =>
        cases hitems
        exact List.mem_append_left _ hy

theorem mem_operands_of_node {other : Node} (hx : m.scope.graph.node? x = some other)
    (hy : y ∈ other.arguments) : y ∈ m.scope.graph.operands := by
  unfold Graph.node? at hx
  split at hx
  · next hp =>
    cases hx
    exact Graph.mem_operands hp hy
  · cases hx

theorem node?_part {other : Node} (hn : n < m.size)
    (hown : m.override.operator m.scope (.part n) = none)
    (hx : m.scope.graph.node? (.part n) = some other) :
    m.graph.node? (m.condition (.part n)) = some (m.node n other) := by
  have hpart : m.part n = .node (m.node n other) := by
    rw [part, hown, if_neg (by simp), hx]
  simp only [condition, Graph.node?, Graph.part?, get?_part hn, hpart]

/-- The compared values at a node have their copies in a tuple. -/
theorem elements?_tuple {negated : Bool} {values : Operand} {items : List Operand}
    (hn : n < m.size) (hG : m.graph.Extends G)
    (hx : m.scope.graph.node? (.part n) = some (.equality negated y values))
    (hitems : m.scope.graph.elements? values = some items) :
    G.elements? (.part (2 * m.size + n)) = some (items.map m.value) := by
  have htuple : m.tuple n = .tuple (items.map m.value) := by
    rw [tuple, hx]
    cases negated <;> simp [Node.equality, hitems]
  refine hG.elements? ?_
  simp only [Graph.elements?, Graph.part?, get?_tuple hn, htuple]

/-- A name stands for the copy of what it stood for. -/
theorem resolve_on {name body : Operand} (h : m.scope.resolve name = .ok body) :
    (m.on G).resolve name = .ok (m.condition body) := by
  obtain ⟨t, rfl, hfound, hne⟩ := Scope.resolve_eq_ok_iff.1 h
  have hfind : m.definitions.find? t = some (m.condition body) := by
    rw [definitions, NameTable.find?_map, hfound]
    rfl
  refine Scope.resolve_eq_ok_iff.2 ⟨t, rfl, hfind, fun hnull => hne ?_⟩
  cases body with
  | lit v => exact hnull
  | part n => cases hnull

section

variable (h : m.IsFresh) (hs : m.scope.IsClosed) (hG : m.graph.Extends G)
  {express : Operand → Rendered} {text : String}
  (hexpress : ∀ y text, express y = .ok text →
    m.override.Replaces m.scope (m.on G) m.holes y (m.condition y))

include hexpress in
theorem replaces_join {k : Connective} {l r : Operand}
    (hx : m.scope.graph.node? x = some (k.node l r))
    (hx₀ : G.node? (m.condition x) = some (k.node (m.condition l) (m.condition r)))
    (hrun : Dialect.junction m.scope express k.write l r = .ok text) :
    m.override.Replaces m.scope (m.on G) m.holes x (m.condition x) := by
  simp only [Dialect.junction, Dialect.side_eq, bind_eq_ok_iff, map_eq_ok_iff] at hrun
  obtain ⟨_, ⟨a, ha, _⟩, _, ⟨b, hb, _⟩, _⟩ := hrun
  exact .join hx hx₀ (hexpress l a ha) (hexpress r b hb)

include h hs hG in
theorem replaces_ordering {greater : Bool} {sign : String} {l r : Operand}
    (hx : m.scope.graph.node? x = some (.ordering greater l r))
    (hx₀ : G.node? (m.condition x) = some (.ordering greater (m.value l) (m.value r)))
    (hrun : Dialect.comparison (m.override.dialect.formatValue m.scope) sign l r = .ok text) :
    m.override.Replaces m.scope (m.on G) m.holes x (m.condition x) := by
  obtain ⟨a, ha, hrun⟩ := bind_eq_ok_iff.1 hrun
  obtain ⟨b, hb, _⟩ := bind_eq_ok_iff.1 hrun
  have hmem : l ∈ m.scope.graph.operands ∧ r ∈ m.scope.graph.operands := by
    cases greater <;> exact ⟨mem_operands_of_node hx (by simp [Node.ordering, Node.arguments]),
      mem_operands_of_node hx (by simp [Node.ordering, Node.arguments])⟩
  exact .ordering hx hx₀ (replacesValue h hs hG (.inl hmem.1) ha)
    (replacesValue h hs hG (.inl hmem.2) hb)

include h hs hG in
theorem replaces_equality {negated : Bool} {values : Operand} (hn : n < m.size)
    (hx : m.scope.graph.node? (.part n) = some (.equality negated y values))
    (hx₀ : G.node? (m.condition (.part n)) =
      some (.equality negated (m.value y) (.part (2 * m.size + n))))
    (hrun : Dialect.membership m.scope (m.override.dialect.formatValue m.scope) negated y values =
      .ok text) :
    m.override.Replaces m.scope (m.on G) m.holes (.part n) (m.condition (.part n)) := by
  obtain ⟨left, items, hleft, hitems, hall⟩ := Dialect.exists_of_membership_eq_ok hrun
  have hy : y ∈ m.scope.graph.operands :=
    mem_operands_of_node hx (by cases negated <;> simp [Node.equality, Node.arguments])
  refine .equality hx hx₀ (replacesValue h hs hG (.inl hy) hleft) hitems
    (elements?_tuple hn hG hx hitems) ?_
  refine List.forall₂_map_right_iff.2 (List.forall₂_same.2 fun z hz => ?_)
  have hz' := mem_operands_or_none hitems z hz
  rcases hall z hz with rfl | ⟨shown, hshown⟩
  · exact replacesValue h hs hG hz' (Override.formatValue_null _ _)
  · exact replacesValue h hs hG hz' hshown

include h hs hG in
theorem replaces_nullCheck {negated : Bool}
    (hx : m.scope.graph.node? x = some (.nullCheck negated y))
    (hx₀ : G.node? (m.condition x) = some (.nullCheck negated (m.value y)))
    (hy : m.override.dialect.formatValue m.scope y = .ok text) :
    m.override.Replaces m.scope (m.on G) m.holes x (m.condition x) := by
  have hmem : y ∈ m.scope.graph.operands :=
    mem_operands_of_node hx (by cases negated <;> simp [Node.nullCheck, Node.arguments])
  exact .nullCheck hx hx₀ (replacesValue h hs hG (.inl hmem) hy)

include h hs hG hexpress in
/-- A node that is written in the common way has its copy if what is right below it has. -/
theorem replaces_of_commonOperator (hown : m.override.operator m.scope (.part n) = none)
    (hrun : Dialect.commonOperator m.scope (m.override.dialect.formatValue m.scope) express
      (.part n) = .ok text) :
    m.override.Replaces m.scope (m.on G) m.holes (.part n) (m.condition (.part n)) := by
  cases hx : m.scope.graph.node? (.part n) with
  | none =>
    unfold Dialect.commonOperator at hrun
    rw [hx] at hrun
    cases hrun
  | some other =>
    have hn : n < m.size := Graph.has_of_node? hx
    have hx₀ := hG.node? (node?_part hn hown hx)
    cases other using Node.casesOutline with
    | join k l r =>
      rw [Dialect.commonOperator_join hx] at hrun
      exact replaces_join hexpress hx (hx₀.trans (congrArg some m.node_join)) hrun
    | not z =>
      rw [Dialect.commonOperator_not hx] at hrun
      obtain ⟨a, ha, _⟩ := bind_eq_ok_iff.1 hrun
      exact .not hx hx₀ (hexpress z a ha)
    | ordering greater l r =>
      rw [Dialect.commonOperator_ordering hx] at hrun
      exact replaces_ordering h hs hG hx (hx₀.trans (congrArg some m.node_ordering)) hrun
    | equality negated z values =>
      rw [Dialect.commonOperator_equality hx] at hrun
      exact replaces_equality h hs hG hn hx (hx₀.trans (congrArg some m.node_equality)) hrun
    | nullCheck negated z =>
      rw [Dialect.commonOperator_nullCheck hx] at hrun
      obtain ⟨a, ha, _⟩ := bind_eq_ok_iff.1 hrun
      exact replaces_nullCheck h hs hG hx (hx₀.trans (congrArg some m.node_nullCheck)) ha
    | field number => exact .field (isKept h hs hG hx hx₀)
    | reference name =>
      rw [Dialect.commonOperator_reference hx] at hrun
      obtain ⟨body, hbody, hrun⟩ := bind_eq_ok_iff.1 hrun
      exact .reference hx hx₀ hbody (resolve_on hbody) (hexpress body text hrun)
    | custom kind tag arguments =>
      unfold Dialect.commonOperator at hrun
      rw [hx] at hrun
      cases hrun
    | select q =>
      unfold Dialect.commonOperator at hrun
      rw [hx] at hrun
      cases hrun

end

/-- What an override writes has its copy. -/
theorem replaces (h : m.IsFresh) (hs : m.scope.IsClosed) (hG : m.graph.Extends G) {room : Nat}
    {path : List Operand} {text : String}
    (hx : m.override.dialect.express m.scope room path x = .ok text) :
    m.override.Replaces m.scope (m.on G) m.holes x (m.condition x) := by
  induction room generalizing path x text with
  | zero => cases hx
  | succ room ih =>
    obtain ⟨_, hroom, hrun⟩ := Override.exists_operator_of_express hx
    obtain rfl := Nat.succ.inj hroom
    cases hown : m.override.operator m.scope x with
    | some template =>
      have hsome : (m.override.operator m.scope x).isSome = true := by rw [hown]; rfl
      obtain ⟨_, _, _, hnode⟩ := Override.isCustom_of_isSome hsome
      have hhas := Graph.has_of_node? hnode
      cases x with
      | lit v => cases hnode
      | part n =>
        have hpart : m.part n = m.freshField n := by rw [part, if_pos hsome]
        exact .hole hsome (isHole h hG (hpart ▸ get?_part hhas) (holeList_node hhas))
    | none =>
      rw [Override.operator_of_none _ _ hown] at hrun
      cases x with
      | lit v => cases hrun
      | part n => exact replaces_of_commonOperator h hs hG (fun _ _ hy => ih hy) hown hrun

/-- From some number and some length on, numbers and columns are fresh. -/
theorem exists_isFresh (o : Override) {s : Scope} (hfields : s.fields.IsHashed) :
    ∃ number length, (Mask.mk o s number length).IsFresh := by
  obtain ⟨number, hnumber⟩ := Fields.exists_lacks hfields
  obtain ⟨length, hlength⟩ := s.fields.exists_longer
  exact ⟨number, length, hnumber, hlength⟩

end Mask

end FilterCompiler
