import FilterCompiler.Graph.Entries
import FilterCompiler.Markup.Node

/-! The data of a document: its nodes as parts of a graph, shared as the nodes are. The
collections are filled level by level, so nesting costs no depth; only what stands in a key is
filled at once. A record has no key twice, unless one of them comes from a mapping that is
merged into it; merged entries stand first, and the record's own replace them. -/

namespace FilterCompiler.Markup

/-- How far building has come: the operands of the nodes already met, those of the nodes that are
being met, the collections that wait to be filled, the latest first, each a node and the number
of its part, and whether collections are filled at once. -/
structure Progress where
  known : Std.HashMap Nat Operand := {}
  underway : List (Nat × Operand) := []
  waiting : List (Nat × Nat) := []
  eager : Bool := false
deriving Inhabited

structure Building extends Progress where
  graph : Graph
  nodes : Nodes
  version : Version

/-- A step of building. A refusal leaves what was built so far. -/
abbrev Build := ExceptT Refusal (StateM Building)

/-- How the operand of a node is come by; the flag asks for one that is filled at once. -/
abbrev Construction := Bool → Nat → Build Operand

namespace Build

def malformed {α : Type} : Build α := throw .malformed

def result {α : Type} : Reads α → Build α
  | .ok x => return x
  | .error r => throw r

def nodeOf (number : Nat) : Build Node := do
  match (← get).nodes[number]? with
  | some n => return n
  | none => malformed

def entriesOf (number : Nat) : Build (Array (Nat × Nat)) := do
  match (← nodeOf number).content with
  | .mapping entries _ => return entries
  | _ => malformed

def itemsOf (number : Nat) : Build (Array Nat) := do
  match (← nodeOf number).content with
  | .sequence items => return items
  | _ => malformed

/-! ### Merging -/

def setEntries (number : Nat) (entries : Array (Nat × Nat)) (merged : Bool) : Build Unit :=
  modify fun b => { b with nodes := b.nodes.modify number fun n =>
    match n.content with
    | .mapping _ before => { n with content := .mapping entries (before || merged) }
    | _ => n }

def kindOf (number : Nat) : Build Kind := return (← nodeOf number).kind

mutual

/-- Merges into a mapping what its merging keys bring in. Their entries come first, and the
merging keys are gone. -/
def flatten : Nat → Nat → Build Unit
  | 0, _ => malformed
  | fuel + 1, number => flattenFrom fuel number 0 #[]

/-- Goes through the entries of a mapping from an index on; `found` was brought in. A second
merging key is refused, unless the first brought nothing in. A key that stands for a value is
just a text. -/
def flattenFrom : Nat → Nat → Nat → Array (Nat × Nat) → Build Unit
  | 0, _, _, _ => malformed
  | fuel + 1, number, index, found => do
    let entries ← entriesOf number
    match entries[index]? with
    | none => if !found.isEmpty then setEntries number (found ++ entries) true
    | some (k, v) =>
      match ← kindOf k with
      | .merge =>
        if !found.isEmpty then malformed
        setEntries number (entries.eraseIdxIfInBounds index) false
        flattenFrom fuel number index (found ++ (← broughtIn fuel v))
      | .value =>
        modify fun b => { b with nodes := b.nodes.modify k fun n => { n with kind := .text } }
        flattenFrom fuel number (index + 1) found
      | _ => flattenFrom fuel number (index + 1) found

/-- The entries that the value of a merging key brings in: a mapping its own, several mappings
theirs, of which the first count most and so come last. -/
def broughtIn : Nat → Nat → Build (Array (Nat × Nat))
  | 0, _ => malformed
  | fuel + 1, number => do
    match (← nodeOf number).content with
    | .mapping .. =>
      flatten fuel number
      entriesOf number
    | .sequence items =>
      let rows ← items.mapM fun x => do
        let _ ← entriesOf x
        flatten fuel x
        entriesOf x
      return rows.reverse.flatten
    | .scalar _ => malformed

end

/-- Whether a mapping has keys of a special kind. -/
def isPlain (nodes : Nodes) (entries : Array (Nat × Nat)) : Bool :=
  entries.all fun (k, _) =>
    match nodes[k]? with
    | some n => n.kind != .merge && n.kind != .value
    | none => true

/-- Merges into a mapping what is to be merged, and tells its entries and whether any were. -/
def flattened (number : Nat) : Build (Array (Nat × Nat) × Bool) := do
  let nodes := (← get).nodes
  if !isPlain nodes (← entriesOf number) then flatten (2 * nodes.size + 2) number
  match (← nodeOf number).content with
  | .mapping entries merged => return (entries, merged)
  | _ => malformed

/-! ### Scalars -/

/-- How far values are followed for the text of a mapping. -/
def valueLimit : Nat := 900

/-- The text of a scalar. A mapping has the text of the value that it gives for itself. -/
def textOf : Nat → Nat → Build String
  | 0, _ => throw (.faulty .nestedTooDeep)
  | fuel + 1, number => do
    match (← nodeOf number).content with
    | .scalar text => return text
    | .sequence _ => malformed
    | .mapping entries _ =>
      let nodes := (← get).nodes
      match entries.find? fun (k, _) => nodes[k]?.any fun n => n.kind == .value with
      | some (_, v) => textOf fuel v
      | none => malformed

/-- The mark of a not-a-number that a node stands for. -/
def markOf (number : Nat) : Nat := number + 2

/-- The literal of a node. A moment has to be written as a scalar. -/
def literal (kind : Kind) (number : Nat) : Build Literal := do
  let n ← nodeOf number
  match kind, n.content with
  | .moment, .sequence _ | .moment, .mapping .. => malformed
  | _, _ =>
    let text ← textOf valueLimit number
    result (literalOf (← get).version (markOf number) kind text)

/-! ### Filling -/

def add (p : Part) : Build Operand :=
  modifyGet fun b =>
    let (x, graph) := b.graph.add p
    (x, { b with graph := graph })

def replace (part : Nat) (p : Part) : Build Unit :=
  modify fun b => { b with graph := b.graph.replace part p }

/-- A key. A list as a key becomes a tuple; other collections cannot be keys. -/
def keyOf (construct : Construction) (number : Nat) : Build Operand := do
  let x ← construct true number
  match (← get).graph.part? x with
  | some (.list items) => add (.tuple items)
  | some (.record _) | some (.ordered _) | some (.set _) => malformed
  | _ => return x

def checkKey (key : Operand) : Build Unit := do
  match (← get).graph.keyFault? nestingLimit key with
  | some f => throw (.faulty f)
  | none => return

/-- Refuses a key that comes twice. The values are shown, so each has to have a text. -/
def refuseTwice (shown : List Operand) : Build Unit := do
  let g := (← get).graph
  if shown.all fun x => (g.text? x).isSome then malformed
  else throw (.faulty .integerTooLong)

/-- The entries of a mapping. Where nothing was merged, no key may come twice. -/
def entriesIn (construct : Construction) (number : Nat) : Build Entries := do
  let (entries, merged) ← flattened number
  let mut table : Entries := {}
  for (k, v) in entries do
    let key ← keyOf construct k
    let value ← construct false v
    checkKey key
    let g := (← get).graph
    if !merged then
      match table.find? g key with
      | some before => refuseTwice [key, value, before]
      | none => pure ()
    table := table.insert g key value
  return table

/-- The key and value of a node, which has to be a mapping of just one entry. -/
def onlyEntry (number : Nat) : Build (Nat × Nat) := do
  match (← entriesOf number).toList with
  | [entry] => return entry
  | _ => malformed

def contents (construct : Construction) (kind : Kind) (number : Nat) : Build Part := do
  match kind with
  | .record => return .record (← entriesIn construct number).rows.toList
  | .set => return .set ((← entriesIn construct number).rows.toList.map Prod.fst)
  | .pairs =>
    let mut items := #[]
    for x in ← itemsOf number do
      let (k, v) ← onlyEntry x
      let key ← construct false k
      let value ← construct false v
      items := items.push (← add (.tuple [key, value]))
    return .list items.toList
  | .ordered =>
    let mut table : Entries := {}
    for x in ← itemsOf number do
      let (k, v) ← onlyEntry x
      let key ← construct false k
      checkKey key
      if (table.find? (← get).graph key).isSome then
        throw (.faulty (.raised "AssertionError" ""))
      let value ← construct false v
      table := table.insert (← get).graph key value
    return .ordered table.rows.toList
  | _ =>
    let mut items := #[]
    for x in ← itemsOf number do
      items := items.push (← construct false x)
    return .list items.toList

def fill (construct : Construction) (number part : Nat) : Build Unit := do
  replace part (← contents construct (← kindOf number) number)

/-- The collection of a kind before it is filled. -/
def emptyPart? : Kind → Option Part
  | .list | .pairs => some (.list [])
  | .record => some (.record [])
  | .ordered => some (.ordered [])
  | .set => some (.set [])
  | _ => none

def setUnderway (number : Nat) (x : Operand) : Build Unit :=
  modify fun b => { b with underway := (number, x) :: b.underway }

/-- The operand of a node that was not met before. -/
def made (construct : Construction) (number : Nat) : Build Operand := do
  let kind ← kindOf number
  match emptyPart? kind with
  | none => return .lit (← literal kind number)
  | some p =>
    let x ← add p
    let .part part := x | malformed
    if (← get).eager then
      setUnderway number x
      fill construct number part
    else modify fun b => { b with waiting := (number, part) :: b.waiting }
    return x

def remember (number : Nat) (x : Operand) : Build Unit :=
  modify fun b => { b with
    known := b.known.insert number x
    underway := b.underway.filter fun e => e.1 != number }

/-- The deepest nesting of what is filled at once. -/
def eagerLimit : Nat := 195

/-- The operand of a node. A node that is met within itself stands for what there is of it,
which is null before there is anything. -/
def operand : Nat → Construction
  | 0, _, _ => throw (.faulty .nestedTooDeep)
  | room + 1, now, number => do
    let b ← get
    match b.known[number]? with
    | some x => return x
    | none =>
      if now then modify fun b => { b with eager := true }
      match b.underway.find? fun e => e.1 == number with
      | some (_, x) => return x
      | none =>
        setUnderway number (.lit .null)
        let x ← made (operand room) number
        remember number x
        if now then modify fun c => { c with eager := b.eager }
        return x

/-- Fills the waiting collections and those that come to wait meanwhile, in at most so many
rounds. -/
def complete : Nat → Build Unit
  | 0 => malformed
  | rounds + 1 => do
    match (← get).waiting with
    | [] => return
    | waiting =>
      modify fun b => { b with waiting := [] }
      for (number, part) in waiting.reverse do
        fill (operand eagerLimit) number part
      complete rounds

/-- The operand of a document's root, with all that it holds. -/
def document (root : Nat) : Build Operand := do
  let x ← operand eagerLimit false root
  complete ((← get).nodes.size + 2)
  modify fun b => { b with known := {}, underway := [], eager := false }
  return x

end Build

end FilterCompiler.Markup
