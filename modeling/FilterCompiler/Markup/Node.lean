import FilterCompiler.Markup.Scalar
import FilterCompiler.Markup.Token

/-! The node graph of a document. Nodes are numbered in the order they begin in, and an
alias is the number of the node that it names, so a node may stand in several places and
inside itself. A name that is given again stands for the later node from then on. -/

namespace FilterCompiler.Markup

/-- What a node is written as: a text, items, or keys with their values. A mapping is `merged`
once others have been merged into it. -/
inductive Content where
  | scalar (text : String)
  | sequence (items : Array Nat)
  | mapping (entries : Array (Nat × Nat)) (merged : Bool)
deriving Repr, Inhabited

structure Node where
  kind : Kind
  content : Content
deriving Repr, Inhabited

abbrev Nodes := Array Node

/-- What is left to read, the version that counts, the nodes so far, the numbers of those with a
name, the latest first, and what the handles of tags stand for. -/
structure Composition where
  tokens : List Token
  version : Version
  nodes : Nodes := #[]
  anchors : List (String × Nat) := []
  handles : List (String × String) := []

/-- A step of reading nodes off the tokens. A refusal leaves what was read so far. -/
abbrev Composing := ExceptT Refusal (StateM Composition)

namespace Composing

def malformed {α : Type} : Composing α := throw .malformed

def result {α : Type} : Reads α → Composing α
  | .ok x => return x
  | .error r => throw r

/-- The next token. A version that is stated counts from when its token is met. -/
def peek : Composing Token := do
  match (← get).tokens with
  | .broken r :: _ => throw r
  | .version v :: _ =>
    modify fun c => { c with version := v }
    return .version v
  | t :: _ => return t
  | [] => malformed

def advance : Composing Unit := modify fun c => { c with tokens := c.tokens.tail }

/-- Whether a token follows, which is then skipped. -/
def skip (t : Token) : Composing Bool := do
  if (← peek) = t then
    advance
    return true
  else return false

def add (n : Node) : Composing Nat :=
  modifyGet fun c => (c.nodes.size, { c with nodes := c.nodes.push n })

def addItem (sequence item : Nat) : Composing Unit :=
  modify fun c => { c with nodes := c.nodes.modify sequence fun n =>
    match n with
    | ⟨kind, .sequence items⟩ => ⟨kind, .sequence (items.push item)⟩
    | n => n }

def addEntry (mapping key value : Nat) : Composing Unit :=
  modify fun c => { c with nodes := c.nodes.modify mapping fun n =>
    match n with
    | ⟨kind, .mapping entries merged⟩ => ⟨kind, .mapping (entries.push (key, value)) merged⟩
    | n => n }

/-- The number that an alias stands for. -/
def named (name : String) : Composing Nat := do
  match (← get).anchors.find? fun a => a.1 == name with
  | some (_, number) => return number
  | none => malformed

def anchor (name : Option String) (number : Nat) : Composing Unit :=
  match name with
  | some name => modify fun c => { c with anchors := (name, number) :: c.anchors }
  | none => return

/-! ### Properties -/

/-- What may precede a node: an anchor and a full tag. -/
structure Properties where
  anchor : Option String := none
  tag : Option String := none

def Properties.isPresent (p : Properties) : Bool := p.anchor.isSome || p.tag.isSome

def takeAnchor : Composing (Option String) := do
  match ← peek with
  | .anchor name =>
    advance
    return some name
  | _ => return none

def takeTag : Composing (Option Token) := do
  match ← peek with
  | .tag handle suffix =>
    advance
    return some (.tag handle suffix)
  | _ => return none

def fullTag : Option Token → Composing (Option String)
  | some (.tag (some handle) suffix) => do
    match (← get).handles.find? fun h => h.1 == handle with
    | some (_, expansion) => return some (expansion ++ suffix)
    | none => malformed
  | some (.tag none suffix) => return some suffix
  | _ => return none

/-- Takes the properties in front of a node, which come in either order. -/
def takeProperties : Composing Properties := do
  let first ← takeAnchor
  let tag ← takeTag
  let name ← if first.isNone && tag.isSome then takeAnchor else pure first
  return ⟨name, ← fullTag tag⟩

/-- The kind of a plain scalar. -/
def plainKind (text : String) : Composing Kind := do
  result (Reads.meaningful (Kind.ofPlain (← get).version text))

/-- A scalar; without a tag, or with one that is just an exclamation mark, it is of the kind that
it is seen to be of. -/
def scalar (p : Properties) (plain : Bool) (text : String) : Composing Nat := do
  let kind ← match p.tag with
    | none => if plain then plainKind text else pure Kind.text
    | some "!" => plainKind text
    | some tag => pure (Kind.ofTag tag)
  let x ← add ⟨kind, .scalar text⟩
  anchor p.anchor x
  return x

/-- A scalar that is not written out. -/
def emptyScalar : Composing Nat := scalar {} true ""

/-- A collection without items, to which they are added. -/
def collection (p : Properties) (usual : Kind) (content : Content) : Composing Nat := do
  let kind := match p.tag with
    | none | some "!" => usual
    | some tag => Kind.ofTag tag
  let x ← add ⟨kind, content⟩
  anchor p.anchor x
  return x

/-! ### Nodes -/

/-- The deepest nesting that is read. -/
def depthLimit : Nat := 485

mutual

/-- A node. `block` tells whether it may be a block collection, `dashes` whether the items of
one may stand without indentation of their own. `fuel` bounds the steps, `room` the depth. -/
def node : Nat → Nat → Bool → Bool → Composing Nat
  | 0, _, _, _ => malformed
  | _, 0, _, _ => throw (.faulty .nestedTooDeep)
  | fuel + 1, room + 1, block, dashes => do
    match ← peek with
    | .reference name =>
      advance
      named name
    | _ =>
      let p ← takeProperties
      match ← peek with
      | .scalar plain text =>
        advance
        scalar p plain text
      | .listOpen =>
        advance
        let x ← collection p .list (.sequence #[])
        flowItems fuel room true x
      | .recordOpen =>
        advance
        let x ← collection p .record (.mapping #[] false)
        flowEntries fuel room true x
      | t =>
        if dashes && t = .item then
          let x ← collection p .list (.sequence #[])
          items fuel room false x
        else if block && t = .sequenceStart then
          advance
          let x ← collection p .list (.sequence #[])
          items fuel room true x
        else if block && t = .mappingStart then
          advance
          let x ← collection p .record (.mapping #[] false)
          entries fuel room x
        else if p.isPresent then scalar p true ""
        else malformed

/-- The items of a block sequence. Without indentation of its own it ends where another
token than a dash follows. -/
def items : Nat → Nat → Bool → Nat → Composing Nat
  | 0, _, _, _ => malformed
  | fuel + 1, room, indented, x => do
    if ← skip .item then
      let missing := match ← peek with
        | .item | .blockEnd => true
        | .key | .value => !indented
        | _ => false
      addItem x (← if missing then emptyScalar else node fuel room true false)
      items fuel room indented x
    else if !indented then return x
    else if ← skip .blockEnd then return x
    else malformed

/-- The entries of a block mapping. A key mark may be missing where a value follows, except
in old markup. -/
def entries : Nat → Nat → Nat → Composing Nat
  | 0, _, _ => malformed
  | fuel + 1, room, x => do
    if ← skip .key then
      entry fuel room x (← blockPart fuel room)
    else if (← get).version.isNew && (← peek) = .value then
      entry fuel room x (← emptyScalar)
    else if ← skip .blockEnd then return x
    else malformed

/-- The value behind a key of a block mapping, and the entries behind it. -/
def entry : Nat → Nat → Nat → Nat → Composing Nat
  | 0, _, _, _ => malformed
  | fuel + 1, room, x, k => do
    addEntry x k (← if ← skip .value then blockPart fuel room else emptyScalar)
    entries fuel room x

/-- A key or value of a block mapping, which may be missing. -/
def blockPart : Nat → Nat → Composing Nat
  | 0, _ => malformed
  | fuel + 1, room => do
    match ← peek with
    | .key | .value | .blockEnd => emptyScalar
    | _ => node fuel room true true

/-- The value of an entry in a flow collection that a token closes. -/
def flowValue : Nat → Nat → Token → Composing Nat
  | 0, _, _ => malformed
  | fuel + 1, room, closing => do
    if ← skip .value then
      let t ← peek
      if t = .comma || t = closing then emptyScalar else node fuel room false false
    else emptyScalar

/-- An entry of a flow collection behind its key mark. -/
def flowEntry : Nat → Nat → Token → Nat → Composing Unit
  | 0, _, _, _ => malformed
  | fuel + 1, room, closing, x => do
    let t ← peek
    let k ← if t = .value || t = .comma || t = closing then emptyScalar
      else node fuel room false false
    addEntry x k (← flowValue fuel room closing)

/-- The items of a flow sequence. An item with a key mark is a mapping of one entry. -/
def flowItems : Nat → Nat → Bool → Nat → Composing Nat
  | 0, _, _, _ => malformed
  | fuel + 1, room, first, x => do
    if ← skip .listClose then return x
    else if !first && !(← skip .comma) then malformed
    else if ← skip .listClose then return x
    else if ← skip .key then
      let pair ← collection {} .record (.mapping #[] false)
      flowEntry fuel room .listClose pair
      addItem x pair
      flowItems fuel room false x
    else
      addItem x (← node fuel room false false)
      flowItems fuel room false x

/-- The entries of a flow mapping. A key mark may be missing where no value follows, and a key
where only a value does, except in old markup. -/
def flowEntries : Nat → Nat → Bool → Nat → Composing Nat
  | 0, _, _, _ => malformed
  | fuel + 1, room, first, x => do
    if ← skip .recordClose then return x
    else if !first && !(← skip .comma) then malformed
    else if ← skip .recordClose then return x
    else if ← skip .key then
      flowEntry fuel room .recordClose x
      flowEntries fuel room false x
    else if (← get).version.isNew && (← peek) = .value then
      let k ← emptyScalar
      addEntry x k (← flowValue fuel room .recordClose)
      flowEntries fuel room false x
    else
      let k ← node fuel room false false
      addEntry x k (← emptyScalar)
      flowEntries fuel room false x

end

/-! ### Documents -/

/-- The handles that have a meaning in every document. -/
def commonHandles : List (String × String) := [("!", "!"), ("!!", Kind.tagBase)]

/-- Reads the directives before a document. The version may be stated once, and a handle
may be given a meaning once. -/
def directives : Nat → Bool → List (String × String) → Composing Unit
  | 0, _, _ => malformed
  | fuel + 1, versioned, given => do
    match ← peek with
    | .version v =>
      if versioned || v.major ≠ 1 then malformed
      advance
      directives fuel true given
    | .handle name expansion =>
      if given.any fun h => h.1 == name then malformed
      advance
      directives fuel versioned ((name, expansion) :: given)
    | .directive =>
      advance
      directives fuel versioned given
    | _ => modify fun c => { c with handles := given ++ commonHandles }

/-- Whether a token starts a document that is marked as one. -/
def startsMarked : Token → Bool
  | .version _ | .handle .. | .directive | .documentStart => true
  | _ => false

def endsDocument (t : Token) : Bool := startsMarked t || t = .documentEnd || t = .streamEnd

def skipEnds : Nat → Composing Unit
  | 0 => malformed
  | fuel + 1 => do if ← skip .documentEnd then skipEnds fuel

/-- The root of the only document, if there is one. Its start has to be marked if directives
precede it. Nothing may follow it but the mark of its end, which may stand there several times
in old markup. -/
def stream (fuel : Nat) : Composing (Option Nat) := do
  let t ← peek
  if t = .streamEnd then return none
  let root ←
    if startsMarked t then do
      directives fuel false []
      if !(← skip .documentStart) then malformed
      if endsDocument (← peek) then emptyScalar else node fuel depthLimit true false
    else do
      modify fun c => { c with handles := commonHandles }
      node fuel depthLimit true false
  let _ ← skip .documentEnd
  modify fun c => { c with anchors := [] }
  if (← get).version = .old then skipEnds fuel
  if (← peek) = .streamEnd then return some root else malformed

end Composing

end FilterCompiler.Markup
