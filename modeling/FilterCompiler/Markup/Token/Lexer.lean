import FilterCompiler.Markup.ScalarText
import FilterCompiler.Markup.Token.Tag

/-! The lexer. It keeps the columns of the block collections it is in and, for each level
of flow collections, the token that would be a key if a colon follows it on the same line.
Every step reads at least one character, so a text has no more steps than characters. Where
the text cannot be read on, tokens that still might have become keys are held back, and the
last token says what is wrong. -/

namespace FilterCompiler.Markup

/-- A token that may turn out to be a key: the level of flow collections that it stands on, its
number, its place, and whether it has to be a key because it stands where only a key can. -/
structure KeyCandidate where
  level : Nat
  token : Nat
  position : Position
  required : Bool

inductive Flow where
  | list
  | record
deriving DecidableEq, Repr

structure Lexer where
  cursor : Cursor
  version : Version
  tokens : Array Token := #[]
  level : Nat := 0
  flows : List Flow := []
  indents : List Nat := []
  keyAllowed : Bool := true
  candidates : List KeyCandidate := []

namespace Lexer

/-- The column of the innermost block collection. -/
def indent? (l : Lexer) : Option Nat := l.indents.head?

/-- The least indentation of what stands inside the innermost block collection. -/
def innerIndent (l : Lexer) : Nat := (l.indent?.map (· + 1)).getD 0

def column (l : Lexer) : Nat := l.cursor.position.column

def inFlow (l : Lexer) : Bool := l.level != 0

def isOld (l : Lexer) : Bool := l.version == .old

def emit (l : Lexer) (t : Token) : Lexer := { l with tokens := l.tokens.push t }

/-- Moves the cursor over a mark and adds its token. -/
def take (l : Lexer) (length : Nat) (t : Token) : Lexer :=
  { l.emit t with cursor := l.cursor.skip length }

/-! ### White space -/

/-- Skips white space and comments. Behind a line break in block style a key may stand. A
tab counts as white space in flow style only. -/
def skipGaps (flow : Bool) : Bool → Bool → Position → List Char → Bool × Cursor
  | allowed, _, p, [] => (allowed, ⟨[], p⟩)
  | allowed, _, p, '\r' :: '\n' :: rest => skipGaps flow (allowed || !flow) false p.pastPair rest
  | allowed, comment, p, c :: rest =>
    if endsLine c || (isBreak c && !comment) then
      skipGaps flow (allowed || !flow) false (p.past c) rest
    else if comment || c == ' ' || (c == '\t' && flow) then
      skipGaps flow allowed comment (p.past c) rest
    else if c == '#' then skipGaps flow allowed true (p.past c) rest
    else (allowed, ⟨c :: rest, p⟩)

def toToken (l : Lexer) : Lexer :=
  let (allowed, c) := skipGaps l.inFlow l.keyAllowed false l.cursor.position l.cursor.rest
  { l with keyAllowed := allowed, cursor := c }

/-! ### Candidates for keys -/

/-- Gives up the candidates of a class; one that is required cannot be given up. -/
def giveUp (l : Lexer) (p : KeyCandidate → Bool) : Reads Lexer :=
  if l.candidates.any fun k => p k && k.required then .error .malformed
  else .ok { l with candidates := l.candidates.filter fun k => !p k }

def dropCandidate (l : Lexer) : Reads Lexer := l.giveUp fun k => k.level == l.level

/-- The farthest a colon may stand behind the start of its key. -/
def keyReach : Nat := 1024

/-- Whether a candidate can no longer be a key. -/
def isStale (p : Position) (k : KeyCandidate) : Bool :=
  k.position.line != p.line || k.position.index + keyReach < p.index

/-- Gives up the candidates that are too far behind. -/
def dropStale (l : Lexer) : Reads Lexer := l.giveUp (isStale l.cursor.position)

/-- Makes the next token a candidate, where a key is allowed. -/
def markCandidate (l : Lexer) : Reads Lexer :=
  if l.keyAllowed then do
    let l ← l.dropCandidate
    let required := !l.inFlow && l.indent? == some l.column
    return { l with
      candidates := ⟨l.level, l.tokens.size, l.cursor.position, required⟩ :: l.candidates }
  else .ok l

/-! ### Block collections -/

/-- Ends the block collections that are indented further than a column. -/
def closeBlocks (column : Option Nat) : List Nat → Array Token → List Nat × Array Token
  | [], tokens => ([], tokens)
  | n :: outer, tokens =>
    if column.any (n ≤ ·) then (n :: outer, tokens)
    else closeBlocks column outer (tokens.push .blockEnd)

/-- Ends the block collections that a token at a column does not belong to. -/
def unindent (l : Lexer) (column : Option Nat) : Lexer :=
  if l.inFlow then l
  else
    let (indents, tokens) := closeBlocks column l.indents l.tokens
    { l with indents := indents, tokens := tokens }

/-- Starts a block collection at a column, unless it is in one there. The token that starts it
gets the number `number`. -/
def beginBlock (l : Lexer) (column number : Nat) (start : Token) : Lexer :=
  if l.inFlow || l.indent?.any (column ≤ ·) then l
  else { l with
    indents := column :: l.indents
    tokens := l.tokens.insertIdxIfInBounds number start }

/-! ### Steps -/

/-- A directive, a divider or the end of the text ends all block collections. -/
def endBlocks (l : Lexer) : Reads Lexer := do
  let l ← (l.unindent none).dropCandidate
  return { l with keyAllowed := false }

/-- The deepest nesting of flow collections that is read. It is more than a document may have,
so a text with more is refused for its depth in any case. -/
def flowLimit : Nat := 2000

/-- A mark that opens a flow collection, which may itself be a key. -/
def openFlow (l : Lexer) (f : Flow) (t : Token) : Reads Lexer := do
  if flowLimit ≤ l.level then throw (.faulty .nestedTooDeep)
  let l ← l.markCandidate
  return { l with level := l.level + 1, flows := f :: l.flows, keyAllowed := true }.take 1 t

def closeFlow (l : Lexer) (t : Token) : Reads Lexer := do
  let l ← l.dropCandidate
  return { l with level := l.level - 1, flows := l.flows.tail, keyAllowed := false }.take 1 t

def comma (l : Lexer) : Reads Lexer := do
  let l ← l.dropCandidate
  return { l.take 1 .comma with keyAllowed := true }

/-- Whether a mark of a block collection may stand here. -/
def checkMark (l : Lexer) : Reads Unit :=
  if !l.inFlow && !l.keyAllowed then .error .malformed else .ok ()

def item (l : Lexer) : Reads Lexer := do
  l.checkMark
  let l ← (l.beginBlock l.column l.tokens.size .sequenceStart).dropCandidate
  return { l.take 1 .item with keyAllowed := true }

def explicitKey (l : Lexer) : Reads Lexer := do
  l.checkMark
  let l ← (l.beginBlock l.column l.tokens.size .mappingStart).dropCandidate
  return { l with keyAllowed := !l.inFlow }.take 1 .key

/-- A colon: the candidate on its level, if there is one, becomes a key. -/
def colon (l : Lexer) : Reads Lexer := do
  match l.candidates.find? fun k => k.level == l.level with
  | some k =>
    let l := { l with
      tokens := l.tokens.insertIdxIfInBounds k.token .key
      candidates := l.candidates.filter fun k => k.level != l.level }
    let l := l.beginBlock k.position.column k.token .mappingStart
    return { l.take 1 .value with keyAllowed := false }
  | none =>
    l.checkMark
    let l := l.beginBlock l.column l.tokens.size .mappingStart
    return { l with keyAllowed := !l.inFlow }.take 1 .value

/-- An anchor or a tag, which may begin a key. -/
def property (l : Lexer) (found : Option (Token × Cursor)) : Reads Lexer := do
  let l ← l.markCandidate
  let (t, c) ← Reads.required found
  return { l.emit t with cursor := c, keyAllowed := false }

def quoted (l : Lexer) (found : Reads (String × Cursor)) : Reads Lexer := do
  let l ← l.markCandidate
  let (text, c) ← found
  return { l.emit (.scalar false text) with cursor := c, keyAllowed := false }

def plain (l : Lexer) : Reads Lexer := do
  let l ← l.markCandidate
  let place : PlainPlace := ⟨l.inFlow, l.innerIndent, l.isOld⟩
  let (text, broken, c) := plainText place [] {} l.cursor.position l.cursor.rest
  return { l.emit (.scalar true text) with cursor := c, keyAllowed := broken }

def block (l : Lexer) (folded : Bool) : Reads Lexer := do
  let l ← l.dropCandidate
  let (text, c) ← Reads.required (blockText folded l.innerIndent (l.cursor.skip 1))
  return { l.emit (.scalar false text) with cursor := c, keyAllowed := true }

def directive (l : Lexer) : Reads Lexer := do
  let l ← l.endBlocks
  let (t, c) ← Token.directiveAt l.version.isNew (l.cursor.skip 1)
  let version := match t with
    | .version v => v
    | _ => l.version
  return { l.emit t with cursor := c, version := version }

/-- Whether a colon is a mark and not the start of a word. In flow style it need have no space
behind it, except in a list, or behind another colon that is `queued` with it. -/
def isColonMark (l : Lexer) (queued : Bool) (rest : List Char) : Bool :=
  if !l.inFlow then atGap rest
  else if l.isOld then true
  else if l.flows.head? == some .list then atGap rest
  else if queued && l.tokens.back? == some .value then atGap rest
  else true

/-- Whether a plain scalar may begin here. -/
def startsPlain (l : Lexer) (c : Char) (rest : List Char) : Bool :=
  if c == '-' then !atGap rest
  else if c == '?' then !l.inFlow && !atGap rest
  else if c == ':' then
    if l.inFlow then !l.isOld && !rest.head?.any isSpace else !atGap rest
  else !(isSpace c || isBreak c || isFlowMark c || "#&*!|>'\"%@\x60".contains c)

/-- Reads the token that begins with a character; `queued` tells whether tokens before it still
might become keys. -/
def fetch (l : Lexer) (queued : Bool) (c : Char) (rest : List Char) : Reads Lexer :=
  let behind := l.cursor.skip 1
  if l.column == 0 && c == '%' then l.directive
  else if l.column == 0 && atDivider (c :: rest) then do
    return (← l.endBlocks).take 3 (if c == '-' then .documentStart else .documentEnd)
  else if c == '[' then l.openFlow .list .listOpen
  else if c == '\x7b' then l.openFlow .record .recordOpen
  else if c == ']' then l.closeFlow .listClose
  else if c == '\x7d' then l.closeFlow .recordClose
  else if c == ',' then l.comma
  else if c == '-' && atGap rest then l.item
  else if c == '?' && (l.inFlow || atGap rest) then l.explicitKey
  else if c == ':' && l.isColonMark queued rest then l.colon
  else if c == '*' then
    l.property ((Token.anchorAt behind).map fun (n, d) => (.reference n, d))
  else if c == '&' then l.property ((Token.anchorAt behind).map fun (n, d) => (.anchor n, d))
  else if c == '!' then l.property (Token.tagAt l.version.isNew l.cursor)
  else if (c == '|' || c == '>') && !l.inFlow then l.block (c == '>')
  else if c == '\'' then l.quoted (singleQuoted [] {} behind.position behind.rest)
  else if c == '"' then l.quoted (doubleQuoted [] {} behind.position behind.rest)
  else if l.startsPlain c rest then l.plain
  else .error .malformed

def step (l : Lexer) : Reads Lexer := do
  let queued := !l.candidates.isEmpty
  let l ← l.toToken.dropStale
  match l.cursor.rest with
  | [] => return (← l.endBlocks).emit .streamEnd
  | c :: rest => (l.unindent (some l.column)).fetch queued c rest

/-- The tokens of a text that cannot be read on: those before the first candidate, and why. -/
def stopped (l : Lexer) (r : Refusal) : Array Token :=
  let sure := l.candidates.foldl (fun n k => min n k.token) l.tokens.size
  (l.tokens.extract 0 sure).push (.broken r)

/-- Reads on to the end of the text in at most so many steps. -/
def run : Nat → Lexer → Array Token
  | 0, l => l.stopped .malformed
  | steps + 1, l =>
    match l.dropStale with
    | .error r => l.stopped r
    | .ok l =>
      match l.step with
      | .error r => l.stopped r
      | .ok next => if next.tokens.back? == some .streamEnd then next.tokens else run steps next

end Lexer

/-- The tokens of a text, which at first is taken for markup of a version. A mark of byte order
before the text does not belong to it. -/
def Token.ofText (version : Version) (s : List Char) : List Token :=
  let start : Cursor := match s with
    | '\ufeff' :: rest => ⟨rest, Position.past {} '\ufeff'⟩
    | s => ⟨s, {}⟩
  if s.all isAllowed then (Lexer.run (s.length + 1) { cursor := start, version }).toList
  else [.broken .malformed]

end FilterCompiler.Markup
