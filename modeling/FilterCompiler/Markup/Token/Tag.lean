import FilterCompiler.Markup.Cursor
import FilterCompiler.Markup.Token

/-! Tags, anchors and directives: the tokens that are names of something. A tag is an address,
whose beginning may be abbreviated by a handle between exclamation marks, and in which bytes
may be written with percent signs. -/

namespace FilterCompiler.Markup

namespace Token

/-! ### Characters of names -/

def isHandleChar (c : Char) : Bool := c.isAlphanum || c == '_' || c == '-'

/-- Whether a character may stand in the name of a directive. -/
def isDirectiveChar (c : Char) : Bool := isHandleChar c || c == ':' || c == '.'

def isAddressChar (new : Bool) (c : Char) : Bool :=
  isHandleChar c || ";/?:@&=+$,.!~*'()[]".contains c || (new && c == '#')

def isAnchorChar (c : Char) : Bool :=
  let n := c.toNat
  ((0x21 ≤ n && n ≤ 0x7e) || (0xa0 ≤ n && n ≤ 0xd7ff) ||
    (0xe000 ≤ n && n ≤ 0xfffd && n != 0xfeff) || 0x10000 ≤ n) &&
    !",[]\x7b\x7d".contains c

/-! ### Tags -/

/-- Adds the text of bytes to an address. Both come with what was read last in front. -/
def addBytes (bytes : List UInt8) (acc : List Char) : Option (List Char) :=
  (String.fromUTF8? ⟨bytes.reverse.toArray⟩).map fun s => s.toList.reverse ++ acc

/-- Reads an address, of which `acc` and then `bytes` were read. -/
def address (new : Bool) (acc : List Char) (bytes : List UInt8) (p : Position) :
    List Char → Option (String × Cursor)
  | '%' :: a :: b :: rest => do
    let n ← Text.Hex.number? [a, b]
    address new acc (n.toUInt8 :: bytes) (p.right 3) rest
  | c :: rest => do
    let acc ← addBytes bytes acc
    if c == '%' then none
    else if isAddressChar new c then address new (c :: acc) [] (p.right 1) rest
    else if acc.isEmpty then none
    else return (String.ofList acc.reverse, ⟨c :: rest, p⟩)
  | [] => do
    let acc ← addBytes bytes acc
    if acc.isEmpty then none else return (String.ofList acc.reverse, ⟨[], p⟩)

def addressAt (new : Bool) (c : Cursor) : Option (String × Cursor) :=
  address new [] [] c.position c.rest

/-- Reads a handle: a name between two exclamation marks, or one mark and a space. -/
def handleAt (c : Cursor) : Option (String × Cursor) :=
  match c.rest with
  | '!' :: ' ' :: _ => some ("!", c.skip 1)
  | '!' :: _ =>
    let (name, after) := (c.skip 1).takeWhile isHandleChar
    if after.head? == some '!' then some ("!" ++ String.ofList name ++ "!", after.skip 1)
    else none
  | _ => none

/-- Whether a text has an exclamation mark before its first blank. -/
def hasHandle (s : List Char) : Bool :=
  (s.takeWhile fun c => !(c == ' ' || isBreak c)).contains '!'

/-- Reads a tag: one or two exclamation marks and an address, which may stand between angle
brackets or be missing. -/
def tagAt (new : Bool) (c : Cursor) : Option (Token × Cursor) := do
  let (short, c) := if c.rest.tail.head? == some '!' then ("!!", c.skip 1) else ("!", c)
  let behind := c.skip 1
  let (t, d) ←
    if behind.head? == some '<' then do
      let (whole, d) ← addressAt new (behind.skip 1)
      if d.head? == some '>' then some (Token.tag none whole, d.skip 1) else none
    else if atGap behind.rest then some (.tag none short, behind)
    else if hasHandle behind.rest then do
      let (name, d) ← handleAt c
      let (suffix, d) ← addressAt new d
      some (.tag (some name) suffix, d)
    else do
      let (suffix, d) ← addressAt new behind
      some (.tag (some short) suffix, d)
  if atBlank d.rest then return (t, d) else none

/-! ### Anchors -/

def anchorAt (c : Cursor) : Option (String × Cursor) :=
  let (name, c) := c.takeWhile isAnchorChar
  if name.isEmpty || c.head? == some '\ufeff' then none else some (String.ofList name, c)

/-! ### Directives -/

def versionPart (c : Cursor) : Reads (Nat × Cursor) :=
  let (ds, c) := c.takeWhile Char.isDigit
  if ds.isEmpty then .error .malformed
  else if Integer.digitLimit < ds.length then
    .error (.faulty (.integerTextTooLong ds.length))
  else .ok (Integer.ofDigits ds, c)

def versionAt (c : Cursor) : Reads (Token × Cursor) := do
  let (major, c) ← versionPart c.skipSpaces
  if c.head? != some '.' then throw .malformed
  let (minor, c) ← versionPart (c.skip 1)
  if atBlank c.rest then return (.version ⟨major, minor⟩, c) else throw .malformed

/-- Reads what a handle is to stand for. -/
def handleMeaning (new : Bool) (c : Cursor) : Option (Token × Cursor) := do
  let (name, c) ← handleAt c.skipSpaces
  if c.head? != some ' ' then none
  let (expansion, c) ← addressAt new c.skipSpaces
  if atBlank c.rest then return (.handle name expansion, c) else none

/-- Reads the end of a directive's line, which may hold a comment. -/
def directiveEnd (c : Cursor) : Reads Cursor :=
  let c := c.skipSpaces.skipComment
  if c.rest.isEmpty || c.head?.any isBreak then .ok c.skipBreak else .error .malformed

/-- Reads a directive behind its percent sign; one of an unknown name says nothing. -/
def directiveAt (new : Bool) (c : Cursor) : Reads (Token × Cursor) := do
  let (name, c) := c.takeWhile isDirectiveChar
  if name.isEmpty || !atBlank c.rest then throw .malformed
  let (t, c) ←
    if name = "YAML".toList then versionAt c
    else if name = "TAG".toList then Reads.required (handleMeaning new c)
    else .ok (.directive, (c.takeWhile fun d => !endsLine d).2)
  return (t, ← directiveEnd c)

end Token

end FilterCompiler.Markup
