import FilterCompiler.Markup.Cursor
import FilterCompiler.Markup.Refusal
import FilterCompiler.Text.Hex

/-! The text of scalars: plain ones, quoted ones and blocks of lines. White space inside a
plain or quoted scalar that crosses a line break is folded: a single break stands for
a space, of several the first one is dropped. -/

namespace FilterCompiler.Markup

/-! ### Gaps -/

/-- White space between two words of a scalar: the spaces before its first line break,
that break, and the breaks after it; `fresh` tells whether it ends in a break. Texts are
reversed. -/
structure Gap where
  spaces : List Char := []
  first : Option (List Char) := none
  more : List Char := []
  fresh : Bool := false

namespace Gap

/-- Whether a gap crosses a line break. -/
def isBroken (g : Gap) : Bool := g.first.isSome

def isEmpty (g : Gap) : Bool := g.spaces.isEmpty && g.first.isNone

/-- A space more; behind a line break it counts for nothing. -/
def addSpace (g : Gap) (c : Char) : Gap :=
  if g.isBroken then { g with fresh := false } else { g with spaces := c :: g.spaces }

def addBreak (g : Gap) (c : Char) : Gap :=
  if g.isBroken then { g with more := breakChar c :: g.more, fresh := true }
  else { g with first := some [breakChar c], fresh := true }

/-- The text that a gap stands for, reversed. -/
def folded (g : Gap) : List Char :=
  match g.first with
  | none => g.spaces
  | some ['\n'] => if g.more.isEmpty then [' '] else g.more
  | some first => g.more ++ first

/-- The gap behind a line break that is escaped. -/
def escaped : Gap := { first := some [], fresh := true }

/-- Whether documents are divided here, behind a line break. -/
def isDivided (g : Gap) (s : List Char) : Bool := g.fresh && atDivider s

end Gap

/-! ### Plain scalars -/

/-- Whether a character ends or opens a collection in flow style, or divides its items. -/
def isFlowMark (c : Char) : Bool :=
  c == ',' || c == '[' || c == ']' || c == '\x7b' || c == '\x7d'

/-- Where a plain scalar stands: in a flow collection or not, and how far it has to be
indented. In old markup a question mark has a meaning inside flow collections. -/
structure PlainPlace where
  flow : Bool
  indent : Nat
  old : Bool

/-- Whether a word of a plain scalar ends in front of a text. -/
def PlainPlace.endsWord (place : PlainPlace) : List Char → Bool
  | [] => true
  | ':' :: rest => atGap rest
  | '?' :: _ => place.old && place.flow
  | c :: _ => isGap c || (place.flow && isFlowMark c)

/-- Whether a plain scalar does not go on with another word behind a gap. -/
def PlainPlace.stopsBehind (place : PlainPlace) (p : Position) (s : List Char) : Bool :=
  s.head? == some '#' || (!place.flow && p.column < place.indent) || place.endsWord s

/-- Reads a plain scalar. `acc` is what was read, reversed, and `gap` the white space behind
it. The flag tells whether a line break follows the scalar. -/
def plainText (place : PlainPlace) :
    List Char → Gap → Position → List Char → String × Bool × Cursor
  | acc, gap, p, [] => (String.ofList acc.reverse, gap.isBroken, ⟨[], p⟩)
  | acc, gap, p, '\r' :: '\n' :: rest =>
    plainText place acc (gap.addBreak '\n') p.pastPair rest
  | acc, gap, p, c :: rest =>
    let stop := (String.ofList acc.reverse, gap.isBroken, ⟨c :: rest, p⟩)
    if gap.isDivided (c :: rest) then stop
    else if c == ' ' then plainText place acc (gap.addSpace c) (p.past c) rest
    else if endsLine c || (!gap.isEmpty && isBreak c) then
      plainText place acc (gap.addBreak c) (p.past c) rest
    else if gap.isEmpty then
      if place.endsWord (c :: rest) then stop
      else plainText place (c :: acc) {} (p.past c) rest
    else if place.stopsBehind p (c :: rest) then stop
    else plainText place (c :: (gap.folded ++ acc)) {} (p.past c) rest

/-! ### Quoted scalars -/

/-- Reads on behind a single quote. A quote inside is written twice. -/
def singleQuoted : List Char → Gap → Position → List Char → Reads (String × Cursor)
  | _, _, _, [] => .error .malformed
  | acc, gap, p, '\r' :: '\n' :: rest => singleQuoted acc (gap.addBreak '\n') p.pastPair rest
  | acc, gap, p, '\'' :: '\'' :: rest =>
    singleQuoted ('\'' :: (gap.folded ++ acc)) {} (p.right 2) rest
  | acc, gap, p, c :: rest =>
    if gap.isDivided (c :: rest) then .error .malformed
    else if isBreak c then singleQuoted acc (gap.addBreak c) (p.past c) rest
    else if isSpace c then singleQuoted acc (gap.addSpace c) (p.past c) rest
    else if c == '\'' then
      .ok (String.ofList (gap.folded ++ acc).reverse, ⟨rest, p.past c⟩)
    else singleQuoted (c :: (gap.folded ++ acc)) {} (p.past c) rest

/-- The character that a letter behind a backslash stands for. -/
def escapeChar? : Char → Option Char
  | '0' => some '\x00'
  | 'a' => some '\x07'
  | 'b' => some '\x08'
  | 't' | '\t' => some '\t'
  | 'n' => some '\n'
  | 'v' => some '\x0b'
  | 'f' => some '\x0c'
  | 'r' => some '\r'
  | 'e' => some '\x1b'
  | ' ' => some ' '
  | '"' => some '"'
  | '/' => some '/'
  | '\\' => some '\\'
  | 'N' => some '\u0085'
  | '_' => some '\u00a0'
  | 'L' => some '\u2028'
  | 'P' => some '\u2029'
  | _ => none

/-- The character of a number in an escape. There is no character for half of a surrogate
pair. -/
def codeChar (n : Nat) : Reads Char :=
  if 0x80000000 ≤ n then .error (.faulty .characterTooLarge)
  else if 0x10ffff < n then .error (.faulty .noCharacter)
  else if 0xd800 ≤ n ∧ n < 0xe000 then .error .malformed
  else .ok (Char.ofNat n)

def hexChar (digits : List Char) : Reads Char := do
  codeChar (← Reads.required (Text.Hex.number? digits))

/-- Reads on behind a double quote, undoing escapes. -/
def doubleQuoted : List Char → Gap → Position → List Char → Reads (String × Cursor)
  | _, _, _, [] => .error .malformed
  | acc, gap, p, '\r' :: '\n' :: rest => doubleQuoted acc (gap.addBreak '\n') p.pastPair rest
  | acc, gap, p, '\\' :: '\r' :: '\n' :: rest =>
    doubleQuoted (gap.folded ++ acc) .escaped (p.right 1).pastPair rest
  | acc, gap, p, '\\' :: 'x' :: a :: b :: rest => do
    doubleQuoted ((← hexChar [a, b]) :: (gap.folded ++ acc)) {} (p.right 4) rest
  | acc, gap, p, '\\' :: 'u' :: a :: b :: c :: d :: rest => do
    doubleQuoted ((← hexChar [a, b, c, d]) :: (gap.folded ++ acc)) {} (p.right 6) rest
  | acc, gap, p, '\\' :: 'U' :: a :: b :: c :: d :: e :: f :: g :: h :: rest => do
    doubleQuoted ((← hexChar [a, b, c, d, e, f, g, h]) :: (gap.folded ++ acc)) {}
      (p.right 10) rest
  | acc, gap, p, '\\' :: c :: rest =>
    if isBreak c then doubleQuoted (gap.folded ++ acc) .escaped ((p.right 1).past c) rest
    else do
      let d ← Reads.required (escapeChar? c)
      doubleQuoted (d :: (gap.folded ++ acc)) {} (p.right 2) rest
  | acc, gap, p, c :: rest =>
    if gap.isDivided (c :: rest) then .error .malformed
    else if isBreak c then doubleQuoted acc (gap.addBreak c) (p.past c) rest
    else if isSpace c then doubleQuoted acc (gap.addSpace c) (p.past c) rest
    else if c == '"' then
      .ok (String.ofList (gap.folded ++ acc).reverse, ⟨rest, p.past c⟩)
    else doubleQuoted (c :: (gap.folded ++ acc)) {} (p.past c) rest

/-! ### Blocks of lines -/

/-- What becomes of the line breaks at the end of a block. -/
inductive Chomp where
  | strip
  | clip
  | keep
deriving DecidableEq, Repr

/-- What follows the mark of a block: how to end it, and how far it is indented. -/
structure BlockHeader where
  chomp : Chomp := .clip
  increment : Option Nat := none

namespace BlockHeader

/-- Takes a mark of how a block ends, if one leads. -/
def takeChomp (h : BlockHeader) (c : Cursor) : BlockHeader × Cursor :=
  match c.head? with
  | some '+' => ({ h with chomp := .keep }, c.skip 1)
  | some '-' => ({ h with chomp := .strip }, c.skip 1)
  | _ => (h, c)

/-- Takes a digit of how far a block is indented, if one leads; it is not zero. -/
def takeIncrement (h : BlockHeader) (c : Cursor) : Option (BlockHeader × Cursor) :=
  match c.head? with
  | some d =>
    if d == '0' then none
    else if d.isDigit then some ({ h with increment := some (d.toNat - 48) }, c.skip 1)
    else some (h, c)
  | none => some (h, c)

/-- Reads a header, at most one mark of either kind in either order, and its line, which may
end in a comment. -/
def read? (c : Cursor) : Option (BlockHeader × Cursor) := do
  let start : BlockHeader := {}
  let (h, d) ← (
    match c.head? with
    | some '+' | some '-' =>
      let (h, c) := start.takeChomp c
      h.takeIncrement c
    | _ => do
      let (h, c) ← start.takeIncrement c
      return if h.increment.isSome then h.takeChomp c else (h, c))
  if !atBlank d.rest then none
  else
    let d := d.skipSpaces.skipComment
    if atLineEnd d.rest then return (h, d.skipBreak) else none

end BlockHeader

/-- The empty lines before a block whose indentation is not stated: the column in which the
first of them breaks, the widest indentation met, and the breaks, reversed. -/
structure Lead where
  first : Option Nat := none
  widest : Nat := 0
  breaks : List Char := []

namespace Lead

def addBreak (l : Lead) (column : Nat) (c : Char) : Lead :=
  { l with first := some (l.first.getD column), breaks := breakChar c :: l.breaks }

/-- Reads the empty lines and the indentation of the line behind them. -/
def read (l : Lead) (p : Position) : List Char → Lead × Cursor
  | [] => (l, ⟨[], p⟩)
  | '\r' :: '\n' :: rest => read (l.addBreak p.column '\n') p.pastPair rest
  | c :: rest =>
    if c == ' ' then
      let p := p.past c
      read { l with widest := max l.widest p.column } p rest
    else if isBreak c then read (l.addBreak p.column c) (p.past c) rest
    else (l, ⟨c :: rest, p⟩)

/-- Whether a line is indented further than the first empty one, which is not allowed if that is
indented at all. -/
def isUneven (l : Lead) : Bool := l.first.any fun n => 0 < n && n < l.widest

end Lead

/-- A block as far as it was read. All texts are reversed: that of the finished lines, the
break behind the last of them, and the breaks of the empty lines behind that. -/
structure BlockText where
  done : List Char := []
  lastBreak : List Char := []
  emptyLines : List Char := []
  inLine : Bool := false
  startsBlank : Bool := false
  begun : Bool := false

namespace BlockText

/-- Starts another line with its first character. In a folded block a single break between
two lines that do not begin with white space stands for a space. -/
def startLine (folded : Bool) (b : BlockText) (c : Char) : BlockText :=
  let between :=
    if folded && b.begun && !b.startsBlank && !isSpace c then
      if b.emptyLines.isEmpty then [' '] else b.emptyLines
    else b.emptyLines ++ b.lastBreak
  { done := c :: (between ++ b.done), inLine := true, startsBlank := isSpace c, begun := true }

def addBreak (b : BlockText) (c : Char) : BlockText :=
  if b.inLine then { b with lastBreak := [breakChar c], inLine := false }
  else { b with emptyLines := breakChar c :: b.emptyLines }

def text (chomp : Chomp) (b : BlockText) : String :=
  String.ofList (match chomp with
    | .strip => b.done
    | .clip => b.lastBreak ++ b.done
    | .keep => b.emptyLines ++ (b.lastBreak ++ b.done)).reverse

/-- Reads the lines of a block that are indented by `indent`. Where they need no indentation a
mark that divides documents ends the block, unless it is the first line. -/
def read (folded : Bool) (least indent : Nat) :
    BlockText → Position → List Char → BlockText × Cursor
  | b, p, [] => (b, ⟨[], p⟩)
  | b, p, '\r' :: '\n' :: rest => read folded least indent (b.addBreak '\n') p.pastPair rest
  | b, p, c :: rest =>
    if b.inLine then
      if endsLine c then read folded least indent (b.addBreak c) (p.past c) rest
      else read folded least indent { b with done := c :: b.done } (p.past c) rest
    else if p.column < indent && c == ' ' then
      read folded least indent b (p.past c) rest
    else if isBreak c then read folded least indent (b.addBreak c) (p.past c) rest
    else if p.column != indent ||
        (least == 0 && b.begun && p.column == 0 && atDivider (c :: rest)) then
      (b, ⟨c :: rest, p⟩)
    else read folded least indent (b.startLine folded c) (p.past c) rest

end BlockText

/-- Reads a block behind its mark. `least` is how far it has to be indented. -/
def blockText (folded : Bool) (least : Nat) (c : Cursor) : Option (String × Cursor) := do
  let (header, c) ← BlockHeader.read? c
  match header.increment with
  | some n =>
    let least := max least 1
    let (b, c) := BlockText.read folded least (least + n - 1) {} c.position c.rest
    return (b.text header.chomp, c)
  | none =>
    let (lead, c) := Lead.read {} c.position c.rest
    if lead.isUneven then none
    else
      let start : BlockText := { emptyLines := lead.breaks }
      let (b, c) := BlockText.read folded least (max lead.widest least) start c.position c.rest
      return (b.text header.chomp, c)

end FilterCompiler.Markup
