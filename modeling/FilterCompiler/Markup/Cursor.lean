/-! Cursors over a markup text: what is left of it and where that starts. Five characters
break lines; only two of them start a new line in the count of lines and columns, the others
pass for characters of the line they stand on. The mark of byte order takes no column. -/

namespace FilterCompiler.Markup

/-- A place in a text: characters before it, lines before it, and columns before it on its
line. -/
structure Position where
  index : Nat := 0
  line : Nat := 0
  column : Nat := 0
deriving DecidableEq, Repr, Inhabited

structure Cursor where
  rest : List Char
  position : Position := {}
deriving Inhabited

/-! ### Characters -/

def isBreak (c : Char) : Bool :=
  c == '\n' || c == '\r' || c == '\u0085' || c == '\u2028' || c == '\u2029'

/-- Whether a character starts a new line in the count of lines. -/
def startsLine (c : Char) : Bool := c == '\n' || c == '\r'

/-- Whether a character ends a comment or a line of a block. -/
def endsLine (c : Char) : Bool := startsLine c || c == '\u0085'

def isSpace (c : Char) : Bool := c == ' ' || c == '\t'

/-- Whether a character ends a word. -/
def isGap (c : Char) : Bool := isSpace c || endsLine c

/-- Whether a text is at an end of words: at its own end or at a character that ends one. -/
def atGap : List Char → Bool
  | [] => true
  | c :: _ => isGap c

def atLineEnd : List Char → Bool
  | [] => true
  | c :: _ => endsLine c

/-- Whether a text is at its end, at a space or at a break. -/
def atBlank : List Char → Bool
  | [] => true
  | c :: _ => c == ' ' || isBreak c

def isAllowed (c : Char) : Bool :=
  let n := c.toNat
  n == 0x9 || n == 0xa || n == 0xd || n == 0x85 || (0x20 ≤ n && n ≤ 0x7e) ||
    (0xa0 ≤ n && n ≤ 0xd7ff) || (0xe000 ≤ n && n ≤ 0xfffd) || 0x10000 ≤ n

/-- The character that a break stands for: the two separators stand for themselves, all
others for a line feed. -/
def breakChar (c : Char) : Char := if c == '\u2028' || c == '\u2029' then c else '\n'

/-- Whether a mark of three characters that divides documents stands here. -/
def atDivider (s : List Char) : Bool :=
  match s with
  | a :: b :: c :: rest => (a == '-' || a == '.') && a == b && b == c && atGap rest
  | _ => false

/-! ### Moving on -/

def Position.past (p : Position) (c : Char) : Position :=
  if startsLine c then ⟨p.index + 1, p.line + 1, 0⟩
  else ⟨p.index + 1, p.line, if c == '\ufeff' then p.column else p.column + 1⟩

/-- The place behind a line break of two characters. -/
def Position.pastPair (p : Position) : Position := ⟨p.index + 2, p.line + 1, 0⟩

/-- The place behind so many characters of one column each. -/
def Position.right (p : Position) (count : Nat) : Position :=
  ⟨p.index + count, p.line, p.column + count⟩

namespace Cursor

def head? (c : Cursor) : Option Char := c.rest.head?

/-- The cursor behind so many characters of one column each. -/
def skip (c : Cursor) (count : Nat) : Cursor := ⟨c.rest.drop count, c.position.right count⟩

/-- The characters at a cursor that are all of a class, which holds no line break, and the
cursor behind them. -/
def takeWhile (p : Char → Bool) (c : Cursor) : List Char × Cursor :=
  let (found, rest) := c.rest.span p
  (found, ⟨rest, found.foldl Position.past c.position⟩)

def skipSpaces (c : Cursor) : Cursor := (c.takeWhile (· == ' ')).2

/-- The cursor behind the line break that it stands at, if it stands at one. -/
def skipBreak (c : Cursor) : Cursor :=
  match c.rest with
  | '\r' :: '\n' :: rest => ⟨rest, c.position.pastPair⟩
  | d :: rest => if isBreak d then ⟨rest, c.position.past d⟩ else c
  | [] => c

/-- The cursor behind the comment that it stands at, if it stands at one. -/
def skipComment (c : Cursor) : Cursor :=
  if c.head? == some '#' then (c.takeWhile fun d => !endsLine d).2 else c

end Cursor

end FilterCompiler.Markup
