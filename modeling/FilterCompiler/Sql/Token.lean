import FilterCompiler.Text.Blank
import FilterCompiler.Text.Quoted

/-! Tokens of SQL. What a quotation mark means, what starts a comment and what may stand in a
word is a matter of the dialect; everything else is common. A text with a quotation or a comment
that never ends has no tokens. A comment counts only where it belongs to a semicolon. -/

namespace FilterCompiler.Sql

/-- A token. A semicolon is noted if a comment belongs to it. -/
inductive Token where
  | word (letters : String)
  | name (content : String)
  | text (content : String)
  | number (digits : String)
  | sign (characters : String)
  | semicolon (noted : Bool)
deriving DecidableEq, Repr

/-- What dialects write differently. Texts may have letters before their opening mark, some of
which make a backslash mean something. -/
structure Rules where
  nameMarks : List (Char × Char)
  textMarks : List Char
  escapes : Bool := false
  textLetters : List (Char × Bool) := [('N', false)]
  lineComments : List String := ["--"]
  nestedComments : Bool := true
  innerSigns : List Char := []
  digitsBeginWords : Bool := false
  longSigns : List String := []
  reserved : List String := []
  hints : List String := []
  textAliases : Bool := false
  limitAtHead : Bool := false
  hashedNames : Bool := false

namespace Rules

/-- Texts with letters before them, which may have escapes. -/
def postgres : Rules where
  nameMarks := [('"', '"')]
  textMarks := ['\'']
  textLetters := [('N', false), ('B', false), ('X', false), ('E', true)]
  innerSigns := ['$']
  longSigns := ["||/", "@@", "@>", "<@", "?&", "?|", "#-", "|/"]
  reserved := ["ONLY", "VARIADIC", "INOUT"]

/-- Names between backticks, texts between either kind of quotes and with escapes. -/
def mysql : Rules where
  nameMarks := [('\x60', '\x60')]
  textMarks := ['\'', '"']
  escapes := true
  textLetters := [('N', true), ('B', true), ('X', true)]
  lineComments := ["--", "#"]
  nestedComments := false
  digitsBeginWords := true
  longSigns := ["@@"]
  reserved := ["DISTINCTROW", "SEPARATOR"]
  hints := ["USE", "FORCE", "IGNORE"]
  textAliases := true

/-- Names also between brackets or with hashes before them, and a limit at the head of a
statement. -/
def sqlserver : Rules where
  nameMarks := [('"', '"'), ('[', ']')]
  textMarks := ['\'']
  innerSigns := ['@', '$', '#']
  reserved := ["OPTION", "OUTPUT", "DECLARE"]
  textAliases := true
  limitAtHead := true
  hashedNames := true

end Rules

namespace Token

/-- The signs of several characters, of two that begin alike the longer one first. -/
def longSigns : List String :=
  ["<=>", "->>", "<->", "~~~", "~~*", "#>>", "->", "=>", "#>", "<>", "<=", ">=", "!=", "==", "||",
   "::", ":=", "&&", "??", "~~", "~*", "|>"]

/-- The signs of one character. A quotation mark that is none in a dialect is a sign too. -/
def shortSigns : List Char := "()[]\x7b\x7d&^:,-.=><%!/;\\*~|+?@#$'\"\x60".toList

/-- Pairs of words that are one token. -/
def pairs : List (String × String) :=
  [("GROUP", "BY"), ("ORDER", "BY"), ("PARTITION", "BY"), ("CLUSTER", "BY"), ("DISTRIBUTE", "BY"),
   ("SORT", "BY"), ("CONNECT", "BY"), ("START", "WITH"), ("PRIMARY", "KEY"), ("FOREIGN", "KEY"),
   ("GROUPING", "SETS"), ("SIMILAR", "TO"), ("CHARACTER", "SET")]

def isInWord (r : Rules) (c : Char) : Bool :=
  !Text.isBlank c && (!shortSigns.contains c || r.innerSigns.contains c)

/-- How far the reading of a number has come: whether there was a point, and whether there was an
exponent and a sign in it. -/
structure Digits where
  pointed : Bool := false
  scaled : Bool := false
  signed : Bool := false

/-- The characters of a number, behind those of `acc`, which holds them with the last one
first, and what follows them. A sign belongs to an exponent if a digit follows. -/
def numberHead (d : Digits) (acc : List Char) : List Char → List Char × List Char
  | c :: rest =>
    if c.isDigit then numberHead d (c :: acc) rest
    else if c == '.' && !d.pointed then numberHead { d with pointed := true } (c :: acc) rest
    else if (c == '+' || c == '-') && d.scaled && !d.signed && rest.head?.any Char.isDigit then
      numberHead { d with signed := true } (c :: acc) rest
    else if (c == 'e' || c == 'E') && !d.scaled then
      numberHead { d with scaled := true } (c :: acc) rest
    else (acc.reverse, c :: rest)
  | [] => (acc.reverse, [])

/-- Whether a character is a letter or stands for one. -/
def isLetter (c : Char) : Bool := c.isAlpha || c == '_' || 128 ≤ c.toNat

/-- The number that a text begins with, and what follows it. Where words may begin with digits,
a letter right behind the number makes it a word. -/
def numeric (r : Rules) (s : List Char) : Token × List Char :=
  let (digits, rest) := numberHead {} [] s
  let letters := rest.takeWhile fun c => !Text.isBlank c && !shortSigns.contains c
  if r.digitsBeginWords && letters.head?.any isLetter then
    (word (String.ofList (digits ++ letters)), rest.drop letters.length)
  else (number (String.ofList digits), rest)

/-- What follows the end of a comment between `/*` and `*/`, inside `depth` others. -/
def behindComment (nested : Bool) : Nat → List Char → Option (List Char)
  | _, [] => none
  | 0, '*' :: '/' :: rest => some rest
  | depth, c :: rest =>
    let depth := if c = '*' ∧ rest.head? = some '/' then depth - 1 else depth
    match rest with
    | '/' :: '*' :: more =>
      if nested then behindComment nested (depth + 1) more
      else behindComment nested depth ('/' :: '*' :: more)
    | rest => behindComment nested depth rest

def quoted? (escapes : Bool) (mark : Char) (s : List Char) : Option (String × List Char) :=
  (Text.Quoted.scan? escapes mark [] s).map fun (content, rest) => (String.ofList content, rest)

/-- Whether a backslash means something in a text that begins with letters and a mark. -/
def lettered? (r : Rules) (s : List Char) : Option Bool :=
  match s with
  | c :: mark :: _ => if r.textMarks.contains mark then r.textLetters.lookup c.toUpper else none
  | _ => none

/-- The word or sign that a text begins with, and what follows it. -/
def plain (r : Rules) (c : Char) (rest : List Char) : Token × List Char :=
  match (r.longSigns ++ longSigns).find? fun t => t.toList.isPrefixOf (c :: rest) with
  | some t => (sign t, (c :: rest).drop t.length)
  | none =>
    if shortSigns.contains c then (sign (String.singleton c), rest)
    else
      let letters := rest.takeWhile (isInWord r)
      (word (String.ofList (c :: letters)), rest.drop letters.length)

/-- The first token of a text that begins with no blank and no comment, and what follows
it. -/
def first? (r : Rules) (s : List Char) : Option (Token × List Char) :=
  match s with
  | [] => none
  | ';' :: rest => some (semicolon false, rest)
  | c :: rest =>
    match r.nameMarks.lookup c, lettered? r s with
    | some closing, _ => (quoted? false closing rest).map fun (t, rest) => (name t, rest)
    | none, some escapes =>
      (quoted? escapes (rest.headD ' ') rest.tail).map fun (t, rest) => (text t, rest)
    | none, none =>
      if r.textMarks.contains c then
        (quoted? r.escapes c rest).map fun (t, rest) => (text t, rest)
      else if c.isDigit then some (numeric r s)
      else some (plain r c rest)

/-! ### Scanning -/

/-- The tokens so far, the last one first; whether the last one ends on the line that is being
read; and whether there was a comment that belongs to no token yet. -/
structure Scan where
  tokens : List Token := []
  near : Bool := false
  pending : Bool := false

namespace Scan

/-- Notes a comment on the last token, which matters for a semicolon only. -/
def noted : List Token → List Token
  | semicolon _ :: rest => semicolon true :: rest
  | ts => ts

/-- A comment belongs to the token before it on its line, or else to the one behind it. -/
def comment (s : Scan) : Scan :=
  if s.near then { s with tokens := noted s.tokens } else { s with pending := true }

/-- Adds a token. Two words that make one token are put together, and a comment in front of a
semicolon belongs to the token before. -/
def add (s : Scan) (t : Token) : Scan :=
  match t, s.tokens with
  | semicolon _, [] => ⟨[semicolon s.pending], true, false⟩
  | semicolon _, ts => ⟨semicolon false :: (if s.pending then noted ts else ts), true, false⟩
  | word b, word a :: ts =>
    if pairs.contains (a.toUpper, b.toUpper) then ⟨word (a ++ " " ++ b) :: ts, true, false⟩
    else ⟨t :: s.tokens, true, false⟩
  | t, ts => ⟨t :: ts, true, false⟩

/-- All tokens, the first one first. -/
def finish (s : Scan) : List Token :=
  (if s.pending then noted s.tokens else s.tokens).reverse

end Scan

def isBreak (c : Char) : Bool := c == '\n' || c == '\r'

/-- Reads the tokens of a text. Every step takes a character at least, so `fuel` need not
exceed the length. -/
def readFrom (r : Rules) : Nat → Scan → List Char → Option (List Token)
  | _, scan, [] => some scan.finish
  | 0, _, _ => none
  | fuel + 1, scan, c :: rest =>
    if Text.isBlank c then readFrom r fuel { scan with near := scan.near && !isBreak c } rest
    else if r.lineComments.any fun t => t.toList.isPrefixOf (c :: rest) then
      readFrom r fuel scan.comment (rest.dropWhile (!isBreak ·))
    else if c == '/' && rest.head? == some '*' then
      match behindComment r.nestedComments 0 rest.tail with
      | some rest => readFrom r fuel scan.comment rest
      | none => none
    else
      match first? r (c :: rest) with
      | some (t, rest) => readFrom r fuel (scan.add t) rest
      | none => none

def ofText? (r : Rules) (s : String) : Option (List Token) :=
  readFrom r s.length {} s.toList

/-- Whether a token is a word, whatever the case of its letters. -/
def isWord (w : String) : Token → Bool
  | word letters => letters.toUpper == w
  | _ => false

end Token

end FilterCompiler.Sql
