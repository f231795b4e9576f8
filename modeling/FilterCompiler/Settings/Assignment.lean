import FilterCompiler.NameTable
import FilterCompiler.Text.Blank

/-! Files of assignments, one `NAME=value` a line, with `export` before the name if one
likes. A value is bare, up to the end of the line or a comment, or between quotes, where
it may go on over several lines. A name alone takes its value away again. A line that is no
assignment is skipped. Values may refer to names in the environment and further up. -/

namespace FilterCompiler.Settings.Assignment

def isBreak (c : Char) : Bool := c == '\n' || c == '\r'

/-- A blank that does not end a line. -/
def isInlineBlank (c : Char) : Bool := Text.isBlank c && !isBreak c

def skipBlanks (s : List Char) : List Char := s.dropWhile isInlineBlank

def behindLine (s : List Char) : List Char :=
  match s.dropWhile (!isBreak ·) with
  | '\r' :: '\n' :: rest | _ :: rest => rest
  | [] => []

/-- What a letter behind a backslash stands for between double quotes. -/
def escape? : Char → Option Char
  | '\\' => some '\\'
  | '\'' => some '\''
  | '"' => some '"'
  | 'a' => some '\x07'
  | 'b' => some '\x08'
  | 'f' => some '\x0c'
  | 'n' => some '\n'
  | 'r' => some '\r'
  | 't' => some '\t'
  | 'v' => some '\x0b'
  | _ => none

/-- What a letter behind a backslash stands for between quotes of a kind. -/
def escapeIn? (mark c : Char) : Option Char :=
  if mark = '"' then escape? c else if c = '\\' ∨ c = '\'' then some c else none

/-- A text with its escapes replaced, behind `acc`, which holds characters with the last one
first. -/
def unescaped (mark : Char) : List Char → List Char → List Char
  | acc, '\\' :: c :: rest =>
    match escapeIn? mark c with
    | some d => unescaped mark (d :: acc) rest
    | none => unescaped mark ('\\' :: acc) (c :: rest)
  | acc, c :: rest => unescaped mark (c :: acc) rest
  | acc, [] => acc.reverse

/-- Reads on behind an opening quote: what stands before the closing one, and what follows
it. A character behind a backslash closes nothing. -/
def quoted? (mark : Char) : List Char → List Char → Option (List Char × List Char)
  | acc, '\\' :: c :: rest => quoted? mark (c :: '\\' :: acc) rest
  | acc, c :: rest => if c = mark then some (acc.reverse, rest) else quoted? mark (c :: acc) rest
  | _, [] => none

/-- A bare value: a comment behind a blank does not belong to it, nor do blanks at its end. -/
def bare : List Char → List Char → List Char
  | acc, c :: rest =>
    if c = '#' ∧ acc.head?.any Text.isBlank then bare acc [] else bare (c :: acc) rest
  | acc, [] => (acc.dropWhile Text.isBlank).reverse

/-- The value behind an equals sign, and what follows it. -/
def value? (s : List Char) : Option (List Char × List Char) :=
  match s with
  | [] => some ([], [])
  | c :: rest =>
    if c = '\'' ∨ c = '"' then
      (quoted? c [] rest).map fun (v, rest) => (unescaped c [] v, rest)
    else some (bare [] (s.takeWhile (!isBreak ·)), s.dropWhile (!isBreak ·))

/-- What follows `export` and blanks. -/
def behindExport (s : List Char) : List Char :=
  if "export".toList.isPrefixOf s && ((s.drop 6).head?.any isInlineBlank) then
    skipBlanks (s.drop 6)
  else s

def name? (s : List Char) : Option (List Char × List Char) :=
  match s with
  | '\'' :: rest =>
    match rest.span (· != '\'') with
    | (n, _ :: rest) => if n.isEmpty then none else some (n, rest)
    | _ => none
  | _ =>
    let (n, rest) := s.span fun c => !(c == '=' || c == '#' || Text.isBlank c)
    if n.isEmpty then none else some (n, rest)

/-- Whether nothing but blanks and a comment is left of a line, and what follows it. -/
def lineEnd? (s : List Char) : Option (List Char) :=
  let rest := skipBlanks s
  match rest with
  | [] => some []
  | c :: _ => if c == '#' || isBreak c then some (behindLine rest) else none

/-- The assignment that a text begins with, and what follows it. A name alone gives no
value. -/
def first? (s : List Char) : Option ((String × Option String) × List Char) := do
  let (n, rest) ← name? (behindExport s)
  match skipBlanks rest with
  | '=' :: rest =>
    let (v, rest) ← value? (skipBlanks rest)
    return ((String.ofList n, some (String.ofList v)), ← lineEnd? rest)
  | rest => return ((String.ofList n, none), ← lineEnd? rest)

/-- Reads assignments behind those of `acc`, which holds them with the last one first. Every
step takes a character at least, so `fuel` need not exceed the length. -/
def readFrom : Nat → List (String × Option String) → List Char → List (String × Option String)
  | 0, acc, _ => acc.reverse
  | fuel + 1, acc, s =>
    match s.dropWhile Text.isBlank with
    | [] => acc.reverse
    | c :: rest =>
      match first? (c :: rest) with
      | some (a, rest) => readFrom fuel (a :: acc) rest
      | none => readFrom fuel acc (behindLine (c :: rest))

def ofText (s : List Char) : List (String × Option String) := readFrom s.length [] s

/-! ### References -/

/-- A reference in a value: the name, what stands for a name that has no value, and what
follows the reference. -/
def reference? : List Char → Option (String × String × List Char)
  | '$' :: '\x7b' :: rest =>
    let (name, rest) := rest.span fun c => c != '\x7d' && c != ':'
    match rest with
    | '\x7d' :: rest => some (String.ofList name, "", rest)
    | ':' :: '-' :: rest =>
      match rest.span (· != '\x7d') with
      | (fallback, _ :: rest) => some (String.ofList name, String.ofList fallback, rest)
      | _ => none
    | _ => none
  | _ => none

/-- A value with its references replaced, behind `acc`, which holds characters with the last
one first. Every step takes a character at least, so `fuel` need not exceed the length. -/
def replaced (valueOf : String → String → String) : Nat → List Char → List Char → String
  | fuel + 1, acc, c :: rest =>
    match reference? (c :: rest) with
    | some (name, fallback, rest) =>
      replaced valueOf fuel ((valueOf name fallback).toList.reverse ++ acc) rest
    | none => replaced valueOf fuel (c :: acc) rest
  | _, acc, _ => String.ofList acc.reverse

/-- The value of a name in assignments, or else in the environment. A name that was assigned
without a value has the empty one. -/
def valueOf (environment : List (String × String)) (table : NameTable (Option String))
    (name fallback : String) : String :=
  match table.find? name with
  | some v => v.getD ""
  | none => (environment.lookup name).getD fallback

/-- The values of assignments. A value may refer to names in the assignments before it. -/
def table (environment : List (String × String)) (assignments : List (String × Option String)) :
    NameTable (Option String) :=
  assignments.foldl (fun known (name, v) =>
    let value := v.map fun v => replaced (valueOf environment known) v.length [] v.toList
    known.insert name value) []

end FilterCompiler.Settings.Assignment
