import FilterCompiler.Json
import FilterCompiler.NameTable

/-! The reader of JSON texts. A text that is no JSON is refused at the code point where
reading gave up: at a value or delimiter that is missing, at the opening quote of a string
without an end, at an escape or control character that may not stand in one, or at the
first character behind the value. The names `NaN`, `Infinity` and `-Infinity` are read as
numbers. -/

namespace FilterCompiler.Json.Reader

/-- Why a text is not read: no JSON at a position; JSON beyond what is supported, which
is nesting deeper than the limit or an integer with too many digits; or half of a pair of codes
on its own, which is no character. -/
inductive Refusal where
  | invalid (position : Nat)
  | unsupported
  | halfPair
deriving DecidableEq, Repr

/-- What is left of a text, and the position where it starts. -/
structure Cursor where
  position : Nat
  rest : List Char

/-- Some result, and where it ends. -/
abbrev Reads (α : Type) := Except Refusal (α × Cursor)

/-- The deepest nesting of arrays and objects. -/
def depthLimit : Nat := 900

def isSpace (c : Char) : Bool := c == ' ' || c == '\t' || c == '\n' || c == '\r'

def skip : Nat → List Char → Cursor
  | p, [] => ⟨p, []⟩
  | p, c :: rest => if isSpace c then skip (p + 1) rest else ⟨p, c :: rest⟩

def Cursor.skip (c : Cursor) : Cursor := Reader.skip c.position c.rest

/-- What a single letter behind a backslash stands for. -/
def escape? : Char → Option Char
  | '"' => some '"'
  | '\\' => some '\\'
  | '/' => some '/'
  | 'b' => some '\x08'
  | 'f' => some '\x0c'
  | 'n' => some '\n'
  | 'r' => some '\r'
  | 't' => some '\t'
  | _ => none

/-- Whether a code is the first half of a pair. -/
def isHighHalf (n : Nat) : Bool := 0xd800 ≤ n && n < 0xdc00

def isLowHalf (n : Nat) : Bool := 0xdc00 ≤ n && n < 0xe000

/-- The character of a code; half of a pair on its own is none. -/
def charOf? (n : Nat) : Option Char :=
  if isHighHalf n || isLowHalf n then none else some (Char.ofNat n)

def pairOf (high low : Nat) : Char :=
  Char.ofNat (0x10000 + (high - 0xd800) * 0x400 + (low - 0xdc00))

/-- Characters behind those of `acc`, which holds them with the last one first. -/
def push (acc : Option (List Char)) (c : Option Char) : Option (List Char) :=
  c.bind fun c => acc.map (c :: ·)

/-- Reads on inside a string that began at `start`. `acc` holds what was read, reversed, unless
there was half of a pair. -/
def string (start : Nat) : Nat → Option (List Char) → List Char → Reads String
  | _, _, [] => .error (.invalid start)
  | p, acc, '"' :: rest =>
    match acc with
    | some s => .ok (String.ofList s.reverse, ⟨p + 1, rest⟩)
    | none => .error .halfPair
  | _, _, ['\\'] => .error (.invalid start)
  | p, acc, '\\' :: 'u' :: a :: b :: c :: d :: '\\' :: 'u' :: a' :: b' :: c' :: d' :: e :: rest =>
    match Text.Hex.number? [a, b, c, d] with
    | none => .error (.invalid (p + 1))
    | some high =>
      if isHighHalf high then
        match Text.Hex.number? [a', b', c', d'] with
        | none => .error (.invalid (p + 7))
        | some low =>
          if isLowHalf low then
            string start (p + 12) (push acc (pairOf high low)) (e :: rest)
          else string start (p + 6) none ('\\' :: 'u' :: a' :: b' :: c' :: d' :: e :: rest)
      else string start (p + 6) (push acc (charOf? high))
        ('\\' :: 'u' :: a' :: b' :: c' :: d' :: e :: rest)
  | p, acc, '\\' :: 'u' :: a :: b :: c :: d :: e :: rest =>
    match Text.Hex.number? [a, b, c, d] with
    | none => .error (.invalid (p + 1))
    | some n => string start (p + 6) (push acc (charOf? n)) (e :: rest)
  | p, _, '\\' :: 'u' :: _ => .error (.invalid (p + 1))
  | p, acc, '\\' :: c :: rest =>
    match escape? c with
    | some d => string start (p + 2) (push acc d) rest
    | none => .error (.invalid p)
  | p, acc, c :: rest =>
    if c.toNat < 0x20 then .error (.invalid p) else string start (p + 1) (push acc c) rest

def digits (c : Cursor) : List Char × Cursor :=
  let (ds, rest) := c.rest.span Char.isDigit
  (ds, ⟨c.position + ds.length, rest⟩)

/-- The whole part of a number: one zero, or digits that do not begin with one. -/
def wholePart (c : Cursor) : List Char × Cursor :=
  match c.rest with
  | '0' :: rest => (['0'], ⟨c.position + 1, rest⟩)
  | _ => digits c

def fractionPart (c : Cursor) : List Char × Cursor :=
  match c.rest with
  | '.' :: rest =>
    match digits ⟨c.position + 1, rest⟩ with
    | ([], _) => ([], c)
    | found => found
  | _ => ([], c)

/-- An exponent, if there is one with digits. -/
def exponentPart (c : Cursor) : Option (Int × Cursor) :=
  match c.rest with
  | mark :: rest =>
    if mark == 'e' || mark == 'E' then
      let (negative, after) := Integer.takeSign rest
      let signs := rest.length - after.length
      match digits ⟨c.position + 1 + signs, after⟩ with
      | ([], _) => none
      | (ds, next) => some (Integer.signed negative (Integer.ofDigits ds), next)
    else none
  | [] => none

/-- A number whose sign was read. An integer is one without fraction and exponent. -/
def number (start : Nat) (negative : Bool) (c : Cursor) : Reads Json :=
  match wholePart c with
  | ([], _) => .error (.invalid start)
  | (whole, c) =>
    let (fraction, c) := fractionPart c
    match fraction, exponentPart c with
    | [], none =>
      if Integer.digitLimit < whole.length then .error .unsupported
      else .ok (.integer (Integer.signed negative (Integer.ofDigits whole)), c)
    | _, exponent =>
      let (e, c) := exponent.getD (0, c)
      .ok (.float (Binary64.ofScientific
        ⟨negative, Integer.ofDigits (whole ++ fraction), e - fraction.length⟩), c)

/-- The mark of the one not-a-number that JSON knows. -/
def nanMark : Nat := 1

/-- The names of values. -/
def names : List (List Char × Json) :=
  [("null".toList, .null), ("true".toList, .truth true), ("false".toList, .truth false),
    ("NaN".toList, .float (.nan nanMark)), ("Infinity".toList, .float (.infinity false)),
    ("-Infinity".toList, .float (.infinity true))]

/-- A value that is no array and no object. -/
def scalar (c : Cursor) : Reads Json :=
  match names.find? fun (name, _) => name.isPrefixOf c.rest with
  | some (name, v) => .ok (v, ⟨c.position + name.length, c.rest.drop name.length⟩)
  | none =>
    match c.rest with
    | '"' :: rest =>
      (string c.position (c.position + 1) (some []) rest).map fun (s, c) => (.text s, c)
    | '-' :: rest => number c.position true ⟨c.position + 1, rest⟩
    | _ => number c.position false c

/-- The name of an entry and the colon behind it. -/
def entryName (c : Cursor) : Reads String :=
  match c.rest with
  | '"' :: rest =>
    match string c.position (c.position + 1) (some []) rest with
    | .error e => .error e
    | .ok (name, c) =>
      let c := c.skip
      match c.rest with
      | ':' :: rest => .ok (name, Cursor.skip ⟨c.position + 1, rest⟩)
      | _ => .error (.invalid c.position)
  | _ => .error (.invalid c.position)

/-- What follows an item: whether the collection ends there, and where to read on. -/
def delimiter (closing : Char) (c : Cursor) : Reads Bool :=
  let c := c.skip
  match c.rest with
  | d :: rest =>
    if d = closing then .ok (true, ⟨c.position + 1, rest⟩)
    else if d = ',' then .ok (false, Cursor.skip ⟨c.position + 1, rest⟩)
    else .error (.invalid c.position)
  | [] => .error (.invalid c.position)

mutual

/-- A value at most `depth` levels deep. `fuel` bounds the steps. -/
def value : Nat → Nat → Cursor → Reads Json
  | 0, _, _ => .error .unsupported
  | fuel + 1, depth, c =>
    match c.rest with
    | '[' :: rest =>
      match depth with
      | 0 => .error .unsupported
      | depth + 1 =>
        let c := Cursor.skip ⟨c.position + 1, rest⟩
        match c.rest with
        | ']' :: rest => .ok (.array [], ⟨c.position + 1, rest⟩)
        | _ => items fuel depth [] c
    | '\x7b' :: rest =>
      match depth with
      | 0 => .error .unsupported
      | depth + 1 =>
        let c := Cursor.skip ⟨c.position + 1, rest⟩
        match c.rest with
        | '\x7d' :: rest => .ok (.object [], ⟨c.position + 1, rest⟩)
        | _ => entries fuel depth [] c
    | _ => scalar c

/-- The items of an array up to its end. `acc` holds those read, reversed. -/
def items : Nat → Nat → List Json → Cursor → Reads Json
  | 0, _, _, _ => .error .unsupported
  | fuel + 1, depth, acc, c =>
    match value fuel depth c with
    | .error e => .error e
    | .ok (v, c) =>
      match delimiter ']' c with
      | .error e => .error e
      | .ok (true, c) => .ok (.array (v :: acc).reverse, c)
      | .ok (false, c) => items fuel depth (v :: acc) c

def entries : Nat → Nat → List (String × Json) → Cursor → Reads Json
  | 0, _, _, _ => .error .unsupported
  | fuel + 1, depth, acc, c =>
    match entryName c with
    | .error e => .error e
    | .ok (name, c) =>
      match value fuel depth c with
      | .error e => .error e
      | .ok (v, c) =>
        match delimiter '\x7d' c with
        | .error e => .error e
        | .ok (true, c) => .ok (.object (NameTable.ofList ((name, v) :: acc).reverse), c)
        | .ok (false, c) => entries fuel depth ((name, v) :: acc) c

end

def read (depth : Nat) (s : List Char) : Except Refusal Json :=
  match value (2 * s.length + 2) depth (skip 0 s) with
  | .error e => .error e
  | .ok (v, c) =>
    let c := c.skip
    if c.rest.isEmpty then .ok v else .error (.invalid c.position)

end FilterCompiler.Json.Reader

namespace FilterCompiler

def Json.read (s : String) : Except Json.Reader.Refusal Json :=
  Json.Reader.read Json.Reader.depthLimit s.toList

-- Two halves are one character, and one of them is none.
example : Json.read "\"\\ud83d\\ude00\"" = .ok (.text "😀") := rfl

example : Json.read "\"\\ud83d\"" = .error .halfPair := rfl

end FilterCompiler
