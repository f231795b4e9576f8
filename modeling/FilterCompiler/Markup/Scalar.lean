import FilterCompiler.Markup.Refusal
import FilterCompiler.Markup.Stamp
import FilterCompiler.Markup.Token
import FilterCompiler.Number.Numeral
import FilterCompiler.Text.Base64
import FilterCompiler.Text.Case
import FilterCompiler.Text.Escaped

/-! Kinds of nodes, and what scalars stand for. The kind of a plain scalar is seen from its
text alone; a text that looks like nothing else is a text. What looks like a number or a
truth value depends on the version of the markup. -/

namespace FilterCompiler.Markup

/-- What a node stands for. The last three stand for nothing: the key that merges, the key that
gives a value, and what has a tag that nothing is known of. -/
inductive Kind where
  | null
  | truth
  | integer
  | float
  | text
  | moment
  | bytes
  | list
  | record
  | ordered
  | pairs
  | set
  | merge
  | value
  | unknown
deriving DecidableEq, Repr, Inhabited

namespace Kind

/-- The tags of the kinds, without what all of them begin with. -/
def names : List (String × Kind) :=
  [("null", null), ("bool", truth), ("int", integer), ("float", float), ("str", text),
    ("timestamp", moment), ("binary", bytes), ("seq", list), ("map", record), ("omap", ordered),
    ("pairs", pairs), ("set", set), ("merge", merge), ("value", value)]

/-- What the tags of the kinds begin with. -/
def tagBase : String := "tag:yaml.org,2002:"

def ofTag (tag : String) : Kind :=
  ((names.find? fun (name, _) => tagBase ++ name == tag).map Prod.snd).getD unknown

end Kind

/-! ### The form of numbers -/

def isSpacedDigit (c : Char) : Bool := c.isDigit || c == '_'

/-- Whether a text is made of one or more characters of a class. -/
def isRun (p : Char → Bool) (s : List Char) : Bool := !s.isEmpty && s.all p

/-- Digits of base ten, or of another base behind its mark; a sign may precede. -/
def looksInteger (s : List Char) : Bool :=
  s.head? != some '_' &&
    match (Integer.takeSign s).2 with
    | '0' :: 'b' :: ds => isRun (fun c => c == '0' || c == '1' || c == '_') ds
    | '0' :: 'o' :: ds => isRun (fun c => ('0' ≤ c && c ≤ '7') || c == '_') ds
    | '0' :: 'x' :: ds => isRun (fun c => (Text.Hex.value? c).isSome || c == '_') ds
    | ds => isRun isSpacedDigit ds

/-- An exponent; whether it needs a sign depends on what stands before it. -/
def looksExponent (signed : Bool) : List Char → Bool
  | mark :: rest =>
    let ds := (Integer.takeSign rest).2
    (mark == 'e' || mark == 'E') && isRun Char.isDigit ds &&
      (!signed || ds.length < rest.length)
  | [] => false

/-- Digits with a point or an exponent. A number that begins with its point has digits
behind it, and its exponent a sign. -/
def looksFraction (s : List Char) : Bool :=
  match s with
  | '.' :: rest =>
    let (ds, rest) := rest.span isSpacedDigit
    !ds.isEmpty && (rest.isEmpty || looksExponent true rest)
  | c :: _ =>
    c.isDigit &&
      match (s.span isSpacedDigit).2 with
      | '.' :: rest =>
        let rest := (rest.span isSpacedDigit).2
        rest.isEmpty || looksExponent false rest
      | rest => looksExponent false rest
  | [] => false

/-- A number with a fraction or exponent, an infinity or the not-a-number. -/
def looksFloat (s : List Char) : Bool :=
  let rest := (Integer.takeSign s).2
  looksFraction rest || [".inf", ".Inf", ".INF"].contains (String.ofList rest) ||
    [".nan", ".NaN", ".NAN"].contains (String.ofList s)

/-! ### The form of numbers in old markup -/

def colonParts (s : List Char) : List (List Char) :=
  ((String.ofList s).splitOn ":").map String.toList

/-- A number below sixty. -/
def isSixtieth : List Char → Bool
  | [c] => c.isDigit
  | [a, b] => '0' ≤ a && a ≤ '5' && b.isDigit
  | _ => false

/-- Numbers below sixty between colons, of which the first may be greater; `zero` tells whether
that one may begin with a zero. -/
def looksSixties (zero : Bool) (parts : List (List Char)) : Bool :=
  match parts with
  | (c :: first) :: more =>
    c.isDigit && (zero || c != '0') && first.all isSpacedDigit && !more.isEmpty &&
      more.all isSixtieth
  | _ => false

/-- An integer of old markup: digits after a zero are octal, and there may be sixtieths. -/
def looksOldInteger (s : List Char) : Bool :=
  let rest := (Integer.takeSign s).2
  let isOctal (c : Char) : Bool := ('0' ≤ c && c ≤ '7') || c == '_'
  s.head? != some '_' &&
    match rest with
    | '0' :: 'b' :: ds => isRun (fun c => c == '0' || c == '1' || c == '_') ds
    | '0' :: 'x' :: ds => isRun (fun c => (Text.Hex.value? c).isSome || c == '_') ds
    | ds => isRun isOctal ds || looksSixties false (colonParts ds) ||
        (ds.head?.any fun c => c.isDigit && c != '0') && ds.all isSpacedDigit

def looksSixtiesFraction (s : List Char) : Bool :=
  let (whole, fraction) := s.span (· != '.')
  !fraction.isEmpty && fraction.tail.all isSpacedDigit && looksSixties true (colonParts whole)

/-- A floating point number of old markup: one that begins with its point has no sign. -/
def looksOldFloat (s : List Char) : Bool :=
  let rest := (Integer.takeSign s).2
  let bare := rest.head? == some '.' && rest.length < s.length
  let special := [".inf", ".Inf", ".INF"].contains (String.ofList rest)
  if bare then special else looksFloat s || looksSixtiesFraction rest


/-! ### Kinds of plain scalars -/

def truthWords : List String := ["true", "True", "TRUE", "false", "False", "FALSE"]

def oldTruthWords : List String :=
  truthWords ++ ["y", "Y", "yes", "Yes", "YES", "n", "N", "no", "No", "NO",
    "on", "On", "ON", "off", "Off", "OFF"]

def withoutFinalBreak (s : List Char) : List Char :=
  if s.length != 1 && s.getLast? == some '\n' then s.dropLast else s

/-- The kind that a plain scalar is seen to be of in new or old markup. -/
def Kind.seen (old : Bool) (s : List Char) : Kind :=
  let s := withoutFinalBreak s
  let word := String.ofList s
  if (if old then oldTruthWords else truthWords).contains word then .truth
  else if (if old then looksOldFloat s else looksFloat s) then .float
  else if (if old then looksOldInteger s else looksInteger s) then .integer
  else if word == "<<" then .merge
  else if ["", "~", "null", "Null", "NULL"].contains word then .null
  else if Stamp.isSeen s then .moment
  else if word == "=" then .value
  else if ["!", "&", "*"].contains word then .unknown
  else .text

/-- The kind of a plain scalar. There are rules for two versions only. -/
def Kind.ofPlain (version : Version) (text : String) : Except Fault Kind :=
  if version = .usual then .ok (.seen false text.toList)
  else if version = .old then .ok (.seen true text.toList)
  else .error (.noEntry version.text)

/-! ### Values of scalars -/

/-- A text as a message shows it, cut off where it is too long. -/
def shown (s : List Char) : String :=
  String.ofList ((Text.Escaped.text (String.ofList s)).toList.take 200)

def integerIn (base : Nat) (s : List Char) : Except Fault Int :=
  match Numeral.integer base s with
  | .ok n => .ok n
  | .error .malformed => .error (.notInteger base (shown s))
  | .error (.tooLong digits) => .error (.integerTextTooLong digits)

/-- The number of parts that each count sixty of the next. -/
def ofSixties (parts : List Int) : Int := parts.foldl (fun n part => n * 60 + part) 0

def integerOf (version : Version) (text : String) : Except Fault Int := do
  let s := text.toList.filter (· != '_')
  if s.isEmpty then throw .emptyNumeral
  let (negative, rest) := Integer.takeSign s
  let n ← match rest with
    | '0' :: 'b' :: ds => integerIn 2 ds
    | '0' :: 'x' :: ds => integerIn 16 ds
    | '0' :: 'o' :: ds => integerIn 8 ds
    | ds =>
      if version != .old || ds = ['0'] then integerIn 10 ds
      else if ds.isEmpty then throw .emptyNumeral
      else if ds.head? = some '0' then integerIn 8 ds
      else if ds.contains ':' then do return ofSixties (← (colonParts ds).mapM (integerIn 10))
      else integerIn 10 ds
  return if negative then -n else n

def floatIn (mark : Nat) (s : List Char) : Except Fault Binary64 :=
  match Numeral.float? mark s with
  | some x => .ok x
  | none => .error (.notNumber (Text.Escaped.text (String.ofList s)))

/-- Adds up parts, the last one first, each counting `base` and the next sixty times as much. -/
def addSixties (mark : Nat) : Nat → Binary64 → List Binary64 → Except Fault Binary64
  | _, sum, [] => .ok sum
  | base, sum, x :: rest =>
    match Binary64.ofScaled false base 0 with
    | .infinity _ => .error .floatTooLarge
    | unit => addSixties mark (base * 60) (sum.add mark (x.mul mark unit)) rest

def floatOf (version : Version) (mark : Nat) (text : String) : Except Fault Binary64 := do
  let s := Text.smallChars false (text.toList.filter (· != '_'))
  if s.isEmpty then throw .emptyNumeral
  let (negative, rest) := Integer.takeSign s
  let signed (x : Binary64) : Binary64 := if negative then x.neg else x
  if rest = ".inf".toList then return .infinity negative
  else if rest = ".nan".toList then return .nan 0
  else if version = .usual then return signed (← floatIn mark rest)
  else if rest.contains ':' then do
    let parts ← (colonParts rest).mapM (floatIn mark)
    return signed (← addSixties mark 1 (.zero false) parts.reverse)
  else if 2 ≤ rest.count 'e' then throw .crowdedNumeral
  else return signed (← floatIn mark rest)

def truthOf (text : String) : Except Fault Bool :=
  let word := Text.smalls text
  if ["true", "yes", "y", "on"].contains word then .ok true
  else if ["false", "no", "n", "off"].contains word then .ok false
  else .error (.noEntry (Text.Escaped.text word))

def bytesOf? (text : String) : Option (List UInt8) :=
  if text.toList.all fun c => c.toNat < 0x80 then Text.Base64.bytes? text.toList else none

/-- The literal of a scalar; `mark` is given to a not-a-number that is not plainly written as
one. -/
def literalOf (version : Version) (mark : Nat) (kind : Kind) (text : String) : Reads Literal :=
  match kind with
  | .null => .ok .null
  | .truth => Reads.meaningful ((truthOf text).map .truth)
  | .integer => Reads.meaningful ((integerOf version text).map .integer)
  | .float => Reads.meaningful ((floatOf version mark text).map .float)
  | .text => .ok (.text text)
  | .bytes => (Reads.required (bytesOf? text)).map .bytes
  | .moment => do
    let stamp ← Reads.required (Stamp.read? (withoutFinalBreak text.toList))
    Reads.meaningful stamp.literal
  | _ => .error .malformed

end FilterCompiler.Markup
