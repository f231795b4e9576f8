import FilterCompiler.Json.Reader
import FilterCompiler.Text.Decoded

/-! The encoding of JSON texts. As a text begins with two characters of ASCII, the zeros among
its first bytes tell how many bytes a character has and which of them comes first; a mark of
the byte order in front may tell it too, and does not belong to the text. -/

namespace FilterCompiler.Json

inductive Encoding where
  | utf8
  | utf16 (bigFirst : Bool)
  | utf32 (bigFirst : Bool)
deriving DecidableEq, Repr

namespace Encoding

open Reader (Refusal isHighHalf isLowHalf charOf? pairOf)

/-- The encoding of a text that begins with some bytes, of which at most four are given. -/
def ofFront : List UInt8 → Encoding
  | [0xff, 0xfe, 0, 0] => .utf32 false
  | 0xff :: 0xfe :: _ => .utf16 false
  | 0xfe :: 0xff :: _ => .utf16 true
  | [a, b, c, d] =>
    if a = 0 then (if b = 0 then .utf32 true else .utf16 true)
    else if b = 0 then (if c = 0 ∧ d = 0 then .utf32 false else .utf16 false)
    else .utf8
  | [a, b] => if a = 0 then .utf16 true else if b = 0 then .utf16 false else .utf8
  | _ => .utf8

def pair (bigFirst : Bool) (a b : UInt8) : Nat :=
  if bigFirst then a.toNat * 256 + b.toNat else b.toNat * 256 + a.toNat

def pairs? (bigFirst : Bool) (acc : List Nat) : List UInt8 → Option (List Nat)
  | a :: b :: rest => pairs? bigFirst (pair bigFirst a b :: acc) rest
  | [_] => none
  | [] => some acc.reverse

def fours? (bigFirst : Bool) (acc : List Nat) : List UInt8 → Option (List Nat)
  | a :: b :: c :: d :: rest =>
    let x := pair bigFirst a b
    let y := pair bigFirst c d
    fours? bigFirst ((if bigFirst then x * 65536 + y else y * 65536 + x) :: acc) rest
  | [] => some acc.reverse
  | _ => none

/-- The characters of codes of two bytes, of which two may make up one. -/
def joined (acc : List Char) : List Nat → Except Refusal (List Char)
  | high :: low :: rest =>
    if isHighHalf high && isLowHalf low then joined (pairOf high low :: acc) rest
    else
      match charOf? high with
      | some c => joined (c :: acc) (low :: rest)
      | none => .error .halfPair
  | [n] =>
    match charOf? n with
    | some c => .ok (c :: acc).reverse
    | none => .error .halfPair
  | [] => .ok acc.reverse

/-- The characters of codes of four bytes. -/
def separate (codes : List Nat) : Except Refusal (List Char) :=
  if codes.any (0x110000 ≤ ·) then .error .unsupported
  else
    match codes.mapM charOf? with
    | some s => .ok s
    | none => .error .halfPair

def text (e : Encoding) (content : ByteArray) : Except Refusal (List Char) :=
  match e with
  | .utf8 =>
    match String.fromUTF8? content with
    | some s => .ok s.toList
    | none => .error .unsupported
  | .utf16 bigFirst =>
    match pairs? bigFirst [] content.toList with
    | some codes => joined [] codes
    | none => .error .unsupported
  | .utf32 bigFirst =>
    match fours? bigFirst [] content.toList with
    | some codes => separate codes
    | none => .error .unsupported

end Encoding

def decode (content : ByteArray) : Except Reader.Refusal String :=
  let front := (content.extract 0 4).toList
  ((Encoding.ofFront front).text content).map fun s => String.ofList (Text.withoutMark s)

end FilterCompiler.Json
