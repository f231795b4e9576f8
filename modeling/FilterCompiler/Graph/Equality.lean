import FilterCompiler.Fault
import FilterCompiler.Graph

/-! Equality of content. Two collections are the same when their items are, and an item is
the same as another when it is that item or their content is the same. So a not-a-number,
which differs even from itself, is the same item in two places that share it. A bound on the
nesting makes comparisons end on parts that hold themselves. -/

namespace FilterCompiler

namespace Literal

/-- Whether a literal refuses to be compared with numbers. -/
def isSignaling : Literal → Bool
  | decimal (.nan _ signaling ..) => signaling
  | _ => false

/-- Compares two literals; a signaling not-a-number can be told from texts and the like, but
not be compared with a number. -/
def compare (a b : Literal) : Except Fault Bool :=
  if (a.isSignaling && b.measure?.isSome) || (b.isSignaling && a.measure?.isSome) then
    .error .signalCompared
  else .ok (a.same b)

end Literal

namespace Graph

/-- The comparisons of the items in two collections. -/
abbrev Comparison := Operand → Operand → Except Fault Bool

/-- Compares two rows item by item; the first difference decides. -/
def sameAll (same : Comparison) : List Operand → List Operand → Except Fault Bool
  | [], [] => .ok true
  | x :: xs, y :: ys => do if ← same x y then sameAll same xs ys else return false
  | _, _ => .ok false

/-- The value under a key, by sameness of keys. -/
def lookup? (same : Comparison) (key : Operand) :
    List (Operand × Operand) → Except Fault (Option Operand)
  | [] => .ok none
  | (k, v) :: rest => do if ← same k key then return some v else lookup? same key rest

/-- Whether every entry has one with the same key and value in another record. -/
def sameEntries (same : Comparison) (others : List (Operand × Operand)) :
    List (Operand × Operand) → Except Fault Bool
  | [] => .ok true
  | (k, v) :: rest => do
    match ← lookup? same k others with
    | none => return false
    | some w => if ← same v w then sameEntries same others rest else return false

/-- Whether two records have the same entries, in whatever order. -/
def sameRecord (same : Comparison) (xs ys : List (Operand × Operand)) : Except Fault Bool :=
  if xs.length = ys.length then sameEntries same ys xs else .ok false

/-- Compares the content of two parts. Lists and records of different sizes differ whatever
they hold. -/
def samePart (same : Comparison) : Part → Part → Except Fault Bool
  | .node a, .node b =>
    if a.kind = b.kind then sameAll same a.arguments b.arguments else .ok false
  | .list xs, .list ys => if xs.length = ys.length then sameAll same xs ys else .ok false
  | .tuple xs, .tuple ys => sameAll same xs ys
  | .record xs, .record ys | .record xs, .ordered ys | .ordered xs, .record ys =>
    sameRecord same xs ys
  | .ordered xs, .ordered ys => do
    if ← sameRecord same xs ys then sameAll same (xs.map Prod.fst) (ys.map Prod.fst)
    else return false
  | .set xs, .set ys => sameRecord same (xs.map fun x => (x, x)) (ys.map fun y => (y, y))
  | _, _ => .ok false

/-- Whether two items are one item or the same by a comparison. -/
def orIdentical (same : Comparison) (x y : Operand) : Except Fault Bool :=
  if x = y then .ok true else same x y

/-- Whether two operands have the same content, comparing at most `depth` levels. -/
def same (g : Graph) : Nat → Comparison
  | 0, _, _ => .error .nestedTooDeep
  | depth + 1, x, y =>
    match x, y with
    | .lit a, .lit b => a.compare b
    | .part m, .part n =>
      match g.get? m, g.get? n with
      | some p, some q => samePart (orIdentical (g.same depth)) p q
      | _, _ => .ok false
    | _, _ => .ok false

/-- Whether an operand stands for the same key as another. -/
def sameKey (g : Graph) (depth : Nat) (x y : Operand) : Except Fault Bool :=
  orIdentical (g.same depth) x y

theorem sameKey_self (g : Graph) (depth : Nat) (x : Operand) :
    g.sameKey depth x x = .ok true := by
  simp [sameKey, orIdentical]

/-- What keeps an operand from being a key: a signaling not-a-number cannot be one, nor can
other collections than tuples; tuples and nodes can if all they hold can. -/
def keyFault? (g : Graph) : Nat → Operand → Option Fault
  | 0, _ => some .nestedTooDeep
  | depth + 1, x =>
    match x, g.part? x with
    | .lit v, _ => if v.isSignaling then some .signalHashed else none
    | _, none => none
    | _, some (.tuple items) => items.findSome? (g.keyFault? depth)
    | _, some (.node n) => n.arguments.findSome? (g.keyFault? depth)
    | _, some _ => some (.keyless (g.kind x))

end Graph

end FilterCompiler
