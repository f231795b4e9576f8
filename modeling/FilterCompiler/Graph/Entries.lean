import FilterCompiler.Scope
import Std.Data.HashMap

/-! Entries of a record while it is put together. Keys are found by a code that keys which are
the same have in common, so a record of many entries takes no longer for each than one of
few. -/

namespace FilterCompiler

namespace Literal

/-- The code of a literal as a key: texts by their characters, numbers by what they measure,
and one code for all else. -/
def keyCode : Literal → UInt64
  | text s => hash s
  | v =>
    match v.measure? with
    | some (.finite x) => hash (x.negative, x.unit, x.twos, x.fives)
    | _ => 0

theorem keyCode_of_measure {a b : Literal} {x : Factored}
    (ha : a.measure? = some (.finite x)) (hb : b.measure? = some (.finite x)) :
    a.keyCode = b.keyCode := by
  have code {v : Literal} (h : v.measure? = some (.finite x)) :
      v.keyCode = hash (x.negative, x.unit, x.twos, x.fives) := by
    cases v <;> simp_all [keyCode, measure?]
  rw [code ha, code hb]

end Literal

def Operand.keyCode : Operand → UInt64
  | .lit v => v.keyCode
  | .part _ => 0

/-- Entries in order, and the numbers of those with a code. -/
structure Entries where
  rows : Array (Operand × Operand) := #[]
  places : Std.HashMap UInt64 (List Nat) := {}

namespace Entries

/-- The number of the entry with a key. -/
def place? (t : Entries) (g : Graph) (key : Operand) : Option Nat :=
  (t.places.getD key.keyCode []).find? fun i =>
    match t.rows[i]? with
    | some (k, _) => (g.sameKey nestingLimit k key).toOption == some true
    | none => false

def find? (t : Entries) (g : Graph) (key : Operand) : Option Operand :=
  (t.place? g key).bind fun i => t.rows[i]?.map Prod.snd

/-- Sets the value under a key, in its place if it has one, or else behind all others. -/
def insert (t : Entries) (g : Graph) (key value : Operand) : Entries :=
  match t.place? g key with
  | some i => { t with rows := t.rows.modify i fun e => (e.1, value) }
  | none =>
    let code := key.keyCode
    ⟨t.rows.push (key, value), t.places.insert code (t.rows.size :: t.places.getD code [])⟩

end Entries

end FilterCompiler
