import FilterCompiler.Dialect.Extension
import FilterCompiler.RawForm

/-! Readers of custom tags that an application may add to the raw form. -/

namespace FilterCompiler.RawForm

def argument (arguments : List Operand) (i : Nat) : Reading Operand :=
  match arguments[i]? with
  | some x => return x
  | none => throw (.raised "IndexError" "list index out of range")

def patternReader : TagReader := fun arguments _ value => do
  let v ← value (← argument arguments 0)
  let p ← value (← argument arguments 1)
  addNode (Dialect.patternNode v p)

def pairReader : TagReader := fun arguments condition _ => do
  let a ← condition (← argument arguments 0)
  let b ← condition (← argument arguments 1)
  addNode (Dialect.pairNode a b)

/-- A value between two others, itself read twice. -/
def betweenReader : TagReader := fun arguments _ value => do
  let low ← value (← argument arguments 0)
  let above ← addNode (.greaterThan low (← value (← argument arguments 1)))
  let high ← value (← argument arguments 0)
  let below ← addNode (.lessThan high (← value (← argument arguments 2)))
  addNode (.and above below)

end FilterCompiler.RawForm
