import FilterCompiler.DefinitionFile.Problem
import FilterCompiler.Graph

/-! The shape of the data of a file: how many elements it has and how deep they lie, the
items of lists and the values of records counted once for each place they stand in. The
last of several elements is looked into first. -/

namespace FilterCompiler.DefinitionFile

/-- The elements right below an operand. -/
def children (g : Graph) (x : Operand) : List Operand :=
  match g.part? x with
  | some (.list items) => items
  | some (.record entries) | some (.ordered entries) => entries.map Prod.snd
  | _ => []

/-- Counts elements, each with its depth; at most `allowance` may come. -/
def measure (g : Graph) : Nat → List (Operand × Nat) → Except Problem Unit
  | _, [] => .ok ()
  | 0, _ :: _ => .error .tooMany
  | allowance + 1, (x, depth) :: rest =>
    if depthLimit < depth then .error .tooDeep
    else
      let below := (children g x).map fun y => (y, depth + 1)
      measure g allowance (below.reverse ++ rest)

def checkShape (g : Graph) (x : Operand) : Except Problem Unit := measure g countLimit [(x, 0)]

end FilterCompiler.DefinitionFile
