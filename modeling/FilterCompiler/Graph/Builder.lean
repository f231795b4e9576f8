import FilterCompiler.Fault

/-! Building conditions part by part. A node that compares something with values takes them as a
tuple, which may not be empty; a chain of conditions becomes nested pairs, the first two
innermost. -/

namespace FilterCompiler.Graph

/-- The tuple of the values in a collection. A tuple is taken as it is. -/
def tuple (g : Graph) (tag : String) (values : Operand) : Except Fault (Operand × Graph) :=
  match g.elements? values with
  | none => .error (.notIterable (g.kind values))
  | some [] => .error (.nothingToCompare tag)
  | some items =>
    match g.part? values with
    | some (.tuple _) => .ok (values, g)
    | _ => .ok (g.add (.tuple items))

/-- Adds a node that compares something with the values in a collection. -/
def addMembership (g : Graph) (make : Operand → Operand → Node) (tag : String)
    (operand values : Operand) : Except Fault (Operand × Graph) :=
  (g.tuple tag values).map fun (values, g) => g.add (.node (make operand values))

/-- Adds the nodes that join two conditions and any more. -/
def addChain (g : Graph) (make : Operand → Operand → Node) (left right : Operand)
    (more : List Operand) : Operand × Graph :=
  more.foldl (fun (x, g) y => g.add (.node (make x y))) (g.add (.node (make left right)))

/-- The tuple has the values of the collection, and there is one at least. -/
theorem elements?_of_tuple {g G : Graph} {tag : String} {values row : Operand}
    (h : g.tuple tag values = .ok (row, G)) :
    G.elements? row = g.elements? values ∧ G.elements? row ≠ some [] := by
  unfold tuple at h
  split at h
  · cases h
  · cases h
  · next items hne hitems =>
    split at h
    · cases h
      exact ⟨rfl, hitems ▸ by simpa using hne⟩
    · obtain ⟨rfl, rfl⟩ := Prod.mk.inj (Except.ok.inj h)
      have hrow : Graph.elements? ⟨g.parts.push (.tuple items)⟩ (.part g.parts.size) =
          some items := by
        simp [elements?, part?, get?]
      rw [hrow, hitems]
      exact ⟨rfl, by simpa using hne⟩

/-- The last condition of a chain stands beside the chain before it. -/
theorem addChain_concat (g : Graph) (make : Operand → Operand → Node) (left right : Operand)
    (more : List Operand) (last : Operand) :
    g.addChain make left right (more ++ [last]) =
      (g.addChain make left right more).2.add
        (.node (make (g.addChain make left right more).1 last)) := by
  simp [addChain]

end FilterCompiler.Graph
