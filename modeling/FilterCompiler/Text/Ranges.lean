/-! Character classes given by a table of closed ranges of code points. A class
contains a character when one of its ranges does, so a table is read off a
standard's list and nothing about its order matters. -/

namespace FilterCompiler.Text

/-- A class of characters: closed ranges of code points. -/
abbrev Ranges := List (Nat × Nat)

namespace Ranges

def has (table : Ranges) (point : Nat) : Bool :=
  table.any fun range => range.1 ≤ point && point ≤ range.2

theorem has_iff {table : Ranges} {point : Nat} :
    table.has point = true ↔ ∃ range ∈ table, range.1 ≤ point ∧ point ≤ range.2 := by
  simp [has]

end Ranges

end FilterCompiler.Text
