import FilterCompiler.Fault
import FilterCompiler.Graph.Text

/-! Queries: an optional condition and an optional limit on the rows. A limit is a
natural number; that it is one is checked when the query is made. -/

namespace FilterCompiler

structure Query where
  condition : Operand := .lit .null
  limit : Operand := .lit .null
deriving DecidableEq, Repr, Inhabited

namespace Query

def checkLimit (g : Graph) : Operand → Except Fault Unit
  | .lit .null => .ok ()
  | .lit (.integer n) =>
    if n < 0 then
      match Integer.text? n with
      | some shown => .error (.negativeLimit shown)
      | none => .error .integerTooLong
    else .ok ()
  | x => .error (.limitNotInteger (g.kind x))

def make (g : Graph) (condition limit : Operand) : Except Fault Query :=
  (checkLimit g limit).map fun _ => ⟨condition, limit⟩

theorem checkLimit_eq_ok_iff {g : Graph} {limit : Operand} :
    checkLimit g limit = .ok () ↔
      limit = .lit .null ∨ ∃ n : Int, 0 ≤ n ∧ limit = .lit (.integer n) := by
  fun_cases checkLimit g limit with
  | case1 => simp
  | case2 n hn => simp [hn]
  | case3 n hn => simp [hn]
  | case4 n hn => simp [Int.not_lt.1 hn]
  | case5 x h h' =>
    simp only [reduceCtorEq, false_iff, not_or, not_exists, not_and]
    exact ⟨h, fun n _ => h' n⟩

end Query

end FilterCompiler
