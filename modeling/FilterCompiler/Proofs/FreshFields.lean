import Mathlib.Algebra.Group.Nat.Defs
import FilterCompiler.Proofs.Expansion
import FilterCompiler.Proofs.Lookups

/-! Fresh fields. Numbers compare by value across all kinds of literals, so a literal is the same
as one natural number at most. Proved here: from some number on no number is among those of a field
map, so that fields with these numbers can be put behind it. -/

namespace FilterCompiler

/-! ### Numbers that compare by value -/

namespace Literal

theorem takeFactor_spec (factor tries n : Nat) :
    factor ^ (takeFactor factor tries n).1 * (takeFactor factor tries n).2 = n := by
  induction tries generalizing n with
  | zero => simp [takeFactor]
  | succ tries ih =>
    rw [takeFactor]
    split
    · next h =>
      dsimp only
      rw [Nat.pow_succ, Nat.mul_right_comm, ih, Nat.div_mul_cancel (Nat.dvd_of_mod_eq_zero h)]
    · simp

/-- The factors of a natural number tell what it is. -/
theorem Factored.of_injective {s t : Bool} {m n : Nat}
    (h : Factored.of s m 0 0 = Factored.of t n 0 0) : m = n := by
  have hvalue (s : Bool) (n : Nat) : 2 ^ (Factored.of s n 0 0).twos.toNat *
      (5 ^ (Factored.of s n 0 0).fives.toNat * (Factored.of s n 0 0).unit) = n := by
    unfold Factored.of
    split
    · next hzero => simp [hzero]
    · simp [takeFactor_spec]
  rw [← hvalue s m, ← hvalue t n, h]

theorem Factored.negative_of (s : Bool) (n : Nat) :
    (Factored.of s n 0 0).negative = (s && n != 0) := by
  unfold Factored.of
  split <;> simp_all

/-- Integers are the same literal only if they are equal. -/
theorem same_integer (a b : Int) : (integer a).same (integer b) = decide (a = b) := by
  have hsame : (integer a).same (integer b) = decide
      (Measure.finite (.of (a < 0) a.natAbs 0 0) = .finite (.of (b < 0) b.natAbs 0 0)) := rfl
  rw [hsame]
  refine decide_eq_decide.2 ⟨fun h => ?_, fun h => by rw [h]⟩
  have hfactored : Factored.of (a < 0) a.natAbs 0 0 = Factored.of (b < 0) b.natAbs 0 0 := by
    simpa using h
  have hsize := Factored.of_injective hfactored
  have hsign := congrArg Factored.negative hfactored
  rw [Factored.negative_of, Factored.negative_of, hsize, Bool.eq_iff_iff] at hsign
  simp only [Bool.and_eq_true, decide_eq_true_eq, bne_iff_ne, ne_eq, Int.natAbs_eq_zero] at hsign
  omega

theorem measure?_natCast (n : Nat) :
    (integer n).measure? = some (.finite (.of false n 0 0)) := by
  have hneg : ¬ (n : Int) < 0 := by omega
  simp [measure?, hneg]

theorem same_natCast (n : Nat) : (integer n).same (integer n) = true := by
  simp only [same, measure?_natCast, decide_true]

/-- A literal is the same as one natural number at most. -/
theorem eq_of_same {v : Literal} {m n : Nat} (hm : v.same (integer m) = true)
    (hn : v.same (integer n) = true) : m = n := by
  have hmeasure {n : Nat} (h : v.same (integer n) = true) :
      v.measure? = some (.finite (.of false n 0 0)) := by
    unfold same at h
    rw [measure?_natCast] at h
    cases hv : v.measure? with
    | none => simp [hv] at h
    | some x => cases x <;> simp_all
  have heq := (hmeasure hm).symm.trans (hmeasure hn)
  exact Factored.of_injective (by simpa using heq)

end Literal

/-! ### Numbers that no field has -/

namespace Fields

variable {g : Graph} {fields : Fields} {n : Nat}

/-- A number is not among those of a field map. -/
def Lacks (fields : Fields) (n : Nat) : Prop :=
  ∀ g : Graph, ∀ e ∈ fields, g.sameKey nestingLimit e.1 (.lit (.integer n)) = .ok false

theorem sameKey_integer (g : Graph) (a b : Int) :
    g.sameKey nestingLimit (.lit (.integer a)) (.lit (.integer b)) = .ok (decide (a = b)) := by
  by_cases hab : a = b
  · subst hab
    rw [Graph.sameKey_self, decide_eq_true rfl]
  · rw [← Literal.same_integer, Graph.sameKey, Graph.orIdentical, if_neg (by simpa using hab)]
    rfl

theorem sameKey_eq_false {key : Operand} (hkey : ∀ v, key = .lit v → v.isSignaling = false)
    (hne : ∀ v, key = .lit v → v.same (.integer n) = false) (g : Graph) :
    g.sameKey nestingLimit key (.lit (.integer n)) = .ok false := by
  have hdifferent : key ≠ .lit (.integer n) := by
    rintro rfl
    have hsame := hne _ rfl
    rw [Literal.same_natCast] at hsame
    cases hsame
  rw [Graph.sameKey, Graph.orIdentical, if_neg hdifferent]
  cases key with
  | part m => rfl
  | lit v =>
    have hv : v.isSignaling = false := hkey v rfl
    change v.compare (.integer n) = _
    rw [Literal.compare, hv, hne v rfl]
    rfl

/-- From some number on, no number is among those of a field map. -/
theorem exists_lacks (h : fields.IsHashed) : ∃ bound, ∀ n, bound ≤ n → fields.Lacks n := by
  induction fields with
  | nil => exact ⟨0, fun n _ g e he => by cases he⟩
  | cons entry rest ih =>
    obtain ⟨bound, hrest⟩ := ih fun e he => h e (by simp [he])
    have hentry := h entry (by simp)
    have hfrom : ∃ bound, ∀ n, bound ≤ n → ∀ v, entry.1 = .lit v →
        v.same (.integer (n : Nat)) = false := by
      by_cases hsame : ∃ m : Nat, ∃ v, entry.1 = .lit v ∧ v.same (.integer m) = true
      · obtain ⟨m, v, hv, hm⟩ := hsame
        refine ⟨m + 1, fun n hn w hw => ?_⟩
        obtain rfl : v = w := Operand.lit.inj (hv.symm.trans hw)
        by_contra hne
        have heq := Literal.eq_of_same hm (Bool.not_eq_false _ ▸ hne)
        omega
      · refine ⟨0, fun n _ v hv => ?_⟩
        by_contra hne
        exact hsame ⟨n, v, hv, Bool.not_eq_false _ ▸ hne⟩
    obtain ⟨bound', hbound'⟩ := hfrom
    refine ⟨max bound bound', fun n hn g e he => ?_⟩
    rcases List.mem_cons.1 he with rfl | he
    · exact sameKey_eq_false hentry (hbound' n (by omega)) g
    · exact hrest n (by omega) g e he

/-! ### Fields behind a field map -/

theorem find?_append_of_lacks (h : fields.Lacks n) (added : Fields) :
    find? g (.lit (.integer n)) (fields ++ added) = find? g (.lit (.integer n)) added := by
  induction fields with
  | nil => rfl
  | cons entry rest ih =>
    have hentry := h g entry (by simp)
    rw [List.cons_append, find?, hentry]
    exact ih fun g e he => h g e (by simp [he])

/-- Fields with natural numbers, each found by its own. -/
theorem find?_numbered {numbers : List Nat} (column : Nat → String) (hn : n ∈ numbers) :
    find? g (.lit (.integer n))
      (numbers.map fun (k : Nat) => (.lit (.integer k), some (column k))) =
      .ok (some (column n)) := by
  induction numbers with
  | nil => cases hn
  | cons k rest ih =>
    rw [List.map_cons, find?]
    rw [sameKey_integer]
    by_cases hk : k = n
    · subst hk
      rw [decide_eq_true rfl]
    · rw [decide_eq_false (by exact_mod_cast hk)]
      exact ih ((List.mem_cons.1 hn).resolve_left (Ne.symm hk))

/-- From some length on, no column of a field map is as long. -/
theorem exists_longer (fields : Fields) :
    ∃ bound, ∀ e ∈ fields, ∀ name ∈ e.2, name.length ≤ bound := by
  induction fields with
  | nil => exact ⟨0, by simp⟩
  | cons entry rest ih =>
    obtain ⟨bound, hrest⟩ := ih
    refine ⟨max bound ((entry.2.map String.length).getD 0), fun e he name hname => ?_⟩
    rcases List.mem_cons.1 he with rfl | he
    · rw [Option.mem_def.1 hname]
      simp
    · exact (hrest e he name hname).trans (le_max_left _ _)

theorem mem_of_find? {number : Operand} {column : String}
    (h : fields.find? g number = .ok (some column)) : ∃ e ∈ fields, column ∈ e.2 := by
  induction fields with
  | nil => cases h
  | cons entry rest ih =>
    rw [find?] at h
    split at h
    · cases h
    · next hkey =>
      exact ⟨entry, by simp, by simpa using h⟩
    · obtain ⟨e, he, hcolumn⟩ := ih h
      exact ⟨e, by simp [he], hcolumn⟩

end Fields

end FilterCompiler
