import FilterCompiler.Number.Numeral
import FilterCompiler.Proofs.NumericLiteral
import Mathlib.Data.List.Basic
import Mathlib.Data.List.TakeDrop
import Mathlib.Data.List.TakeWhile

/-! Integers as people write them. Proved here: a text is read as an integer in base ten exactly if
it spells one, which is to say that between blanks it has a sign, if any, and digits of any script,
not too many, with an underscore at most between two of them. -/

namespace FilterCompiler.Numeral

/-- Digits with an underscore in front of some. -/
inductive IsTail : List Char → Prop where
  | done : IsTail []
  | digit {d : Char} {rest : List Char} (isDigit : d.isDigit = true) (tail : IsTail rest) :
      IsTail (d :: rest)
  | spaced {d : Char} {rest : List Char} (isDigit : d.isDigit = true) (tail : IsTail rest) :
      IsTail ('_' :: d :: rest)

/-- Digits, an underscore at most between two of them. -/
inductive IsRun : List Char → Prop where
  | digit {d : Char} {rest : List Char} (isDigit : d.isDigit = true) (tail : IsTail rest) :
      IsRun (d :: rest)

/-- The digits of a run. -/
def digitsOf (run : List Char) : List Char := run.filter (· != '_')

/-- A text spells an integer, with digits of any script and blanks around. -/
structure Spells (s : List Char) (n : Int) : Prop where
  split : ∃ sign run, plain s = sign ++ run ∧ IsSign sign ∧ IsRun run ∧
    (digitsOf run).length ≤ Integer.digitLimit ∧
    n = Integer.signed (sign == ['-']) (Integer.ofDigits (digitsOf run))

/-- Whether a character may stand in a run. -/
def runs (c : Char) : Bool := c == '_' || c.isDigit

theorem digitIn?_ten (c : Char) :
    digitIn? 10 c = if c.isDigit then some (c.toNat - 48) else none := by
  unfold digitIn? Text.Hex.value?
  split
  · next h =>
    have hle : c.toNat ≤ 57 := val_le_of_isDigit h
    have hlt : c.toNat - 48 < 10 := by omega
    simp [hlt]
  · split
    · next h =>
      have hle : 97 ≤ c.toNat := h.1
      rw [Option.filter_some, if_neg (by simp; omega)]
    · split
      · next h =>
        have hle : 65 ≤ c.toNat := h.1
        rw [Option.filter_some, if_neg (by simp; omega)]
      · rfl

theorem runs_eq : (fun c => c == '_' || (digitIn? 10 c).isSome) = runs := by
  funext c
  rw [digitIn?_ten, runs]
  cases c.isDigit <;> rfl

theorem behindMark_ten (s : List Char) : behindMark 10 s = s := by
  unfold behindMark
  split <;> simp

theorem isRun_cons_iff {c : Char} {rest : List Char} :
    IsRun (c :: rest) ↔ c.isDigit = true ∧ IsTail rest :=
  ⟨fun ⟨isDigit, tail⟩ => ⟨isDigit, tail⟩, fun h => .digit h.1 h.2⟩

theorem isTail_underscore_iff {rest : List Char} : IsTail ('_' :: rest) ↔ IsRun rest := by
  constructor
  · intro h
    cases h with
    | digit isDigit => cases isDigit
    | spaced isDigit tail => exact .digit isDigit tail
  · rintro ⟨isDigit, tail⟩
    exact .spaced isDigit tail

theorem isTail_cons_iff {c : Char} {rest : List Char} (h : c.isDigit = true) :
    IsTail (c :: rest) ↔ IsTail rest := by
  refine ⟨fun htail => ?_, .digit h⟩
  cases htail with
  | digit _ tail => exact tail
  | spaced => cases h

/-- An underscore is looked at with what stands in front of it, so both cases of what that is are
proved at once. -/
theorem isSpaced_iff {s : List Char} (h : s.all runs = true) :
    (isSpaced true s = true ↔ IsTail s) ∧ (isSpaced false s = true ↔ IsRun s) := by
  induction s with
  | nil => exact ⟨iff_of_true rfl .done, iff_of_false Bool.false_ne_true (by rintro ⟨⟩)⟩
  | cons c rest ih =>
    rw [List.all_cons, Bool.and_eq_true] at h
    obtain ⟨htail, hrun⟩ := ih h.2
    by_cases hc : c = '_'
    · subst hc
      have hnot : '_'.isDigit = false := rfl
      simp [isSpaced, hrun, isTail_underscore_iff, isRun_cons_iff, hnot]
    · have hdigit : c.isDigit = true := by simpa [runs, hc] using h.1
      simp [isSpaced, hc, htail, isTail_cons_iff hdigit, isRun_cons_iff, hdigit]

theorem IsTail.all_runs {s : List Char} (h : IsTail s) : s.all runs = true := by
  induction h with
  | done => rfl
  | digit isDigit _ ih => simp [runs, isDigit, ih]
  | spaced isDigit _ ih => simp [runs, isDigit, ih]

theorem IsRun.all_runs {s : List Char} (h : IsRun s) : s.all runs = true := by
  obtain ⟨isDigit, tail⟩ := h
  simp [runs, isDigit, tail.all_runs]

theorem valueIn_ten {run : List Char} (h : run.all runs = true) :
    valueIn 10 (digitsOf run) = Integer.ofDigits (digitsOf run) := by
  have hdigit : ∀ c ∈ digitsOf run, c.isDigit = true := by
    intro c hc
    obtain ⟨hmem, hne⟩ := List.mem_filter.1 hc
    have hruns := List.all_eq_true.1 h c hmem
    simpa [runs, bne_iff_ne.1 hne] using hruns
  refine List.foldl_ext _ _ _ fun n c hc => ?_
  rw [digitIn?_ten, if_pos (hdigit c hc), Nat.mul_comm]
  rfl

/-- What is taken for a sign is one, and a run does not begin with one. -/
theorem takeSign_eq_iff {s run : List Char} {negative : Bool} (h : IsRun run) :
    Integer.takeSign s = (negative, run) ↔
      ∃ sign, s = sign ++ run ∧ IsSign sign ∧ negative = (sign == ['-']) := by
  obtain ⟨isDigit, tail⟩ := h
  constructor
  · intro h
    unfold Integer.takeSign at h
    split at h <;> cases h
    · exact ⟨_, rfl, .minus, rfl⟩
    · exact ⟨_, rfl, .plus, rfl⟩
    · exact ⟨[], rfl, .absent, rfl⟩
  · rintro ⟨sign, rfl, hsign, rfl⟩
    cases hsign with
    | absent =>
      -- A digit is no sign, so the two first rows of the match do not apply.
      unfold Integer.takeSign
      split
      · next h =>
        cases h
        cases isDigit
      · next h =>
        cases h
        cases isDigit
      · rfl
    | plus => rfl
    | minus => rfl

theorem integer_ten_eq {s t : List Char} {negative : Bool}
    (ht : Integer.takeSign (plain s) = (negative, t)) :
    integer 10 s =
      if !isSpaced false (t.takeWhile runs) then .error .malformed
      else if Integer.digitLimit < (digitsOf (t.takeWhile runs)).length then
        .error (.tooLong (digitsOf (t.takeWhile runs)).length)
      else if !(t.dropWhile runs).isEmpty then .error .malformed
      else .ok (Integer.signed negative (valueIn 10 (digitsOf (t.takeWhile runs)))) := by
  simp only [integer, ht, behindMark_ten, runs_eq, List.span_eq_takeWhile_dropWhile,
    digitsOf, true_and]
  congr

/-- What follows the sign is looked at as a whole. -/
theorem integer_ten_eq_ok_iff_isRun {s t : List Char} {negative : Bool} {n : Int}
    (ht : Integer.takeSign (plain s) = (negative, t)) :
    integer 10 s = .ok n ↔ IsRun t ∧ (digitsOf t).length ≤ Integer.digitLimit ∧
      n = Integer.signed negative (Integer.ofDigits (digitsOf t)) := by
  rw [integer_ten_eq ht]
  by_cases hall : t.all runs = true
  · have hruns := List.all_eq_true.1 hall
    rw [List.takeWhile_eq_self_iff.2 hruns, List.dropWhile_eq_nil_iff.2 hruns, valueIn_ten hall]
    by_cases hrun : IsRun t
    · by_cases hshort : (digitsOf t).length ≤ Integer.digitLimit
      · simp [(isSpaced_iff hall).2.2 hrun, hrun, hshort, Nat.not_lt.2 hshort, eq_comm]
      · simp [(isSpaced_iff hall).2.2 hrun, hshort, Nat.not_le.1 hshort]
    · have hspaced : isSpaced false t = false := by simpa [hrun] using (isSpaced_iff hall).2
      simp [hspaced, hrun]
  · have hrun : ¬ IsRun t := fun h => hall h.all_runs
    have hrest : (t.dropWhile runs).isEmpty = false := by
      rw [List.isEmpty_eq_false_iff]
      exact fun h => hall (List.all_eq_true.2 (List.dropWhile_eq_nil_iff.1 h))
    simp only [hrest, hrun, false_and, iff_false]
    split_ifs with hspaced hlong h
    · simp
    · simp
    · simp
    · exact absurd rfl h

/-- In base ten exactly those texts are read that spell an integer. -/
theorem integer_ten_eq_ok_iff {s : List Char} {n : Int} : integer 10 s = .ok n ↔ Spells s n := by
  constructor
  · intro h
    obtain ⟨hrun, hshort, hn⟩ := (integer_ten_eq_ok_iff_isRun rfl).1 h
    obtain ⟨sign, hplain, hsign, hnegative⟩ := (takeSign_eq_iff hrun).1 rfl
    exact ⟨sign, _, hplain, hsign, hrun, hshort, hnegative ▸ hn⟩
  · rintro ⟨sign, run, hplain, hsign, hrun, hshort, hn⟩
    have ht := (takeSign_eq_iff hrun).2 ⟨sign, hplain, hsign, rfl⟩
    exact (integer_ten_eq_ok_iff_isRun ht).2 ⟨hrun, hshort, hn⟩

end FilterCompiler.Numeral
