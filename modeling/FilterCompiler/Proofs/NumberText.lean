import FilterCompiler.Proofs.NumericLiteral
import Mathlib.Data.List.Chain

/-! Texts of numbers. Whatever its kind, a number is written as a minus sign, if it is negative,
a run of letters and digits that may hold a point, and perhaps an exponent with a sign. Proved
here: integers, floating point numbers and decimals, the special values among them, all have
such texts. None of them is made of capitals alone, and none has two dashes in a row. -/

namespace FilterCompiler

/-- Letters and digits, points among them. -/
def IsPlain (s : List Char) : Prop := ∀ c ∈ s, c.isAlphanum = true ∨ c = '.'

/-- Nothing, or a letter, a sign and plain characters. -/
inductive IsExponent : List Char → Prop where
  | none : IsExponent []
  | signed {e sign : Char} {digits : List Char} (letter : e.isAlphanum = true)
      (sign_eq : sign = '+' ∨ sign = '-') (plain : IsPlain digits) :
      IsExponent (e :: sign :: digits)

/-- Characters of a number. -/
structure IsNumeral (s : List Char) : Prop where
  split : ∃ negative body exponent, s = Decimal.minus negative ++ body ++ exponent ∧
    IsPlain body ∧ (∃ c ∈ body, c.isUpper = false) ∧ IsExponent exponent

namespace IsPlain

variable {s t : List Char}

theorem append (hs : IsPlain s) (ht : IsPlain t) : IsPlain (s ++ t) := by
  intro c hc
  rcases List.mem_append.1 hc with hc | hc
  · exact hs c hc
  · exact ht c hc

theorem cons {c : Char} (hc : c.isAlphanum = true ∨ c = '.') (hs : IsPlain s) :
    IsPlain (c :: s) := by
  intro d hd
  rcases List.mem_cons.1 hd with rfl | hd
  · exact hc
  · exact hs d hd

theorem of_subset (hs : IsPlain s) (h : t ⊆ s) : IsPlain t := fun c hc => hs c (h hc)

theorem of_all (h : (s.all fun c => c.isAlphanum || c == '.') = true) : IsPlain s := by
  simpa [IsPlain] using h

theorem ne_dash (hs : IsPlain s) {c : Char} (hc : c ∈ s) : c ≠ '-' := by
  rintro rfl
  have := hs _ hc
  revert this
  decide

end IsPlain

/-! ### Numbers in any layout -/

theorem IsDigits.isPlain {s : List Char} (h : IsDigits s) : IsPlain s := fun c hc =>
  .inl (by simp [Char.isAlphanum, h.isDigit c hc])

theorem IsPositional.isPlain {s : List Char} (h : IsPositional s) : IsPlain s := by
  obtain ⟨whole, fraction, rfl, hwhole, hfraction⟩ := h.split
  cases hfraction with
  | absent => simpa using hwhole.isPlain
  | point digits => exact hwhole.isPlain.append (.cons (by decide) digits.isPlain)

theorem IsPositional.exists_digit {s : List Char} (h : IsPositional s) :
    ∃ c ∈ s, c.isUpper = false := by
  obtain ⟨whole, fraction, rfl, hwhole, _⟩ := h.split
  obtain ⟨c, hc⟩ := List.exists_mem_of_ne_nil _ hwhole.ne_nil
  exact ⟨c, by simp [hc], isUpper_of_isDigit (hwhole.isDigit c hc)⟩

theorem isNumeral_plain (negative : Bool) {body : List Char} (h : IsPlain body)
    (hc : ∃ c ∈ body, c.isUpper = false) : IsNumeral (Decimal.minus negative ++ body) :=
  ⟨negative, body, [], by simp, h, hc, .none⟩

theorem IsLayout.isNumeral {s : List Char} (h : IsLayout s) : IsNumeral s := by
  obtain ⟨negative, body, power, rfl, hbody, hpower⟩ := h.split
  obtain ⟨c, hc, hupper⟩ := hbody.exists_digit
  cases hpower with
  | absent => simpa using isNumeral_plain negative hbody.isPlain hbody.exists_digit
  | @letter e sign exponent letter isSign digits =>
    have he : e.isAlphanum = true := by rcases letter with rfl | rfl <;> decide
    cases isSign with
    -- an exponent without a sign is plain
    | absent =>
      rw [List.append_assoc]
      exact isNumeral_plain negative (hbody.isPlain.append (.cons (.inl he) digits.isPlain))
        ⟨c, by simp [hc], hupper⟩
    | plus =>
      exact ⟨negative, body, _, rfl, hbody.isPlain, ⟨c, hc, hupper⟩,
        .signed he (.inl rfl) digits.isPlain⟩
    | minus =>
      exact ⟨negative, body, _, rfl, hbody.isPlain, ⟨c, hc, hupper⟩,
        .signed he (.inr rfl) digits.isPlain⟩

/-! ### The three kinds of numbers -/

theorem isNumeral_integer (n : Int) : IsNumeral (Integer.chars n) := (isLayout_integer n).isNumeral

theorem isNumeral_decimal (x : Decimal) : IsNumeral x.chars := by
  cases x with
  | finite x => exact (isLayout_decimal x).isNumeral
  | infinity negative =>
    exact isNumeral_plain negative (.of_all (by decide)) ⟨'n', by decide, by decide⟩
  | nan negative signaling diagnostic mark =>
    have hs : IsPlain (if signaling then ['s'] else []) := by
      cases signaling <;> exact .of_all (by decide)
    have hn : IsPlain "NaN".toList := .of_all (by decide)
    have hd : IsPlain (if diagnostic = 0 then [] else Integer.digits diagnostic) := by
      split
      · simp [IsPlain]
      · exact (isDigits_digits _).isPlain
    have h := isNumeral_plain negative ((hs.append hn).append hd) ⟨'a', by simp, by decide⟩
    simpa [Decimal.chars, List.append_assoc] using h

theorem isNumeral_float (x : Binary64) : IsNumeral (Shortest.chars x) := by
  cases x with
  | nan mark => exact isNumeral_plain false (.of_all (by decide)) ⟨'n', by decide, by decide⟩
  | infinity negative =>
    exact isNumeral_plain negative (.of_all (by decide)) ⟨'i', by decide, by decide⟩
  | finite negative m e => exact (isLayout_float negative m e).isNumeral

theorem Literal.isNumeral_of_plain? {v : Literal} {shown : String} (hnumber : v.isNumber = true)
    (h : v.plain? = some shown) : IsNumeral shown.toList := by
  cases v with
  | integer n => exact (Literal.isLayout_of_plain? hnumber rfl h).isNumeral
  | float x =>
    cases h
    simpa [Binary64.text] using isNumeral_float x
  | decimal x =>
    cases h
    simpa [Decimal.text] using isNumeral_decimal x
  | null | truth _ | text _ | bytes _ | day _ | moment _ => cases hnumber

/-! ### What such a text never holds -/

namespace IsNumeral

variable {s : List Char}

/-- Beside letters and digits there are points and signs alone. -/
theorem mem (h : IsNumeral s) {c : Char} (hc : c ∈ s) :
    c.isAlphanum = true ∨ c = '.' ∨ c = '+' ∨ c = '-' := by
  obtain ⟨negative, body, exponent, rfl, hbody, _, hexponent⟩ := h.split
  rcases List.mem_append.1 hc with hc | hc
  · rcases List.mem_append.1 hc with hc | hc
    · cases negative <;> simp_all [Decimal.minus]
    · exact (hbody c hc).imp_right .inl
  · cases hexponent with
    | none => cases hc
    | signed letter sign_eq plain =>
      rcases List.mem_cons.1 hc with rfl | hc
      · exact .inl letter
      · rcases List.mem_cons.1 hc with rfl | hc
        · exact .inr (.inr sign_eq)
        · exact (plain c hc).imp_right .inl

theorem exists_not_upper (h : IsNumeral s) : ∃ c ∈ s, c.isUpper = false := by
  obtain ⟨negative, body, exponent, rfl, _, ⟨c, hc, hupper⟩, _⟩ := h.split
  exact ⟨c, by simp [hc], hupper⟩

theorem ne_nil (h : IsNumeral s) : s ≠ [] := by
  obtain ⟨c, hc, _⟩ := h.exists_not_upper
  exact List.ne_nil_of_mem hc

end IsNumeral

/-- Characters of which no two in a row are dashes. -/
def NoDashes (s : List Char) : Prop := s.IsChain fun a b => ¬ (a = '-' ∧ b = '-')

theorem IsPlain.noDashes {s : List Char} (hs : IsPlain s) : NoDashes s := by
  induction s with
  | nil => exact .nil
  | cons c s ih =>
    exact (ih (hs.of_subset (by simp))).cons fun _ _ h => hs.ne_dash (by simp) h.1

theorem IsExponent.noDashes {s : List Char} (hs : IsExponent s) : NoDashes s := by
  cases hs with
  | none => exact .nil
  | signed letter sign_eq plain =>
    refine (plain.noDashes.cons fun _ hy h => ?_).cons fun _ _ h => ?_
    · exact plain.ne_dash (List.mem_of_mem_head? hy) h.2
    · rw [h.1] at letter
      exact absurd letter (by decide)

theorem IsNumeral.noDashes {s : List Char} (h : IsNumeral s) : NoDashes s := by
  obtain ⟨negative, body, exponent, rfl, hbody, ⟨c, hc, _⟩, hexponent⟩ := h.split
  rw [List.append_assoc]
  refine List.IsChain.append ?_ (hbody.noDashes.append hexponent.noDashes ?_) ?_
  · cases negative <;> simp [Decimal.minus]
  · exact fun x hx _ _ h => hbody.ne_dash (List.mem_of_mem_getLast? hx) h.1
  · intro _ _ y hy h
    rw [List.head?_append_of_ne_nil _ (List.ne_nil_of_mem hc)] at hy
    exact hbody.ne_dash (List.mem_of_mem_head? hy) h.2

end FilterCompiler
