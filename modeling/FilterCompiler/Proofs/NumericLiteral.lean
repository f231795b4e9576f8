import FilterCompiler.Literal

/-! Numeric literals. To SQL a number is a sign that may be absent, digits, perhaps a point with
digits behind it, and perhaps an exponent. Proved here: integers and finite numbers have texts of
this form, in whatever layout they are written. The special values are written as names, a minus
sign in front of some, and no such text is a numeric literal. -/

namespace FilterCompiler

/-- One digit or more. -/
structure IsDigits (s : List Char) : Prop where
  ne_nil : s ≠ []
  isDigit : ∀ c ∈ s, c.isDigit = true

inductive IsSign : List Char → Prop where
  | absent : IsSign []
  | plus : IsSign ['+']
  | minus : IsSign ['-']

/-- Nothing, or a point and digits. -/
inductive IsFraction : List Char → Prop where
  | absent : IsFraction []
  | point {places : List Char} (digits : IsDigits places) : IsFraction ('.' :: places)

/-- Nothing, or a letter and an integer. -/
inductive IsPower : List Char → Prop where
  | absent : IsPower []
  | letter {e : Char} {sign exponent : List Char} (letter : e = 'e' ∨ e = 'E')
      (isSign : IsSign sign) (digits : IsDigits exponent) : IsPower (e :: (sign ++ exponent))

/-- Digits and a fraction. -/
structure IsPositional (s : List Char) : Prop where
  split : ∃ whole fraction, s = whole ++ fraction ∧ IsDigits whole ∧ IsFraction fraction

/-- A sign, digits, a fraction and an exponent, as SQL has them in a number. -/
structure IsNumericLiteral (s : List Char) : Prop where
  split : ∃ sign body power, s = sign ++ body ++ power ∧ IsSign sign ∧ IsPositional body ∧
    IsPower power

/-- A minus sign, if need be, digits, a fraction and an exponent, as numbers are shown. -/
structure IsLayout (s : List Char) : Prop where
  split : ∃ negative body power, s = Decimal.minus negative ++ body ++ power ∧
    IsPositional body ∧ IsPower power

/-- A letter and further letters and digits, which SQL takes for a name. -/
inductive IsBareName : List Char → Prop where
  | letters {c : Char} {rest : List Char} (alpha : c.isAlpha = true)
      (alphanum : rest.all Char.isAlphanum = true) : IsBareName (c :: rest)

/-- A name, or the negative of one. -/
structure IsSignedName (s : List Char) : Prop where
  split : ∃ negative name, s = Decimal.minus negative ++ name ∧ IsBareName name

/-! ### The first letter or digit -/

theorem val_le_of_isDigit {c : Char} (h : c.isDigit = true) : c.val ≤ '9'.val := by
  simp only [Char.isDigit, Bool.and_eq_true, decide_eq_true_eq] at h
  exact h.2

theorem isUpper_of_isDigit {c : Char} (h : c.isDigit = true) : c.isUpper = false :=
  decide_eq_false fun hupper =>
    absurd (UInt32.le_trans hupper.1 (val_le_of_isDigit h)) (by decide)

theorem isAlpha_of_isDigit {c : Char} (h : c.isDigit = true) : c.isAlpha = false := by
  have hlower : decide (c.val ≥ 'a'.val) = false := decide_eq_false fun hlower =>
    absurd (UInt32.le_trans hlower (val_le_of_isDigit h)) (by decide)
  have halpha : c.isAlpha = (c.isUpper || decide (c.val ≥ 'a'.val) && decide (c.val ≤ 'z'.val)) :=
    rfl
  rw [halpha, isUpper_of_isDigit h, hlower]
  rfl

theorem IsNumericLiteral.exists_find? {s : List Char} (h : IsNumericLiteral s) :
    ∃ d, s.find? Char.isAlphanum = some d ∧ d.isDigit = true := by
  obtain ⟨sign, body, power, rfl, hsign, hbody, _⟩ := h.split
  obtain ⟨whole, fraction, rfl, ⟨hne, hdigit⟩, _⟩ := hbody.split
  obtain ⟨d, rest, rfl⟩ := List.exists_cons_of_ne_nil hne
  have hd := hdigit d (by simp)
  have hfind (tail : List Char) : (sign ++ d :: tail).find? Char.isAlphanum = some d := by
    have hd' : d.isAlphanum = true := by simp [Char.isAlphanum, hd]
    cases hsign <;> simp [hd']
  exact ⟨d, by simpa using hfind (rest ++ fraction ++ power), hd⟩

theorem IsSignedName.exists_find? {s : List Char} (h : IsSignedName s) :
    ∃ c, s.find? Char.isAlphanum = some c ∧ c.isAlpha = true := by
  obtain ⟨negative, _, rfl, @⟨c, rest, alpha, _⟩⟩ := h.split
  have hc : c.isAlphanum = true := by simp [Char.isAlphanum, alpha]
  refine ⟨c, ?_, alpha⟩
  cases negative <;> simp [Decimal.minus, hc]

/-- The first letter or digit of a number is a digit, and that of a name a letter. -/
theorem IsNumericLiteral.not_isSignedName {s : List Char} (h : IsNumericLiteral s) :
    ¬ IsSignedName s := by
  intro hname
  obtain ⟨d, hd, hdigit⟩ := h.exists_find?
  obtain ⟨c, hc, halpha⟩ := hname.exists_find?
  obtain rfl : d = c := Option.some.inj (hd.symm.trans hc)
  simp [isAlpha_of_isDigit hdigit] at halpha

/-! ### Digits -/

theorem isDigit_of_mem_digits {n : Nat} {c : Char} (h : c ∈ Integer.digits n) :
    c.isDigit = true :=
  Nat.isDigit_of_mem_toDigits (b := 10) (by decide) (by decide) h

theorem digits_ne_nil (n : Nat) : Integer.digits n ≠ [] := Nat.toDigits_ne_nil

theorem isDigits_digits (n : Nat) : IsDigits (Integer.digits n) :=
  ⟨digits_ne_nil n, fun _ => isDigit_of_mem_digits⟩

theorem isDigits_zero : IsDigits ['0'] := ⟨by simp, by simp⟩

theorem isDigit_of_mem_zeros {n : Nat} : ∀ c ∈ List.replicate n '0', c.isDigit = true := by
  intro c hc
  rw [List.eq_of_mem_replicate hc]
  decide

namespace IsDigits

variable {s : List Char}

theorem append_zeros (h : IsDigits s) (n : Nat) : IsDigits (s ++ List.replicate n '0') :=
  ⟨by simp [h.ne_nil], List.forall_mem_append.2 ⟨h.isDigit, isDigit_of_mem_zeros⟩⟩

theorem zeros_append (h : IsDigits s) (n : Nat) : IsDigits (List.replicate n '0' ++ s) :=
  ⟨by simp [h.ne_nil], List.forall_mem_append.2 ⟨isDigit_of_mem_zeros, h.isDigit⟩⟩

theorem take (h : IsDigits s) {n : Nat} (hn : 0 < n) : IsDigits (s.take n) :=
  ⟨by simp [h.ne_nil]; omega, fun c hc => h.isDigit c (List.mem_of_mem_take hc)⟩

theorem drop (h : IsDigits s) {n : Nat} (hn : n < s.length) : IsDigits (s.drop n) :=
  ⟨by simpa using hn, fun c hc => h.isDigit c (List.mem_of_mem_drop hc)⟩

/-- Digits behind a zero and a point. -/
theorem isPositional_behind (h : IsDigits s) : IsPositional ('0' :: '.' :: s) :=
  ⟨['0'], '.' :: s, rfl, isDigits_zero, .point h⟩

theorem isPositional (h : IsDigits s) : IsPositional s := ⟨s, [], by simp, h, .absent⟩

/-- Digits with a point between them. -/
theorem isPositional_split (h : IsDigits s) {n : Nat} (hn : 0 < n) (hlt : n < s.length) :
    IsPositional (s.take n ++ '.' :: s.drop n) :=
  ⟨_, _, rfl, h.take hn, .point (h.drop hlt)⟩

end IsDigits

/-! ### Layouts -/

variable {digits : List Char}

theorem isPositional_pointAfter (h : IsDigits digits) (places : Int) :
    IsPositional (Decimal.pointAfter digits places) := by
  unfold Decimal.pointAfter
  split
  · exact (h.zeros_append _).isPositional_behind
  · split
    · exact (h.append_zeros _).isPositional
    · exact h.isPositional_split (by omega) (by omega)

theorem isPositional_positional (h : IsDigits digits) (lead : Int) :
    IsPositional (Shortest.positional digits lead) := by
  unfold Shortest.positional
  split
  · exact (h.zeros_append _).isPositional_behind
  · dsimp only
    split
    · exact ⟨_, _, rfl, h.append_zeros _, .point isDigits_zero⟩
    · exact h.isPositional_split (by omega) (by omega)

theorem isSign_minus (negative : Bool) : IsSign (Decimal.minus negative) := by
  cases negative
  · exact .absent
  · exact .minus

theorem isPower_exponentMark (e : Int) : IsPower (Decimal.exponentMark e) := by
  unfold Decimal.exponentMark
  split
  · exact .absent
  · split
    · exact .letter (.inr rfl) .minus (isDigits_digits _)
    · exact .letter (.inr rfl) .plus (isDigits_digits _)

theorem isPower_exponentText (lead : Int) : IsPower ('e' :: Shortest.exponentText lead) := by
  have hdigits : IsDigits (if (Integer.digits lead.natAbs).length < 2 then
      '0' :: Integer.digits lead.natAbs else Integer.digits lead.natAbs) := by
    split
    · exact (isDigits_digits _).zeros_append 1
    · exact isDigits_digits _
  unfold Shortest.exponentText
  split
  · exact .letter (.inl rfl) .minus hdigits
  · exact .letter (.inl rfl) .plus hdigits

/-! ### Numbers -/

theorem isLayout_of_isPositional (negative : Bool) {body : List Char} (h : IsPositional body) :
    IsLayout (Decimal.minus negative ++ body) :=
  ⟨negative, body, [], by simp, h, .absent⟩

theorem isLayout_integer (n : Int) : IsLayout (Integer.chars n) := by
  have hbody := (isDigits_digits n.natAbs).isPositional
  have h := isLayout_of_isPositional (decide (n < 0)) hbody
  unfold Integer.chars
  split
  · next hn => simpa [Decimal.minus, hn] using h
  · next hn => simpa [Decimal.minus, hn] using h

theorem isLayout_decimal (x : Scientific) : IsLayout (Decimal.finite x).chars :=
  ⟨_, _, _, rfl, isPositional_pointAfter (isDigits_digits _) _, isPower_exponentMark _⟩

theorem isLayout_scientific (negative : Bool) (h : IsDigits digits) (lead : Int) :
    IsLayout (Decimal.minus negative ++ Shortest.scientific digits lead) := by
  obtain ⟨d, rest, rfl⟩ := List.exists_cons_of_ne_nil h.ne_nil
  have hpositional : IsPositional (if rest = [] then [d] else d :: '.' :: rest) := by
    split
    · next hrest => exact (hrest ▸ h).isPositional
    · next hrest =>
      exact h.isPositional_split Nat.one_pos (by simp [List.length_pos_iff.2 hrest])
  refine ⟨negative, _, _, ?_, hpositional, isPower_exponentText lead⟩
  cases rest <;> simp [Shortest.scientific]

theorem isLayout_float (negative : Bool) (m : Nat) (e : Int) :
    IsLayout (Shortest.chars (.finite negative m e)) := by
  have h : Shortest.chars (.finite negative m e) =
      Decimal.minus negative ++ if m = 0 then ['0', '.', '0'] else Shortest.positive m e := rfl
  rw [h]
  split
  · exact isLayout_of_isPositional negative isDigits_zero.isPositional_behind
  · unfold Shortest.positive
    dsimp only
    split
    · exact isLayout_of_isPositional negative (isPositional_positional (isDigits_digits _) _)
    · exact isLayout_scientific negative (isDigits_digits _) _

/-- What is shown in a layout is a numeric literal. -/
theorem IsLayout.isNumericLiteral {s : List Char} (h : IsLayout s) : IsNumericLiteral s := by
  obtain ⟨negative, body, power, rfl, hbody, hpower⟩ := h.split
  exact ⟨_, body, power, rfl, isSign_minus negative, hbody, hpower⟩

/-! ### Special values -/

/-- Neither infinite nor a not-a-number; what is not a number is finite as well. -/
def Literal.isFinite : Literal → Bool
  | .float (.finite ..) | .decimal (.finite _) => true
  | .float _ | .decimal _ => false
  | _ => true

/-- Of the kinds whose literals are written as numbers. -/
def Literal.isNumber : Literal → Bool
  | .integer _ | .float _ | .decimal _ => true
  | _ => false

theorem isSignedName_float {x : Binary64} (h : (Literal.float x).isFinite = false) :
    IsSignedName (Shortest.chars x) := by
  cases x with
  | nan mark => exact ⟨false, _, rfl, .letters (by decide) (by decide)⟩
  | infinity negative => exact ⟨negative, _, rfl, .letters (by decide) (by decide)⟩
  | finite negative m e => cases h

theorem isSignedName_decimal {x : Decimal} (h : (Literal.decimal x).isFinite = false) :
    IsSignedName x.chars := by
  cases x with
  | finite x => cases h
  | infinity negative => exact ⟨negative, _, rfl, .letters (by decide) (by decide)⟩
  | nan negative signaling diagnostic mark =>
    have hdiagnostic : (if diagnostic = 0 then [] else Integer.digits diagnostic).all
        Char.isAlphanum = true := by
      split
      · rfl
      · exact List.all_eq_true.2 fun c hc => by simp [Char.isAlphanum, isDigit_of_mem_digits hc]
    generalize hds : (if diagnostic = 0 then [] else Integer.digits diagnostic) = ds at hdiagnostic
    cases signaling with
    | false =>
      exact ⟨negative, 'N' :: ("aN".toList ++ ds), by simp [Decimal.chars, hds],
        .letters (by decide) (by rw [List.all_append, hdiagnostic]; rfl)⟩
    | true =>
      exact ⟨negative, 's' :: ("NaN".toList ++ ds), by simp [Decimal.chars, hds],
        .letters (by decide) (by rw [List.all_append, hdiagnostic]; rfl)⟩

/-! ### Numbers as they are shown -/

namespace Literal

variable {v : Literal} {shown : String}

theorem isLayout_of_plain? (hnumber : v.isNumber = true) (hfinite : v.isFinite = true)
    (h : v.plain? = some shown) : IsLayout shown.toList := by
  cases v with
  | integer n =>
    rw [plain?, Integer.text?] at h
    generalize Integer.textBound = bound at h
    split at h
    · cases h
      simpa [Integer.text] using isLayout_integer n
    · cases h
  | float x =>
    cases h
    cases x with
    | finite negative m e => simpa [Binary64.text] using isLayout_float negative m e
    | nan mark | infinity negative => cases hfinite
  | decimal x =>
    cases h
    cases x with
    | finite x => simpa [Decimal.text] using isLayout_decimal x
    | infinity negative | nan negative signaling diagnostic mark => cases hfinite
  | null | truth _ | text _ | bytes _ | day _ | moment _ => cases hnumber

theorem isSignedName_of_plain? (hfinite : v.isFinite = false) (h : v.plain? = some shown) :
    IsSignedName shown.toList := by
  cases v with
  | float x =>
    cases h
    simpa [Binary64.text] using isSignedName_float hfinite
  | decimal x =>
    cases h
    simpa [Decimal.text] using isSignedName_decimal hfinite
  | integer _ | null | truth _ | text _ | bytes _ | day _ | moment _ => cases hfinite

/-- Exactly the finite numbers are shown as numeric literals. -/
theorem isNumericLiteral_iff (hnumber : v.isNumber = true) (h : v.plain? = some shown) :
    IsNumericLiteral shown.toList ↔ v.isFinite = true := by
  constructor
  · intro hliteral
    cases hfinite : v.isFinite with
    | true => rfl
    | false => exact absurd (isSignedName_of_plain? hfinite h) hliteral.not_isSignedName
  · exact fun hfinite => (isLayout_of_plain? hnumber hfinite h).isNumericLiteral

end Literal

end FilterCompiler
