import FilterCompiler.Compiler

/-! Text literals where a backslash has a meaning. Every built-in dialect writes a text between
single quotes with each quote in it doubled and all else as it is. MySQL by default also takes a
backslash and the character behind it together. Proved here: its reading of such a literal ends at
the closing quote and gives back the text exactly if every backslash in it stands before one of
the wildcards, the only characters before which a backslash stands for itself. -/

namespace FilterCompiler.Text.Backslash

open Quoted (double double_cons_mark double_cons_of_ne)

/-! ### The reader -/

/-- What a backslash and a character behind it stand for. -/
def meaning : Char → List Char
  | '0' => ['\x00']
  | 'b' => ['\x08']
  | 'n' => ['\n']
  | 'r' => ['\r']
  | 't' => ['\t']
  | 'Z' => ['\x1a']
  | '%' => ['\\', '%']
  | '_' => ['\\', '_']
  | c => [c]

/-- Reads on behind an opening quote: the text, and what follows the closing quote. -/
def read? : List Char → Option (List Char × List Char)
  | [] => none
  | '\\' :: c :: rest => (read? rest).map fun (t, after) => (meaning c ++ t, after)
  | ['\\'] => none
  | '\'' :: '\'' :: rest => (read? rest).map fun (t, after) => ('\'' :: t, after)
  | '\'' :: rest => some ([], rest)
  | c :: rest => (read? rest).map fun (t, after) => (c :: t, after)

/-- Whether a backslash stands only before wildcards, where it is kept. -/
def IsKept : List Char → Prop
  | [] => True
  | '\\' :: c :: rest => (c = '%' ∨ c = '_') ∧ IsKept rest
  | ['\\'] => False
  | _ :: rest => IsKept rest

/-! ### How much a reading takes up -/

/-- Twice the length of a text, quotes counted once: what a text weighs by itself it weighs in a
literal too, where its quotes are doubled. -/
def weight : List Char → Nat
  | [] => 0
  | c :: rest => (if c = '\'' then 1 else 2) + weight rest

theorem weight_append (s t : List Char) : weight (s ++ t) = weight s + weight t := by
  induction s with
  | nil => simp [weight]
  | cons c rest ih => simp only [List.cons_append, weight, ih]; omega

theorem weight_double (s : List Char) : weight (double '\'' s) = 2 * s.length := by
  induction s with
  | nil => rfl
  | cons c rest ih =>
    by_cases hc : c = '\''
    · subst hc
      rw [double_cons_mark]
      simp only [weight, if_true, ih, List.length_cons]
      omega
    · rw [double_cons_of_ne hc]
      simp only [weight, if_neg hc, ih, List.length_cons]
      omega

/-- What is taken together weighs at least what it stands for. -/
theorem length_meaning_le (c : Char) :
    2 * (meaning c).length ≤ 2 + if c = '\'' then 1 else 2 := by
  unfold meaning
  split <;> simp

theorem two_mul_length_le {s t after : List Char} (h : read? s = some (t, after)) :
    2 * t.length + 1 + weight after ≤ weight s := by
  fun_induction read? s generalizing t with
  | case1 => cases h
  | case2 c rest ih =>
    obtain ⟨⟨u, _⟩, hrest, heq⟩ := Option.map_eq_some_iff.1 h
    cases heq
    have hle := ih hrest
    have hmeaning := length_meaning_le c
    simp only [weight, List.length_append]
    split at hmeaning <;> simp_all <;> omega
  | case3 => cases h
  | case4 rest ih =>
    obtain ⟨⟨u, _⟩, hrest, heq⟩ := Option.map_eq_some_iff.1 h
    cases heq
    have hle := ih hrest
    simp only [weight, if_true, List.length_cons]
    omega
  | case5 rest =>
    cases h
    simp [weight]
  | case6 c rest _ _ _ hquote ih =>
    obtain ⟨⟨u, _⟩, hrest, heq⟩ := Option.map_eq_some_iff.1 h
    cases heq
    have hle := ih hrest
    simp only [weight, if_neg hquote, List.length_cons]
    omega

/-! ### What is read back -/

theorem meaning_ne_nil (c : Char) : meaning c ≠ [] := by
  unfold meaning
  split <;> simp

/-- Only a backslash and the wildcards are read with a backslash in front. -/
theorem eq_of_head?_meaning {c : Char} (h : (meaning c).head? = some '\\') :
    c = '\\' ∨ c = '%' ∨ c = '_' := by
  unfold meaning at h
  split at h <;> simp_all

theorem read?_quote {after : List Char} (h : after.head? ≠ some '\'') :
    read? ('\'' :: after) = some ([], after) := by
  cases after with
  | nil => rfl
  | cons c rest => rw [read?]; simpa using h

theorem read?_cons_of_ne {c : Char} (hescape : c ≠ '\\') (hquote : c ≠ '\'') (s : List Char) :
    read? (c :: s) = (read? s).map fun (t, after) => (c :: t, after) := by
  rw [read?] <;> simp_all

/-- A doubled text and the closing quote are read as the text and what follows just if each
backslash in the text is kept. One before another backslash is lost for good: what is left then
weighs too little for the text. -/
theorem read?_double_iff {s after : List Char} (h : after.head? ≠ some '\'') :
    read? (double '\'' s ++ '\'' :: after) = some (s, after) ↔ IsKept s := by
  fun_induction IsKept s with
  | case1 => simpa using read?_quote h
  | case2 c rest ih =>
    rw [double_cons_of_ne (by decide)]
    by_cases hc : c = '\''
    · subst hc
      rw [double_cons_mark, List.cons_append, List.cons_append, read?]
      simp [meaning]
    · rw [double_cons_of_ne hc, List.cons_append, List.cons_append, read?]
      constructor
      · intro hread
        obtain ⟨⟨u, _⟩, hrest, heq⟩ := Option.map_eq_some_iff.1 hread
        obtain ⟨hu, rfl⟩ := Prod.mk.inj heq
        have hhead : (meaning c).head? = some '\\' := by
          have happend := congrArg List.head? hu
          rw [List.head?_append] at happend
          cases hm : meaning c with
          | nil => exact absurd hm (meaning_ne_nil c)
          | cons d _ => simpa [hm] using happend
        rcases eq_of_head?_meaning hhead with rfl | rfl | rfl
        · have hlt := two_mul_length_le hrest
          obtain rfl : u = '\\' :: rest := by simpa [meaning] using hu
          simp only [weight_append, weight_double, weight, if_true, List.length_cons] at hlt
          omega
        · obtain rfl : u = rest := by simpa [meaning] using hu
          exact ⟨.inl rfl, ih.1 hrest⟩
        · obtain rfl : u = rest := by simpa [meaning] using hu
          exact ⟨.inr rfl, ih.1 hrest⟩
      · rintro ⟨rfl | rfl, hrest⟩ <;> simp [ih.2 hrest, meaning]
  | case3 => simp [double, read?, meaning]
  | case4 c rest _ hescape ih =>
    have hc : c ≠ '\\' := by rintro rfl; cases rest <;> simp_all
    by_cases hquote : c = '\''
    · subst hquote
      rw [double_cons_mark, List.cons_append, List.cons_append, read?, ← ih]
      simp
    · rw [double_cons_of_ne hquote, List.cons_append, read?_cons_of_ne hc hquote, ← ih]
      simp

/-! ### The texts of a dialect -/

/-- The literal of a text is an opening quote and what is read as the text, whatever follows it,
just if every backslash in the text is kept. A quote never follows a literal. -/
theorem mysql_text_reads_back_iff (s : Scope) (t : String) :
    ∃ body, Dialect.mysql.formatValue s (.lit (.text t)) = .ok (String.ofList ('\'' :: body)) ∧
      ∀ after : List Char, after.head? ≠ some '\'' →
        (read? (body ++ after) = some (t.toList, after) ↔ IsKept t.toList) := by
  refine ⟨double '\'' t.toList ++ ['\''], rfl, fun after hafter => ?_⟩
  rw [List.append_assoc, List.singleton_append]
  exact read?_double_iff hafter

/-- Two comparisons of a field, with a backslash and with a text that begins in SQL, and their
disjunction. -/
def escapingTexts : Graph :=
  ⟨#[.node (.field (.lit (.integer 1))),
    .node (.equal (.part 0) (.part 2)), .tuple [.lit (.text "\\")],
    .node (.equal (.part 0) (.part 4)), .tuple [.lit (.text " OR 1=1 -- ")],
    .node (.or (.part 1) (.part 3))]⟩

/-- The literal of a backslash is never closed. With another literal behind it the two are read as
one text up to that one's opening quote, and what it holds is read as SQL. -/
theorem mysql_backslash_escapes_quote :
    Compiler.compile {} escapingTexts "mysql" [(.lit (.integer 1), some "name")]
        ⟨.part 1, .lit .null⟩ = .ok "SELECT * WHERE \x60name\x60 = '\\';" ∧
    read? "\\';".toList = none ∧
    Compiler.compile {} escapingTexts "mysql" [(.lit (.integer 1), some "name")]
        ⟨.part 5, .lit .null⟩ =
      .ok "SELECT * WHERE \x60name\x60 = '\\' OR \x60name\x60 = ' OR 1=1 -- ';" ∧
    read? "\\' OR \x60name\x60 = ' OR 1=1 -- ';".toList =
      some ("' OR \x60name\x60 = ".toList, " OR 1=1 -- ';".toList) := by
  decide +kernel

end FilterCompiler.Text.Backslash
