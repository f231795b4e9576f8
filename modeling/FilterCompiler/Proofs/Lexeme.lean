import FilterCompiler.Proofs.Formula

/-! Lexemes of a statement, as a reader that knows nothing but quotation marks and delimiters
finds them. Texts stand between apostrophes and names between the marks of the dialect, a mark
inside being written twice and nothing else having a meaning there. A word is a longest run of
other characters up to a delimiter. Proved here: two texts with a delimiter between them are read
as the lexemes of the one and then those of the other, and a quotation is read as what stands in
it. -/

namespace FilterCompiler

inductive Lexeme where
  | word (letters : String)
  | text (content : String)
  | name (content : String)
  | opening | closing | comma | semicolon
deriving DecidableEq, Repr

namespace Lexeme

/-! ### Reading lexemes -/

/-- Where the reading of lexemes is: between two of them, in a word, inside quotation marks, or
right behind a mark that either closes a quotation or is the first of a doubled one. The
characters so far come last one first. -/
inductive State where
  | between
  | word (letters : List Char)
  | inside (quote : Char) (content : List Char)
  | behind (quote : Char) (content : List Char)

def isDelimiter (c : Char) : Bool := [' ', '(', ')', ',', ';'].contains c

/-- What a delimiter itself is read as; a blank is not read as anything. -/
def ofDelimiter : Char → List Lexeme
  | '(' => [opening]
  | ')' => [closing]
  | ',' => [comma]
  | ';' => [semicolon]
  | _ => []

def ofLetters (letters : List Char) : Lexeme := word (String.ofList letters.reverse)

def ofQuoted (quote : Char) (content : List Char) : Lexeme :=
  if quote = '\'' then text (String.ofList content.reverse)
  else name (String.ofList content.reverse)

/-- The lexemes of characters. A quotation never begins or ends within a word, and one that is
not closed is not read at all. -/
def scan? (mark : Char) : State → List Char → Option (List Lexeme)
  | .between, [] => some []
  | .between, c :: rest =>
    if isDelimiter c then (scan? mark .between rest).map (ofDelimiter c ++ ·)
    else if c = '\'' ∨ c = mark then scan? mark (.inside c []) rest
    else scan? mark (.word [c]) rest
  | .word letters, [] => some [ofLetters letters]
  | .word letters, c :: rest =>
    if isDelimiter c then
      (scan? mark .between rest).map fun ts => ofLetters letters :: (ofDelimiter c ++ ts)
    else if c = '\'' ∨ c = mark then none
    else scan? mark (.word (c :: letters)) rest
  | .inside .., [] => none
  | .inside quote content, c :: rest =>
    if c = quote then scan? mark (.behind quote content) rest
    else scan? mark (.inside quote (c :: content)) rest
  | .behind quote content, [] => some [ofQuoted quote content]
  | .behind quote content, c :: rest =>
    if c = quote then scan? mark (.inside quote (c :: content)) rest
    else if isDelimiter c then
      (scan? mark .between rest).map fun ts => ofQuoted quote content :: (ofDelimiter c ++ ts)
    else none

/-- The lexemes of a text with a mark around names. -/
def read? (mark : Char) (s : String) : Option (List Lexeme) := scan? mark .between s.toList

/-! ### Texts put together -/

/-- Whether a text has a delimiter in front. -/
def begins (s : String) : Bool := s.toList.head?.any isDelimiter

/-- Whether a text has a delimiter at its end. -/
def ends (s : String) : Bool := s.toList.getLast?.any isDelimiter

/-- What is between quotation marks was not opened by a delimiter. -/
def State.Proper : State → Prop
  | .inside quote _ | .behind quote _ => isDelimiter quote = false
  | _ => True

/-- Whether reading characters ends between lexemes: none are left, or a delimiter is last. -/
def State.settles (state : State) (s : List Char) : Bool :=
  match s.getLast?, state with
  | some c, _ => isDelimiter c
  | none, .between => true
  | none, _ => false

theorem State.proper_between : State.between.Proper := trivial

/-- Of two or more characters the first does not matter. -/
theorem State.settles_cons (state next : State) (c d : Char) (s : List Char) :
    state.settles (c :: d :: s) = next.settles (d :: s) := by
  unfold settles
  rw [List.getLast?_cons_cons]
  cases h : (d :: s).getLast? with
  | none => simp at h
  | some e => rfl

variable {mark : Char}

/-- A lexeme that is complete before the characters is one before a delimiter, too. -/
theorem scan?_of_delimited {state : State} (hstate : state.Proper) {rest : List Char}
    (hrest : rest.head?.all isDelimiter = true) {ts : List Lexeme}
    (h : scan? mark state [] = some ts) :
    scan? mark state rest = (scan? mark .between rest).map (ts ++ ·) := by
  cases state with
  | between =>
    cases h
    simp
  | word letters =>
    cases h
    cases rest with
    | nil => rfl
    | cons c rest =>
      have hc : isDelimiter c = true := by simpa using hrest
      simp [scan?, hc, Function.comp_def]
  | inside quote content => cases h
  | behind quote content =>
    cases h
    cases rest with
    | nil => rfl
    | cons c rest =>
      have hc : isDelimiter c = true := by simpa using hrest
      have hne : c ≠ quote := by
        rintro rfl
        exact absurd hc (by simpa [State.Proper] using hstate)
      simp [scan?, hc, hne, Function.comp_def]

theorem scan?_append {state : State} (hstate : state.Proper)
    {s rest : List Char} {ts : List Lexeme}
    (hrest : rest.head?.all isDelimiter = true ∨ state.settles s = true)
    (h : scan? mark state s = some ts) :
    scan? mark state (s ++ rest) = (scan? mark .between rest).map (ts ++ ·) := by
  induction s generalizing state ts with
  | nil =>
    rcases hrest with hrest | hrest
    · exact scan?_of_delimited hstate hrest h
    · cases state <;> simp_all [State.settles, scan?]
  | cons c s ih =>
    -- behind the first character, in whatever state that leads to
    have step {next : State} {us : List Lexeme} (hnext : next.Proper)
        (hc : isDelimiter c = true → s = [] → next = .between)
        (hs : scan? mark next s = some us) :
        scan? mark next (s ++ rest) = (scan? mark .between rest).map (us ++ ·) := by
      refine ih hnext (hrest.imp_right fun hlast => ?_) hs
      cases s with
      | nil =>
        rw [hc (by simpa [State.settles] using hlast) rfl]
        rfl
      | cons d s => rwa [← State.settles_cons state next c]
    -- behind a delimiter, `f` putting what was read so far in front
    have delimited {f : List Lexeme → List Lexeme} (hf : ∀ us vs, f us ++ vs = f (us ++ vs))
        (hs : (scan? mark .between s).map f = some ts) :
        (scan? mark .between (s ++ rest)).map f = (scan? mark .between rest).map (ts ++ ·) := by
      obtain ⟨us, hus, rfl⟩ := Option.map_eq_some_iff.1 hs
      rw [step State.proper_between (fun _ _ => rfl) hus, Option.map_map]
      simp only [Function.comp_def, hf]
    rw [List.cons_append]
    cases state with
    | between =>
      rw [scan?] at h ⊢
      split at h
      · next hc =>
        rw [if_pos hc]
        exact delimited (fun _ _ => by simp) h
      · next hc =>
        rw [if_neg hc]
        split at h
        · next hq =>
          rw [if_pos hq]
          refine step ?_ (fun h => absurd h hc) h
          simpa [State.Proper] using hc
        · next hq =>
          rw [if_neg hq]
          exact step trivial (fun h => absurd h hc) h
    | word letters =>
      rw [scan?] at h ⊢
      split at h
      · next hc =>
        rw [if_pos hc]
        exact delimited (fun _ _ => by simp) h
      · next hc =>
        rw [if_neg hc]
        split at h
        · cases h
        · next hq =>
          rw [if_neg hq]
          exact step trivial (fun h => absurd h hc) h
    | inside quote content =>
      rw [scan?] at h ⊢
      split at h
      · next hq =>
        rw [if_pos hq]
        refine step hstate (fun hc => ?_) h
        rw [hq, show isDelimiter quote = false from hstate] at hc
        cases hc
      · next hq =>
        rw [if_neg hq]
        refine step hstate (fun _ hs => ?_) h
        rw [hs] at h
        cases h
    | behind quote content =>
      rw [scan?] at h ⊢
      split at h
      · next hq =>
        rw [if_pos hq]
        refine step hstate (fun _ hs => ?_) h
        rw [hs] at h
        cases h
      · next hq =>
        rw [if_neg hq]
        split at h
        · next hc =>
          rw [if_pos hc]
          exact delimited (fun _ _ => by simp) h
        · cases h

variable {r s t : String} {ts us vs : List Lexeme}

/-- Two texts one behind the other, with a delimiter at the end of the first or in front of the
second. -/
theorem read?_append (hs : read? mark s = some ts)
    (ht : read? mark t = some us) (h : ends s = true ∨ begins t = true) :
    read? mark (s ++ t) = some (ts ++ us) := by
  have hrest : t.toList.head?.all isDelimiter = true ∨
      State.settles .between s.toList = true := by
    rcases h with h | h
    · right
      unfold ends at h
      unfold State.settles
      cases hlast : s.toList.getLast? with
      | none => rfl
      | some c => simpa [hlast] using h
    · left
      unfold begins at h
      cases hhead : t.toList.head? with
      | none => rfl
      | some c => simpa [hhead] using h
  unfold read? at *
  rw [String.toList_append, scan?_append State.proper_between hrest hs, ht]
  rfl

theorem ends_append (h : ends t = true) : ends (s ++ t) = true := by
  unfold ends at *
  rw [String.toList_append, List.getLast?_append]
  cases hlast : t.toList.getLast? with
  | none => simp [hlast] at h
  | some c => simpa [hlast] using h

/-- Two texts with one between them that keeps them apart. -/
theorem read?_between (hr : read? mark r = some ts)
    (hs : read? mark s = some us) (ht : read? mark t = some vs)
    (h : begins s = true ∧ ends s = true) :
    read? mark (r ++ s ++ t) = some (ts ++ us ++ vs) :=
  read?_append (read?_append hr hs (.inr h.1)) ht (.inl (ends_append h.2))

/-- A text between two that keep it apart. -/
theorem read?_around (hr : read? mark r = some ts)
    (hs : read? mark s = some us) (ht : read? mark t = some vs)
    (h : ends r = true ∧ begins t = true) :
    read? mark (r ++ s ++ t) = some (ts ++ us ++ vs) :=
  read?_append (read?_append hr hs (.inl h.1)) ht (.inr h.2)

/-- Several texts with one between each two of them. -/
theorem read?_intercalate (hs : read? mark s = some us)
    (h : begins s = true ∧ ends s = true) {α : Type} {write : α → String}
    {lexemes : α → List Lexeme} (x : α) (xs : List α)
    (hx : ∀ y ∈ x :: xs, read? mark (write y) = some (lexemes y)) :
    read? mark (s.intercalate ((x :: xs).map write)) =
      some (lexemes x ++ xs.flatMap fun y => us ++ lexemes y) := by
  induction xs generalizing x with
  | nil => simpa using hx x (by simp)
  | cons y rest ih =>
    have hrest := ih y fun z hz => hx z (List.mem_cons_of_mem x hz)
    have := read?_between (hx x (by simp)) hs hrest h
    simpa [List.append_assoc] using this

/-! ### Words and quotations -/

/-- Letters of a word: no delimiter and no quotation mark. -/
def IsBare (mark c : Char) : Prop := isDelimiter c = false ∧ c ≠ '\'' ∧ c ≠ mark

theorem scan?_word (letters word : List Char) (hword : ∀ c ∈ word, IsBare mark c) :
    scan? mark (.word letters) word = some [ofLetters (word.reverse ++ letters)] := by
  induction word generalizing letters with
  | nil => rfl
  | cons c word ih =>
    obtain ⟨hc, hc', hc''⟩ := hword c (by simp)
    rw [scan?, if_neg (by simp [hc]), if_neg (by simp [hc', hc'']),
      ih (c :: letters) fun d hd => hword d (by simp [hd])]
    simp

theorem read?_word (hne : s ≠ "") (hs : ∀ c ∈ s.toList, IsBare mark c) :
    read? mark s = some [word s] := by
  unfold read?
  cases h : s.toList with
  | nil => exact absurd (String.toList_eq_nil_iff.1 h) hne
  | cons c tail =>
    rw [h] at hs
    obtain ⟨hc, hc', hc''⟩ := hs c (by simp)
    rw [scan?, if_neg (by simp [hc]), if_neg (by simp [hc', hc'']),
      scan?_word [c] tail fun d hd => hs d (by simp [hd])]
    simp [ofLetters, ← h]

theorem scan?_quoted (quote : Char) (content s : List Char) :
    scan? mark (.inside quote content) (Text.Quoted.double quote s ++ [quote]) =
      some [ofQuoted quote (s.reverse ++ content)] := by
  induction s generalizing content with
  | nil => simp [scan?]
  | cons c s ih =>
    by_cases hc : c = quote
    · subst hc
      rw [Text.Quoted.double_cons_mark, List.cons_append, List.cons_append, scan?, if_pos rfl,
        scan?, if_pos rfl, ih]
      simp
    · rw [Text.Quoted.double_cons_of_ne hc, List.cons_append, scan?, if_neg hc, ih]
      simp

/-- A quotation is read back, whatever stands in it. -/
theorem read?_quote {quote : Char} (hquote : quote = '\'' ∨ quote = mark)
    (hd : isDelimiter quote = false) (s : String) :
    read? mark (Text.Quoted.quote quote s) = some [if quote = '\'' then text s else name s] := by
  have hlist : (Text.Quoted.quote quote s).toList =
      quote :: (Text.Quoted.double quote s.toList ++ [quote]) := by
    simp [Text.Quoted.quote, Text.Quoted.enclose]
  unfold read?
  rw [hlist, scan?, if_neg (by simp [hd]), if_pos hquote, scan?_quoted]
  simp [ofQuoted]

end Lexeme

end FilterCompiler
