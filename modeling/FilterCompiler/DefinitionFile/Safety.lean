import FilterCompiler.DefinitionFile.Problem
import FilterCompiler.Text.Blank
import FilterCompiler.Text.Word

/-! What is checked of a text before it is read as markup: its length, and that nothing in
it looks like an anchor. -/

namespace FilterCompiler.DefinitionFile

/-- Whether an anchor may follow a character: it is a blank, a dash, a colon, an opening square
bracket or a comma. -/
def leadsAnchor (c : Char) : Bool := Text.isBlank c || c == '-' || c == ':' || c == '[' || c == ','

/-- Whether a text begins with an ampersand and a word character. -/
def startsAnchor : List Char → Bool
  | '&' :: c :: _ => Text.isWordChar c
  | _ => false

/-- Whether something that looks like an anchor stands in a text, at its start if `led` or behind a
character that may lead one. -/
def hasAnchor : Bool → List Char → Bool
  | _, [] => false
  | led, c :: rest => (led && startsAnchor (c :: rest)) || hasAnchor (leadsAnchor c) rest

theorem hasAnchor_iff {s : List Char} {led : Bool} :
    hasAnchor led s = true ↔
      (led = true ∧ startsAnchor s = true) ∨
        ∃ before c after, s = before ++ c :: after ∧ leadsAnchor c = true ∧
          startsAnchor after = true := by
  induction s generalizing led with
  | nil => simp [hasAnchor, startsAnchor]
  | cons d rest ih =>
    simp only [hasAnchor, Bool.or_eq_true, Bool.and_eq_true, ih]
    constructor
    · rintro (h | ⟨hd, h⟩ | ⟨before, c, after, rfl, h⟩)
      · exact .inl h
      · exact .inr ⟨[], d, rest, rfl, hd, h⟩
      · exact .inr ⟨d :: before, c, after, rfl, h⟩
    · rintro (h | ⟨before, c, after, hs, hc, h⟩)
      · exact .inl h
      · cases before with
        | nil =>
          obtain ⟨rfl, rfl⟩ := List.cons.inj hs
          exact .inr (.inl ⟨hc, h⟩)
        | cons e before =>
          obtain ⟨rfl, rfl⟩ := List.cons.inj hs
          exact .inr (.inr ⟨before, c, after, rfl, hc, h⟩)

def checkSafety (s : List Char) : Except Problem Unit :=
  if sizeLimit < s.length then .error (.tooLong s.length)
  else if hasAnchor true s then .error .anchored
  else .ok ()

end FilterCompiler.DefinitionFile
