/-! Quoted tokens: a mark on both sides, and each mark inside written twice. The
reader `read?` undoes the doubling and stops behind the closing mark, so a token is
found again whatever follows it, unless that begins with one more mark. `scan?` reads
also tokens in which a backslash keeps the next character from having a meaning. -/

namespace FilterCompiler.Text.Quoted

/-- A text with every mark written twice. -/
def double (mark : Char) (s : List Char) : List Char :=
  s.flatMap fun c => if c = mark then [mark, mark] else [c]

/-- A text between an opening and a closing mark, the closing one doubled inside. -/
def enclose (opening closing : Char) (s : String) : String :=
  String.ofList (opening :: (double closing s.toList ++ [closing]))

def quote (mark : Char) (s : String) : String := enclose mark mark s

/-- Reads on behind an opening mark: the text, and what follows the closing mark. With
`escapes` a backslash stands for the character behind it. `acc` holds what was read, the
last character first. -/
def scan? (escapes : Bool) (mark : Char) :
    List Char → List Char → Option (List Char × List Char)
  | _, [] => none
  | acc, c :: rest =>
    if escapes = true ∧ c = '\\' then
      match rest with
      | d :: after => scan? escapes mark (d :: acc) after
      | [] => none
    else if c = mark then
      match rest with
      | d :: after =>
        if d = mark then scan? escapes mark (mark :: acc) after
        else some (acc.reverse, d :: after)
      | [] => some (acc.reverse, [])
    else scan? escapes mark (c :: acc) rest

/-- Reads on behind an opening mark where only the mark itself has a meaning. -/
def read? (mark : Char) (s : List Char) : Option (List Char × List Char) :=
  scan? false mark [] s

@[simp] theorem double_nil (mark : Char) : double mark [] = [] := rfl

theorem double_cons_mark (mark : Char) (s : List Char) :
    double mark (mark :: s) = mark :: mark :: double mark s := by simp [double]

theorem double_cons_of_ne {mark c : Char} (h : c ≠ mark) (s : List Char) :
    double mark (c :: s) = c :: double mark s := by simp [double, h]

theorem scan?_close {mark : Char} {after : List Char} (h : after.head? ≠ some mark)
    (acc : List Char) : scan? false mark acc (mark :: after) = some (acc.reverse, after) := by
  cases after with
  | nil => simp [scan?]
  | cons d rest =>
    have : d ≠ mark := by simpa using h
    simp [scan?, this]

theorem scan?_double (mark : Char) (s after acc : List Char) (h : after.head? ≠ some mark) :
    scan? false mark acc (double mark s ++ mark :: after) = some (acc.reverse ++ s, after) := by
  induction s generalizing acc with
  | nil => simpa using scan?_close h acc
  | cons c rest ih =>
    by_cases hc : c = mark
    · subst hc; simp [double_cons_mark, scan?, ih]
    · rw [double_cons_of_ne hc, List.cons_append, scan?.eq_def]
      simp [hc, ih]

end FilterCompiler.Text.Quoted
