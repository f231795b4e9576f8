import FilterCompiler.DefinitionFile
import FilterCompiler.Proofs.Shape

/-! Anchors as the markup has them, and which of them the check of a text finds. A text is followed
character by character, so that of every place in it is known whether a node may start there.
Proved here: a text of the right length is refused for an anchor exactly if somewhere in it an
ampersand in front of a word character begins the text or stands behind a character that may lead an
anchor. Of the anchors of the markup these are the ones whose name begins with a word character and
that do not stand right behind a curly bracket; and what else is found stands in a quoted scalar, in
a comment or in a word. -/

namespace FilterCompiler.DefinitionFile

open Markup (isSpace isBreak isFlowMark)

/-! ### Places in a text -/

/-- What a place in a text is. A node may start there, or could behind white space; or it is among
the properties of a node, in a word or behind a node; or in a quoted scalar, where a character may
be escaped and a quotation mark may be the first of two; or in a comment. -/
inductive Spot where
  | start
  | indicator
  | property
  | word
  | single
  | singleMark
  | double
  | doubleEscape
  | comment
deriving DecidableEq, Repr

/-- A place in a text: how many flow collections are around it and whether it begins a line or is
behind white space. -/
structure Outlook where
  spot : Spot := .start
  level : Nat := 0
  blank : Bool := true
deriving DecidableEq, Repr

namespace Outlook

/-- The place behind a character of a line. -/
def goOn (o : Outlook) (spot : Spot) : Outlook := { o with spot, blank := false }

/-- The place behind a character that is neither quoted nor in a comment. The marks of flow
collections are marks in such collections, and those that open one also where a node may start. -/
def bare (o : Outlook) (c : Char) : Outlook :=
  let starts := o.spot == .start
  let flows := o.level != 0
  if isBreak c then { o with spot := .start, blank := true }
  else if isSpace c then
    { o with spot := if o.spot ∈ [.word, .singleMark] then .word else .start, blank := true }
  else if c == '#' && o.blank then o.goOn .comment
  else if (c == '[' || c == '\x7b') && (starts || flows) then
    { o.goOn .start with level := o.level + 1 }
  else if (c == ']' || c == '\x7d') && flows then { o.goOn .word with level := o.level - 1 }
  else if c == ',' && flows then o.goOn .start
  else if c == ':' || ((c == '-' || c == '?') && (starts || o.spot == .indicator)) then
    o.goOn .indicator
  else if (c == '!' || c == '&') && starts then o.goOn .property
  else if c == '\'' && (starts || flows && o.spot == .indicator) then o.goOn .single
  else if c == '"' && (starts || flows && o.spot == .indicator) then o.goOn .double
  else o.goOn (if o.spot = .property then .property else .word)

/-- The place behind a character. -/
def next (o : Outlook) (c : Char) : Outlook :=
  match o.spot with
  | .comment => if isBreak c then { o with spot := .start, blank := true } else o
  | .single => if c == '\'' then o.goOn .singleMark else o
  | .singleMark => if c == '\'' then o.goOn .single else o.bare c
  | .double => if c == '"' then o.goOn .word else if c == '\\' then o.goOn .doubleEscape else o
  | .doubleEscape => o.goOn .double
  | _ => o.bare c

theorem eq_of_bare_start {o : Outlook} {c : Char} (h : (o.bare c).spot = .start) :
    isSpace c = true ∨ isBreak c = true ∨ c = '[' ∨ c = '\x7b' ∨ c = ',' := by
  unfold bare goOn at h
  grind

/-- Where a node may start right behind a character, this is white space or a mark that divides or
opens a flow collection. -/
theorem eq_of_next_start {o : Outlook} {c : Char} (h : (o.next c).spot = .start) :
    isSpace c = true ∨ isBreak c = true ∨ c = '[' ∨ c = '\x7b' ∨ c = ',' := by
  unfold next goOn at h
  split at h
  · grind
  · grind
  · split at h
    · cases h
    · exact eq_of_bare_start h
  · grind
  · cases h
  · exact eq_of_bare_start h

end Outlook

/-! ### Anchors of the markup -/

/-- Whether a character may stand in the name of an anchor. -/
def isAnchorChar (c : Char) : Bool := !(isSpace c || isBreak c || isFlowMark c)

/-- An ampersand between a text and a character is an anchor: a node may start there, and the
character begins a name. -/
def IsAnchor (before : List Char) (c : Char) : Prop :=
  (before.foldl Outlook.next {}).spot = .start ∧ isAnchorChar c = true

/-- An ampersand between a text and a character is found by the check. -/
def IsFound (before : List Char) (c : Char) : Prop :=
  (∀ d ∈ before.getLast?, leadsAnchor d = true) ∧ Text.isWordChar c = true

theorem isBlank_of_isSpace {c : Char} (h : isSpace c = true) : Text.isBlank c = true := by
  simp only [isSpace, Bool.or_eq_true, beq_iff_eq] at h
  rcases h with rfl | rfl <;> rfl

theorem isBlank_of_isBreak {c : Char} (h : isBreak c = true) : Text.isBlank c = true := by
  simp only [isBreak, Bool.or_eq_true, beq_iff_eq] at h
  rcases h with (((rfl | rfl) | rfl) | rfl) | rfl <;> rfl

theorem isAnchorChar_of_isWordChar {c : Char} (h : Text.isWordChar c = true) :
    isAnchorChar c = true := by
  cases hc : isAnchorChar c with
  | true => rfl
  | false =>
    simp only [isAnchorChar, isSpace, isBreak, isFlowMark, Bool.not_eq_false', Bool.or_eq_true,
      beq_iff_eq] at hc
    rcases hc with ((rfl | rfl) | (((rfl | rfl) | rfl) | rfl) | rfl) |
      (((rfl | rfl) | rfl) | rfl) | rfl <;> exact absurd h (by decide +kernel)

/-- Of the anchors of the markup those are found whose name begins with a word character and that do
not stand right behind a curly bracket. -/
theorem IsAnchor.isFound_iff {before : List Char} {c : Char} (h : IsAnchor before c) :
    IsFound before c ↔ before.getLast? ≠ some '\x7b' ∧ Text.isWordChar c = true := by
  refine and_congr_left fun _ => ⟨fun hled hlast => ?_, fun hlast d hd => ?_⟩
  · exact absurd (hled _ hlast) (by decide)
  · obtain ⟨pre, rfl⟩ : ∃ pre, before = pre ++ [d] := List.getLast?_eq_some_iff.1 hd
    have hstart := h.1
    rw [List.foldl_append] at hstart
    rcases Outlook.eq_of_next_start hstart with h | h | rfl | rfl | rfl
    · simp [leadsAnchor, isBlank_of_isSpace h]
    · simp [leadsAnchor, isBlank_of_isBreak h]
    · decide
    · exact absurd hd hlast
    · decide

/-- What is found of a text that holds no anchor of the markup stands where no node may start. -/
theorem IsFound.isAnchor_iff {before : List Char} {c : Char} (h : IsFound before c) :
    IsAnchor before c ↔ (before.foldl Outlook.next {}).spot = .start :=
  and_iff_left (isAnchorChar_of_isWordChar h.2)

/-- Whether a text begins with an ampersand and a character of a name. -/
def startsName : List Char → Bool
  | '&' :: c :: _ => isAnchorChar c
  | _ => false

/-- Whether an anchor of the markup stands in a text. -/
def holdsAnchor : Outlook → List Char → Bool
  | _, [] => false
  | o, c :: rest => (o.spot == .start && startsName (c :: rest)) || holdsAnchor (o.next c) rest

theorem startsName_iff {s : List Char} :
    startsName s = true ↔ ∃ c after, s = '&' :: c :: after ∧ isAnchorChar c = true := by
  unfold startsName
  split <;> simp_all

theorem startsAnchor_iff {s : List Char} :
    startsAnchor s = true ↔ ∃ c after, s = '&' :: c :: after ∧ Text.isWordChar c = true := by
  unfold startsAnchor
  split <;> simp_all

theorem holdsAnchor_iff {s : List Char} {o : Outlook} :
    holdsAnchor o s = true ↔ ∃ before c after, s = before ++ '&' :: c :: after ∧
      (before.foldl Outlook.next o).spot = .start ∧ isAnchorChar c = true := by
  induction s generalizing o with
  | nil => simp [holdsAnchor]
  | cons d rest ih =>
    simp only [holdsAnchor, Bool.or_eq_true, Bool.and_eq_true, beq_iff_eq, ih, startsName_iff]
    constructor
    · rintro (⟨hstart, c, after, hs, hc⟩ | ⟨before, c, after, rfl, hstart, hc⟩)
      · exact ⟨[], c, after, hs, hstart, hc⟩
      · exact ⟨d :: before, c, after, rfl, hstart, hc⟩
    · rintro ⟨before, c, after, hs, hstart, hc⟩
      cases before with
      | nil => exact .inl ⟨hstart, c, after, hs, hc⟩
      | cons e before =>
        obtain ⟨rfl, rfl⟩ := List.cons.inj hs
        exact .inr ⟨before, c, after, rfl, hstart, hc⟩

theorem hasAnchor_iff_isFound {s : List Char} :
    hasAnchor true s = true ↔
      ∃ before c after, s = before ++ '&' :: c :: after ∧ IsFound before c := by
  simp only [hasAnchor_iff, startsAnchor_iff, true_and]
  constructor
  · rintro (⟨c, after, rfl, hc⟩ | ⟨before, d, _, rfl, hd, c, after, rfl, hc⟩)
    · exact ⟨[], c, after, rfl, by simp, hc⟩
    · exact ⟨before ++ [d], c, after, by simp, by simpa using hd, hc⟩
  · rintro ⟨before, c, after, rfl, hled, hc⟩
    rcases List.eq_nil_or_concat before with rfl | ⟨pre, d, rfl⟩
    · exact .inl ⟨c, after, rfl, hc⟩
    · exact .inr ⟨pre, d, '&' :: c :: after, by simp, hled d (by simp), c, after, rfl, hc⟩

/-! ### What a text is refused for -/

theorem readBodies_ne_anchored {file : String} {table : Definitions} {g : Graph}
    {rows : List (Operand × Operand)} :
    readBodies file table g rows ≠ .error (.badFile .anchored) := by
  have hname {key : Operand} (g : Graph) : nameOf g key ≠ .error (.badFile .anchored) := by
    unfold nameOf
    split <;> simp
  induction rows generalizing table g with
  | nil => simp [readBodies]
  | cons row rest ih =>
    rw [readBodies]
    split
    · intro h
      rcases bind_eq_error_iff.1 h with h | ⟨_, _, h⟩
      · exact hname _ h
      · exact ih h
    · next f hf =>
      split
      · intro h
        rcases bind_eq_error_iff.1 h with h | ⟨_, _, h⟩
        · exact hname _ h
        · simp [refuse] at h
      · next hown =>
        intro h
        cases h
        exact hown rfl

theorem ofData_ne_anchored {file : String} {g : Graph} {data : Operand} :
    ofData file g data ≠ .error (.badFile .anchored) := by
  unfold ofData
  split
  · simp
  · split
    · next p hp =>
      rcases measure_eq_error hp with rfl | rfl <;> simp [refuse]
    · exact readBodies_ne_anchored
  · simp [refuse]

/-- Reading markup as such ends with no fault of compiling. -/
def MarkupReading.IsForeign (read : MarkupReading) (g : Graph) (text : String) : Prop :=
  ∀ f, (read g text).1 = .error (.faulty f) → f.isOwn = false

theorem ofTextBy_eq_anchored_iff {read : MarkupReading} {file text : String} {g : Graph}
    (hread : read.IsForeign g text) :
    ofTextBy read file g text = .error (.badFile .anchored) ↔
      checkSafety text.toList = .error .anchored := by
  unfold ofTextBy
  cases checkSafety text.toList with
  | error p => simp [refuse]
  | ok u =>
    refine iff_of_false (fun h => ?_) (by simp)
    cases hdata : (read g text).1 with
    | ok data =>
      simp only [hdata, dataOf, Except.bind] at h
      exact ofData_ne_anchored h
    | error r =>
      cases r with
      | malformed => simp [hdata, dataOf, refuse, Except.bind] at h
      | faulty f =>
        simp only [hdata, dataOf, Except.bind, Except.error.injEq] at h
        subst h
        cases hread _ hdata

/-- A text of the right length is refused for an anchor exactly if the check finds one. Of the
anchors of the markup those are found whose name begins with a word character and that do not stand
right behind a curly bracket; and what is found is one exactly if a node may start there. -/
theorem ofTextBy_anchored (read : MarkupReading) (file text : String) (g : Graph)
    (hread : read.IsForeign g text) (hsize : text.toList.length ≤ sizeLimit) :
    (ofTextBy read file g text = .error (.badFile .anchored) ↔
      ∃ before c after, text.toList = before ++ '&' :: c :: after ∧ IsFound before c) ∧
    (∀ before c after, text.toList = before ++ '&' :: c :: after → IsAnchor before c →
      (IsFound before c ↔ before.getLast? ≠ some '\x7b' ∧ Text.isWordChar c = true)) ∧
    ∀ before c after, text.toList = before ++ '&' :: c :: after → IsFound before c →
      (IsAnchor before c ↔ (before.foldl Outlook.next {}).spot = .start) := by
  refine ⟨?_, fun _ _ _ _ h => h.isFound_iff, fun _ _ _ _ h => h.isAnchor_iff⟩
  rw [ofTextBy_eq_anchored_iff hread, ← hasAnchor_iff_isFound, checkSafety,
    if_neg (Nat.not_lt.2 hsize)]
  cases hasAnchor true text.toList <;> simp

/-- An empty record with a name. -/
def namedRecord : String := "&all \x7b\x7d\n"

/-- The name of the record is found at the start of the text. -/
theorem namedRecord_anchored :
    MarkupReading.IsForeign (fun g _ => ((g.add (.record [])).map .ok id)) {} namedRecord ∧
      namedRecord.toList.length ≤ sizeLimit ∧
      ofTextBy (fun g _ => ((g.add (.record [])).map .ok id)) "<string>" {} namedRecord =
        .error (.badFile .anchored) := by
  have hforeign : MarkupReading.IsForeign (fun g _ => ((g.add (.record [])).map .ok id)) {}
      namedRecord := fun f h => by cases h
  have hsize : namedRecord.toList.length ≤ sizeLimit := by decide
  refine ⟨hforeign, hsize, (ofTextBy_anchored _ "<string>" namedRecord {} hforeign hsize).1.2 ?_⟩
  exact ⟨[], 'a', "ll \x7b\x7d\n".toList, rfl, by simp, by decide +kernel⟩

/-- A text in which a list is named and stands a second time under its name. -/
def dashedName : String := "base: &-b [\">\", [field, 4], 17]\nagain: *-b\n"

/-- A text without anchors, in which an ampersand stands in a quoted scalar. -/
def quotedAmpersand : String := "x: [\"=\", [field, 2], \"R &D\"]\n"

/-- The anchor is not found, and the ampersand is. -/
theorem anchors_mistaken :
    (∃ before c after, dashedName.toList = before ++ '&' :: c :: after ∧ IsAnchor before c) ∧
      (∀ (read : MarkupReading) file g, read.IsForeign g dashedName →
        ofTextBy read file g dashedName ≠ .error (.badFile .anchored)) ∧
      (¬ ∃ before c after, quotedAmpersand.toList = before ++ '&' :: c :: after ∧
        IsAnchor before c) ∧
      ∀ (read : MarkupReading) file g,
        ofTextBy read file g quotedAmpersand = .error (.badFile .anchored) := by
  refine ⟨holdsAnchor_iff.1 (by decide), fun read file g hread h => ?_, fun h => ?_,
    fun read file g => ?_⟩
  · exact absurd ((ofTextBy_eq_anchored_iff hread).1 h) (by decide +kernel)
  · exact absurd (holdsAnchor_iff.2 h) (by decide)
  · have hsafe : checkSafety quotedAmpersand.toList = .error .anchored := by rfl
    rw [ofTextBy, hsafe]
    rfl

end FilterCompiler.DefinitionFile
