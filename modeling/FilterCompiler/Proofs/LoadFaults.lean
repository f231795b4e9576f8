import FilterCompiler.Proofs.Loading

/-! The faults that leave the loading of a file. Each stage can fail: the path, opening, decoding,
the checks of the text, its markup, the shape of the data and each condition. Proved here, for
reading of markup that gives data or finds that a text is no markup: all of these faults are
problems with the file but three, and when each of the three comes. -/

namespace FilterCompiler.DefinitionFile

variable {g : Graph} {x : Operand} {rows : List (Operand × Operand)} {f : Fault}

/-- A fault is no problem with a file. -/
def IsStray (f : Fault) : Prop := f.code? ≠ some "MACRO_FILE"

theorem not_isStray_badFile (p : Problem) : ¬ IsStray (.badFile p) := fun h => h rfl

theorem not_isStray_refuse {α : Type} {p : Problem} :
    ¬ ((refuse p : Except Fault α) = .error f ∧ IsStray f) := by
  rintro ⟨h, hstray⟩
  cases h
  exact not_isStray_badFile p hstray

/-- The first row that cannot be loaded is one whose key has no text. -/
def IsNameless (g : Graph) (rows : List (Operand × Operand)) : Prop :=
  ∃ before row after, rows = before ++ row :: after ∧ (∀ r ∈ before, IsSound g r) ∧
    g.text? row.1 = none

/-- A record that is not sound has a first row that is not. -/
theorem all_isSound_or_first (g : Graph) (rows : List (Operand × Operand)) :
    (∀ row ∈ rows, IsSound g row) ∨
    ∃ before row after, rows = before ++ row :: after ∧ (∀ r ∈ before, IsSound g r) ∧
      ¬ IsSound g row := by
  induction rows with
  | nil => exact .inl (by simp)
  | cons row rest ih =>
    by_cases hrow : IsSound g row
    · refine ih.imp (fun h => List.forall_mem_cons.2 ⟨hrow, h⟩) ?_
      rintro ⟨before, bad, after, rfl, hbefore, hbad⟩
      exact ⟨row :: before, bad, after, rfl, List.forall_mem_cons.2 ⟨hrow, hbefore⟩, hbad⟩
    · exact .inr ⟨[], row, rest, rfl, by simp, hrow⟩

/-- Only a key without a text ends the loading of a record with a stray fault. -/
theorem readBodies_stray_iff (hdata : g.IsData x) (hshape : checkShape g x = .ok ())
    (hrows : g.entries? x = some rows) (file : String) :
    readBodies file (NameTable.ofList []) g rows = .error f ∧ IsStray f ↔
      f = .integerTooLong ∧ IsNameless g rows := by
  constructor
  · rintro ⟨hrun, hstray⟩
    rcases all_isSound_or_first g rows with hsound | ⟨before, row, after, rfl, hsound, hrow⟩
    · obtain ⟨entries, H, _, _, hok⟩ := readBodies_append hdata hshape hrows file
        (List.Subset.refl _) hsound (.refl g) [] []
      rw [List.append_nil] at hok
      cases hok.symm.trans hrun
    · obtain ⟨entries, H, hH, _, hon⟩ := readBodies_append hdata hshape hrows file
        (List.subset_append_left _ _) hsound (.refl g) [] (row :: after)
      have hmem := List.mem_append_right before (List.mem_cons_self (a := row) (l := after))
      obtain ⟨hrejected, hnameless⟩ := readBodies_of_not_isSound hdata hshape hrows file
        (NameTable.ofList ([] ++ entries)) hmem hH after
      cases hname : g.text? row.1 with
      | none =>
        cases (hon.trans (hnameless hname)).symm.trans hrun
        exact ⟨rfl, before, row, after, rfl, hsound, hname⟩
      | some name =>
        cases hread : RawForm.read [] g row.2 with
        | ok p => exact absurd ⟨⟨name, hname⟩, p, hread⟩ hrow
        | error e =>
          cases (hon.trans (hrejected name e hname hread)).symm.trans hrun
          exact absurd hstray (not_isStray_badFile _)
  · rintro ⟨rfl, before, row, after, rfl, hsound, hname⟩
    obtain ⟨entries, H, hH, _, hon⟩ := readBodies_append hdata hshape hrows file
      (List.subset_append_left _ _) hsound (.refl g) [] (row :: after)
    refine ⟨hon.trans ?_, by simp [IsStray, Fault.code?]⟩
    exact (readBodies_of_not_isSound hdata hshape hrows file _ (by simp) hH after).2 hname

/-- Reading gives the data of a text or finds that it is no markup. -/
def MarkupReading.Delivers (read : MarkupReading) (g : Graph) (text : String) : Prop :=
  (∃ data G, read g text = (.ok data, G) ∧ G.IsData data) ∨
    ∃ G, read g text = (.error .malformed, G)

/-- A new reader delivers every text but those on which it fails. -/
theorem delivers_readingOf_iff (hg : g.IsClosed) (text : String) :
    (readingOf {}).Delivers g text ↔ ∀ f, (readingOf {} g text).1 ≠ .error (.faulty f) := by
  cases hread : readingOf {} g text with
  | mk result G =>
    rcases result with (_ | f) | data
    · exact iff_of_true (.inr ⟨G, hread⟩) (by simp)
    · exact iff_of_false (by simp [MarkupReading.Delivers, hread]) (by simp)
    · exact iff_of_true (.inl ⟨data, G, hread, readingOf_isData hg hread⟩) (by simp)

/-- The first row of a text that cannot be loaded is one whose key has no text. -/
def IsNamelessText (read : MarkupReading) (g : Graph) (text : String) : Prop :=
  ∃ data G rows, checkSafety text.toList = .ok () ∧ read g text = (.ok data, G) ∧
    checkShape G data = .ok () ∧ G.entries? data = some rows ∧ IsNameless G rows

theorem ofData_stray_iff (hdata : g.IsData x) (file : String) :
    ofData file g x = .error f ∧ IsStray f ↔ f = .integerTooLong ∧
      ∃ rows, checkShape g x = .ok () ∧ g.entries? x = some rows ∧ IsNameless g rows := by
  cases hrows : g.entries? x with
  | some rows =>
    rw [ofData_of_entries hrows]
    cases hshape : checkShape g x with
    | error p => exact iff_of_false not_isStray_refuse (by simp)
    | ok u => simpa using readBodies_stray_iff hdata hshape hrows file
  | none =>
    refine iff_of_false ?_ (by simp)
    unfold ofData
    split
    · simp
    · next h => simp [hrows] at h
    · exact not_isStray_refuse

theorem ofTextBy_stray_iff {read : MarkupReading} {text : String} (hread : read.Delivers g text)
    (file : String) :
    ofTextBy read file g text = .error f ∧ IsStray f ↔
      f = .integerTooLong ∧ IsNamelessText read g text := by
  unfold ofTextBy IsNamelessText
  cases hsafe : checkSafety text.toList with
  | error p => exact iff_of_false not_isStray_refuse (by simp)
  | ok u =>
    rcases hread with ⟨data, G, htext, hdata⟩ | ⟨G, htext⟩
    · have hrun : ((dataOf file (read g text).1).bind (ofData file (read g text).2)) =
          ofData file G data := by rw [htext]; rfl
      dsimp only
      rw [hrun, ofData_stray_iff hdata]
      simp only [htext, Prod.mk.injEq, Except.ok.injEq, true_and]
      constructor
      · rintro ⟨rfl, rows, h⟩
        exact ⟨rfl, data, G, rows, ⟨rfl, rfl⟩, h⟩
      · rintro ⟨rfl, _, _, rows, ⟨rfl, rfl⟩, h⟩
        exact ⟨rfl, rows, h⟩
    · have hrun : ((dataOf file (read g text).1).bind (ofData file (read g text).2)) =
          refuse (.notMarkup file) := by rw [htext]; rfl
      dsimp only
      rw [hrun]
      exact iff_of_false not_isStray_refuse (by simp [htext])

theorem decode_bind {α : Type} (content : ByteArray) (k : String → Except Fault α) :
    decode content >>= k =
      match Text.decode? content with
      | some text => k text
      | none => .error .undecodable := by
  unfold decode
  cases Text.decode? content <;> rfl

/-- The stray faults of loading a file: its path has a null, its bytes are no text, or the first row
of its text that cannot be loaded has a key without a text. -/
inductive Strays (read : MarkupReading) (g : Graph) (folder : Folder) (path : FilePath) :
    Fault → Prop
  | nullInPath (null : path.hasNull = true) : Strays read g folder path .nullInPath
  | undecodable {content : ByteArray} (null : path.hasNull = false)
      (opened : folder.open? path = .ok content) (decoded : Text.decode? content = none) :
      Strays read g folder path .undecodable
  | nameless {content : ByteArray} {text : String} (null : path.hasNull = false)
      (opened : folder.open? path = .ok content) (decoded : Text.decode? content = some text)
      (row : IsNamelessText read g text) : Strays read g folder path .integerTooLong

/-- Where reading gives the data of a file's text or finds that it is no markup, these are the only
faults of loading the file that are no problems with it. -/
theorem loadBy_stray_iff (read : MarkupReading) (g : Graph) (folder : Folder) (path : FilePath)
    (hread : ∀ content text, folder.open? path = .ok content → Text.decode? content = some text →
      read.Delivers g text) (f : Fault) :
    loadBy read g folder path = .error f ∧ f.code? ≠ some "MACRO_FILE" ↔
      Strays read g folder path f := by
  constructor
  · rintro ⟨hrun, hstray⟩
    unfold loadBy at hrun
    split at hrun
    · next hnull =>
      cases hrun
      exact .nullInPath hnull
    · next hnull =>
      have hnull : path.hasNull = false := by simpa using hnull
      split at hrun
      · exact absurd ⟨hrun, hstray⟩ not_isStray_refuse
      · next content hopen =>
        rw [decode_bind] at hrun
        cases htext : Text.decode? content with
        | none =>
          rw [htext] at hrun
          cases hrun
          exact .undecodable hnull hopen htext
        | some text =>
          rw [htext] at hrun
          obtain ⟨rfl, hrow⟩ :=
            (ofTextBy_stray_iff (hread content text hopen htext) _).1 ⟨hrun, hstray⟩
          exact .nameless hnull hopen htext hrow
  · rintro (hnull | ⟨hnull, hopen, htext⟩ | ⟨hnull, hopen, htext, hrow⟩)
    · exact ⟨by rw [loadBy, if_pos hnull], by simp [Fault.code?]⟩
    · refine ⟨?_, by simp [Fault.code?]⟩
      simp only [loadBy, hnull, hopen, decode_bind, htext, Bool.false_eq_true, if_false]
    · obtain ⟨hrun, hstray⟩ :=
        (ofTextBy_stray_iff (hread _ _ hopen htext) path.text).2 ⟨rfl, hrow⟩
      refine ⟨?_, hstray⟩
      simp only [loadBy, hnull, hopen, decode_bind, htext, Bool.false_eq_true, if_false, hrun]

/-- A file with two conditions, one of a single byte that is no text, and one with another text. -/
def threeFiles : Folder :=
  ⟨[(⟨0, ["tests.yaml"]⟩, numberedText.toUTF8), (⟨0, ["byte.yaml"]⟩, ⟨#[0xff]⟩),
    (⟨0, ["long.yaml"]⟩, "long: text".toUTF8)]⟩

/-- A reading for which every text is the data at the start of a graph. -/
def readingAs (g : Graph) : MarkupReading := fun _ _ => (.ok (.part 0), g)

/-- A record with one condition, whose key is an integer. -/
def integerKey (n : Int) : Graph :=
  ⟨#[.record [(.lit (.integer n), .part 1)], .list [.lit (.text "field"), .lit (.integer 1)]]⟩

theorem isData_integerKey (n : Int) : (integerKey n).IsData (.part 0) :=
  .of_no_tuple (Graph.isClosed_iff.2 (by simp [integerKey, Part.operands, Graph.Has]))
    (by simp [integerKey, Graph.Has]) (by simp [integerKey])

/-- Two conditions are loaded without a stray fault. Bytes that are no text are one, and so is the
key of a row that is too long for a text. -/
theorem threeFiles_strays :
    (∀ f, ¬ (loadBy (readingAs numberedTests) {} threeFiles ⟨0, ["tests.yaml"]⟩ = .error f ∧
      f.code? ≠ some "MACRO_FILE")) ∧
    loadBy (readingAs numberedTests) {} threeFiles ⟨0, ["byte.yaml"]⟩ = .error .undecodable ∧
    ∃ n : Int, loadBy (readingAs (integerKey n)) {} threeFiles ⟨0, ["long.yaml"]⟩ =
      .error .integerTooLong := by
  have hopen : threeFiles.open? ⟨0, ["tests.yaml"]⟩ = .ok numberedText.toUTF8 := by decide +kernel
  have htext : Text.decode? numberedText.toUTF8 = some numberedText := by decide +kernel
  have htests (text : String) : (readingAs numberedTests).Delivers {} text :=
    .inl ⟨_, _, rfl, .of_no_tuple (by decide) (by decide) (by simp [numberedTests])⟩
  have hdelivers := loadBy_stray_iff (readingAs numberedTests) {} threeFiles
  refine ⟨fun f hf => ?_, ?_, ?_⟩
  · cases (hdelivers ⟨0, ["tests.yaml"]⟩ (fun _ text _ _ => htests text) f).1 hf with
    | nullInPath null => exact absurd null (by decide)
    | undecodable _ opened decoded =>
      cases hopen.symm.trans opened
      cases htext.symm.trans decoded
    | nameless _ opened decoded row =>
      obtain ⟨_, _, rows, _, hdata, _, hrows, before, row, after, rfl, _, hname⟩ := row
      cases hdata
      have hshown : ∀ rows, numberedTests.entries? (.part 0) = some rows →
          ∀ row ∈ rows, numberedTests.text? row.1 ≠ none := by
        rintro rows ⟨⟩
        decide +kernel
      exact hshown _ hrows row (by simp) hname
  · have hbyte : threeFiles.open? ⟨0, ["byte.yaml"]⟩ = .ok ⟨#[0xff]⟩ := by decide +kernel
    have hundecodable : Text.decode? ⟨#[0xff]⟩ = none := by decide +kernel
    exact ((hdelivers ⟨0, ["byte.yaml"]⟩ (fun _ text _ _ => htests text) .undecodable).2
      (.undecodable (by decide) hbyte hundecodable)).1
  · obtain ⟨n, hn⟩ : ∃ n : Int, Integer.text? n = none :=
      ⟨Integer.textBound, Integer.text?_eq_none_iff.2 (Nat.le_of_eq (Int.natAbs_natCast _).symm)⟩
    have hlong : threeFiles.open? ⟨0, ["long.yaml"]⟩ = .ok "long: text".toUTF8 := by
      decide +kernel
    have hdecoded : Text.decode? "long: text".toUTF8 = some "long: text" := by decide +kernel
    have hname : (integerKey n).text? (.lit (.integer n)) = none := by
      rw [Graph.text?, Literal.plain?, hn]
    have hrow : IsNamelessText (readingAs (integerKey n)) {} "long: text" :=
      ⟨_, _, _, rfl, rfl, rfl, rfl, [], _, [], rfl, by simp, hname⟩
    exact ⟨n, ((loadBy_stray_iff (readingAs (integerKey n)) {} threeFiles ⟨0, ["long.yaml"]⟩
      (fun _ _ _ _ => .inl ⟨_, _, rfl, isData_integerKey n⟩) .integerTooLong).2
        (.nameless (by decide) hlong hdecoded hrow)).1⟩

/-- A folder with an empty file and one of a single byte that is no text. -/
def twoFiles : Folder := ⟨[(⟨0, ["empty.yaml"]⟩, ⟨#[]⟩), (⟨0, ["byte.yaml"]⟩, ⟨#[0xff]⟩)]⟩

/-- Neither a file that is no text nor a path with a null is refused as a problem with the file. -/
theorem byteFile_strays :
    load {} twoFiles ⟨0, ["byte.yaml"]⟩ = .error .undecodable ∧
      load {} twoFiles ⟨0, ["empty\x00.yaml"]⟩ = .error .nullInPath ∧
      Fault.code? .undecodable ≠ some "MACRO_FILE" ∧
      Fault.code? .nullInPath ≠ some "MACRO_FILE" := by
  have hopen : twoFiles.open? ⟨0, ["byte.yaml"]⟩ = .ok ⟨#[0xff]⟩ := by decide
  have htext : Text.decode? ⟨#[0xff]⟩ = none := by decide +kernel
  have hnull : FilePath.hasNull ⟨0, ["byte.yaml"]⟩ = false := by decide
  refine ⟨?_, rfl, by decide, by decide⟩
  simp only [load, loadBy, hnull, hopen, decode_bind, htext, Bool.false_eq_true, if_false]

end FilterCompiler.DefinitionFile
