import FilterCompiler.DefinitionFile
import FilterCompiler.Proofs.Nesting
import Mathlib.Data.List.Induction

/-! What loading a record of named conditions keeps. The rows of the record are read one after the
other, from a graph that grows, into one table. Proved here: a row is read there as it is on its
own; either the first row that cannot be loaded decides how loading ends, or every row is loaded.
Then the table has the texts of the keys in the order in which they first come, and what the last
key of a text stands for, so that nothing is lost exactly if no two keys have the same text. -/

namespace FilterCompiler

namespace NameTable

variable {α : Type}

theorem ofList_concat (entries : List (String × α)) (e : String × α) :
    ofList (entries ++ [e]) = (ofList entries).insert e.1 e.2 := by
  simp [ofList, List.foldl_append]

/-- The names of a table are those that were set, each where it first came. -/
theorem names_ofList (entries : List (String × α)) :
    (ofList entries).names = (entries.map Prod.fst).eraseDups := by
  induction entries using List.reverseRecOn with
  | nil => rfl
  | append_singleton entries e ih =>
    rw [ofList_concat, names_insert, ih, List.map_append, List.eraseDups_append]
    by_cases he : e.1 ∈ entries.map Prod.fst
    · simp [List.mem_eraseDups, he, List.removeAll]
    · simp [List.mem_eraseDups, he, List.removeAll, List.eraseDups_cons]

/-- A name stands for what it was set to last. -/
theorem find?_ofList (before after : List (String × α)) (e : String × α)
    (h : e.1 ∉ after.map Prod.fst) :
    (ofList (before ++ e :: after)).find? e.1 = some e.2 := by
  induction after using List.reverseRecOn with
  | nil => rw [ofList_concat, find?_insert, if_pos rfl]
  | append_singleton after d ih =>
    rw [List.map_append, List.mem_append, not_or] at h
    have hne : e.1 ≠ d.1 := by simpa using h.2
    rw [← List.cons_append, ← List.append_assoc, ofList_concat, find?_insert, if_neg hne, ih h.1]

end NameTable

theorem eraseDups_eq_self_iff {α : Type} [DecidableEq α] {xs : List α} :
    xs.eraseDups = xs ↔ xs.Nodup := by
  induction xs with
  | nil => simp
  | cons x xs ih =>
    rw [List.eraseDups_cons, List.cons_inj_right, List.nodup_cons, ← ih]
    by_cases hx : x ∈ xs
    · have hlost : x ∉ (xs.filter fun y => !y == x).eraseDups := by simp [List.mem_eraseDups]
      simp only [hx, not_true_eq_false, false_and, iff_false]
      intro h
      rw [h] at hlost
      exact hlost hx
    · have hkept : xs.filter (fun y => !y == x) = xs := by
        refine List.filter_eq_self.2 fun y hy => ?_
        simpa using ne_of_mem_of_not_mem hy hx
      simp [hkept, hx]

namespace Graph

variable {g G : Graph} {x y : Operand}

theorem Builds.holds {c : Condition} (h : g.Builds x c) : g.Holds x c := by
  induction h with
  | join node _ _ ihl ihr => exact .join node ihl ihr
  | not node _ ih => exact .not node ih
  | ordering node left right => exact .ordering node left right
  | @equality x y values _ _ _ _ node operand tuple compared =>
    refine .equality node operand ?_ compared
    cases values with
    | lit v => cases tuple
    | part n => simp only [elements?, tuple]
  | nullCheck node value => exact .nullCheck node value
  | field node => exact .field node
  | reference node => exact .reference node

/-- The keys of a record and what they stand for are there. -/
theorem IsData.has_of_entries (h : g.IsData x) {rows : List (Operand × Operand)}
    (hrows : g.entries? x = some rows) {row : Operand × Operand} (hrow : row ∈ rows) :
    g.Has row.1 ∧ g.Has row.2 := by
  have hall : ∀ y ∈ rows.map Prod.fst ++ rows.map Prod.snd, g.Has y := by
    unfold entries? at hrows
    split at hrows
    · next hp => exact Option.some.inj hrows ▸ h.closed.part h.has hp
    · next hp => exact Option.some.inj hrows ▸ h.closed.part h.has hp
    · cases hrows
  exact ⟨hall _ (List.mem_append_left _ (List.mem_map_of_mem hrow)),
    hall _ (List.mem_append_right _ (List.mem_map_of_mem hrow))⟩

end Graph

theorem RawForm.read_field {g : Graph} {raw : Operand} {n : Int}
    (h : g.items? raw = some [.lit (.text "field"), .lit (.integer n)]) :
    read [] g raw = .ok (g.add (.node (.field (.lit (.integer n))))) :=
  (read_of_items rfl h).trans rfl

namespace DefinitionFile

/-- An operand is built as the condition that a raw form of data is read as on its own. -/
def IsBody (g G : Graph) (raw x : Operand) : Prop :=
  ∃ y H c, RawForm.read [] g raw = .ok (y, H) ∧ H.Builds y c ∧ G.Builds x c

/-- A row has a name and a raw form that is read. -/
def IsSound (g : Graph) (row : Operand × Operand) : Prop :=
  (∃ name, g.text? row.1 = some name) ∧ ∃ p, RawForm.read [] g row.2 = .ok p

/-- An entry of a table has the name and the body of a row. -/
def IsEntry (g G : Graph) (row : Operand × Operand) (e : String × Operand) : Prop :=
  g.text? row.1 = some e.1 ∧ IsBody g G row.2 e.2

variable {g G : Graph} {x : Operand} {rows : List (Operand × Operand)} {row : Operand × Operand}

theorem IsEntry.extend {e : String × Operand} (h : IsEntry g G row e) {H : Graph}
    (hH : G.Extends H) : IsEntry g H row e :=
  have ⟨hname, y, K, c, hread, hy, hx⟩ := h
  ⟨hname, y, K, c, hread, hy, hx.extend hH⟩

section Rows

variable (hdata : g.IsData x) (hshape : checkShape g x = .ok ()) (hrows : g.entries? x = some rows)

include hdata hshape hrows

/-- A row of data whose shape is right is read wherever the graph goes on as it is on its own. -/
theorem read_cases_of_extends (hrow : row ∈ rows) (hG : g.Extends G) :
    (∃ y H, RawForm.read [] G row.2 = .ok (y, H) ∧ G.Extends H ∧ IsBody g H row.2 y) ∨
    ∃ f, f.isOwn = true ∧ RawForm.read [] G row.2 = .error f ∧
      RawForm.read [] g row.2 = .error f := by
  have hhas := (hdata.has_of_entries hrows hrow).2
  have hown {G : Graph} (hG : g.Extends G) :=
    (readBy_of_checkShape hdata hshape hrows hrow hG
      (show depthLimit ≤ nestingLimit by decide)).2
  have hcases {G : Graph} (hG : g.Extends G) :=
    RawForm.readBy_cases_of_extends hdata.closed hhas hG nestingLimit (Nat.lt_succ_self _)
  simp only [IsBody, RawForm.read_eq_readBy]
  rcases hcases hG with ⟨y, H, z, K, hy, hz, hH, _, c, hyc, hzc⟩ | ⟨f, _, hy, hz⟩ | ⟨hy, _⟩
  · rcases hcases (.refl g) with ⟨y', H', z', K', hy', hz', _, _, d, hyd, hzd⟩ | ⟨f, _, _, hz'⟩ |
      ⟨hy', _⟩
    · rw [hz] at hz'
      cases hz'
      obtain rfl := hzc.holds.unique hzd.holds
      exact .inl ⟨y, H, hy, hH, y', H', c, hy', hyd, hyc⟩
    · cases hz.symm.trans hz'
    · cases hown (.refl g) _ hy'
  · rcases hcases (.refl g) with ⟨y', H', z', K', hy', hz', _⟩ | ⟨f', _, hy', hz'⟩ | ⟨hy', _⟩
    · cases hz.symm.trans hz'
    · rw [hz] at hz'
      cases hz'
      exact .inr ⟨f, hown hG _ hy, hy, hy'⟩
    · cases hown (.refl g) _ hy'
  · cases hown hG _ hy

omit hshape in
theorem nameOf_eq (hrow : row ∈ rows) (hG : g.Extends G) : nameOf G row.1 = nameOf g row.1 := by
  rw [nameOf, nameOf, hdata.closed.text?_eq hG (hdata.has_of_entries hrows hrow).1]

/-- Rows that can all be loaded are entered into the table, and what follows them goes on from
there. -/
theorem readBodies_append (file : String) {before : List (Operand × Operand)}
    (hbefore : before ⊆ rows) (hsound : ∀ row ∈ before, IsSound g row) (hG : g.Extends G)
    (done : List (String × Operand)) (after : List (Operand × Operand)) :
    ∃ entries H, G.Extends H ∧ List.Forall₂ (IsEntry g H) before entries ∧
      readBodies file (NameTable.ofList done) G (before ++ after) =
        readBodies file (NameTable.ofList (done ++ entries)) H after := by
  induction before generalizing G done with
  | nil => exact ⟨[], G, .refl G, .nil, by rw [List.nil_append, List.append_nil]⟩
  | cons row before ih =>
    obtain ⟨hrow, hbefore⟩ := List.cons_subset.1 hbefore
    obtain ⟨⟨⟨name, hname⟩, p, hp⟩, hsound⟩ := List.forall_mem_cons.1 hsound
    rcases read_cases_of_extends hdata hshape hrows hrow hG with ⟨y, H, hy, hH, hbody⟩ |
      ⟨f, _, _, hf⟩
    · have hgrown := hG.trans hH
      have hnamed : nameOf H row.1 = .ok name := by
        rw [nameOf_eq hdata hrows hrow hgrown, nameOf, hname]
      obtain ⟨entries, K, hK, hentries, hrun⟩ :=
        ih hbefore hsound hgrown (done ++ [(name, y)])
      refine ⟨(name, y) :: entries, K, hH.trans hK, .cons (.extend ⟨hname, hbody⟩ hK) hentries, ?_⟩
      rw [List.cons_append, readBodies, hy]
      dsimp only
      rw [hnamed, ok_bind, ← NameTable.ofList_concat done (name, y), hrun, List.append_assoc]
      rfl
    · cases hp.symm.trans hf

/-- The first row that cannot be loaded decides how loading ends. -/
theorem readBodies_of_not_isSound (file : String) (table : Definitions) (hrow : row ∈ rows)
    (hG : g.Extends G) (after : List (Operand × Operand)) :
    (∀ name f, g.text? row.1 = some name → RawForm.read [] g row.2 = .error f →
      readBodies file table G (row :: after) =
        .error (.badFile (.badBody name file f.message))) ∧
    (g.text? row.1 = none → readBodies file table G (row :: after) = .error .integerTooLong) := by
  rw [readBodies]
  rcases read_cases_of_extends hdata hshape hrows hrow hG with ⟨y, H, hy, hH, z, K, c, hz, _⟩ |
    ⟨e, hown, he, hbody⟩
  · refine ⟨fun name f _ hf => ?_, fun hname => ?_⟩
    · cases hz.symm.trans hf
    · rw [hy]
      dsimp only
      rw [nameOf_eq hdata hrows hrow (hG.trans hH), nameOf, hname, error_bind]
  · rw [he]
    dsimp only
    rw [if_pos hown, nameOf_eq hdata hrows hrow hG, nameOf]
    refine ⟨fun name f hname hf => ?_, fun hname => ?_⟩
    · obtain rfl : e = f := by simpa using hbody.symm.trans hf
      rw [hname, ok_bind]
      rfl
    · rw [hname, error_bind]

end Rows

theorem ofData_of_entries (hrows : g.entries? x = some rows) (file : String) :
    ofData file g x =
      match checkShape g x with
      | .error p => refuse p
      | .ok () => readBodies file (NameTable.ofList []) g rows := by
  cases x with
  | lit v => cases hrows
  | part n =>
    simp only [ofData, hrows]
    rfl

/-- Of a safe text whose markup is a record of the right shape either all conditions are loaded or
none. The first row that cannot be loaded is reported, by its name if its raw form is not read. If
there is none, the table has the texts of the keys in their order, each where it first comes, one
for each row exactly if no two keys have the same text; and the last key of a text has the
condition that its raw form is read as. -/
theorem ofTextBy_record (read : MarkupReading) (file text : String) {g₀ g : Graph} {data : Operand}
    {rows : List (Operand × Operand)} (hsafe : checkSafety text.toList = .ok ())
    (hread : read g₀ text = (.ok data, g)) (hdata : g.IsData data)
    (hrows : g.entries? data = some rows) (hshape : checkShape g data = .ok ()) :
    (∀ before row after, rows = before ++ row :: after → (∀ r ∈ before, IsSound g r) →
      (∀ name f, g.text? row.1 = some name → RawForm.read [] g row.2 = .error f →
        ofTextBy read file g₀ text = .error (.badFile (.badBody name file f.message))) ∧
      (g.text? row.1 = none → ofTextBy read file g₀ text = .error .integerTooLong)) ∧
    ((∀ row ∈ rows, IsSound g row) → ∃ table G names,
      ofTextBy read file g₀ text = .ok (table, G) ∧
      List.Forall₂ (fun row name => g.text? row.1 = some name) rows names ∧
      table.names = names.eraseDups ∧ (table.names = names ↔ names.Nodup) ∧
      ∀ before row after, rows = before ++ row :: after → ∀ name, g.text? row.1 = some name →
        (∀ later ∈ after, g.text? later.1 ≠ some name) →
        ∃ x, table.find? name = some x ∧ IsBody g G row.2 x) := by
  have hrun : ofTextBy read file g₀ text = readBodies file (NameTable.ofList []) g rows := by
    simp only [ofTextBy, hsafe, hread, dataOf, Except.bind, ofData_of_entries hrows, hshape]
  rw [hrun]
  constructor
  · rintro before row after rfl hsound
    obtain ⟨entries, H, hH, _, hrun⟩ := readBodies_append hdata hshape hrows file
      (List.subset_append_left _ _) hsound (.refl g) [] (row :: after)
    rw [hrun]
    exact readBodies_of_not_isSound hdata hshape hrows file _ (by simp) hH after
  · intro hsound
    obtain ⟨entries, H, _, hentries, hrun⟩ := readBodies_append hdata hshape hrows file
      (List.Subset.refl _) hsound (.refl g) [] []
    rw [List.append_nil, List.nil_append] at hrun
    have hnames : (NameTable.ofList entries).names = (entries.map Prod.fst).eraseDups :=
      NameTable.names_ofList entries
    refine ⟨NameTable.ofList entries, H, entries.map Prod.fst, hrun, ?_, hnames, ?_, ?_⟩
    · exact List.forall₂_map_right_iff.2 (hentries.imp fun _ _ h => h.1)
    · rw [hnames, eraseDups_eq_self_iff]
    · rintro before row after rfl name hname hlast
      obtain ⟨e, later, he, hlater, hdrop⟩ := List.forall₂_cons_right_iff.1
        (List.forall₂_drop_append entries before (row :: after) hentries.flip)
      obtain rfl : name = e.1 := Option.some.inj (hname.symm.trans he.1)
      refine ⟨e.2, ?_, he.2⟩
      rw [← List.take_append_drop before.length entries, hdrop]
      refine NameTable.find?_ofList _ later e fun hmem => ?_
      obtain ⟨d, hd, hsame⟩ := List.mem_map.1 hmem
      obtain ⟨other, hother, hentry⟩ := exists_of_forall₂ hlater hd
      exact hlast other hother (hsame ▸ hentry.1)

/-- A record of two conditions under an integer and a text. -/
def numberedTests : Graph :=
  ⟨#[.record [(.lit (.integer 7), .part 1), (.lit (.text "adults"), .part 3)],
    .list [.lit (.text "is-empty"), .part 2], .list [.lit (.text "field"), .lit (.integer 2)],
    .list [.lit (.text ">"), .part 4, .lit (.integer 17)],
    .list [.lit (.text "field"), .lit (.integer 4)]]⟩

def numberedText : String :=
  "7: [is-empty, [field, 2]]\nadults: [\">\", [field, 4], 17]\n"

/-- Both conditions are loaded, each under the text of its key. -/
theorem numberedTests_record :
    checkSafety numberedText.toList = .ok () ∧ numberedTests.IsData (.part 0) ∧
      checkShape numberedTests (.part 0) = .ok () ∧
      ∃ table G, ofTextBy (fun _ _ => (.ok (.part 0), numberedTests)) "<string>" {} numberedText =
          .ok (table, G) ∧
        table.names = ["7", "adults"] ∧
        (∃ x, table.find? "7" = some x ∧ IsBody numberedTests G (.part 1) x) ∧
        ∃ x, table.find? "adults" = some x ∧ IsBody numberedTests G (.part 3) x := by
  have hsafe : checkSafety numberedText.toList = .ok () := rfl
  have hdata : numberedTests.IsData (.part 0) :=
    .of_no_tuple (by decide) (by decide) (by simp [numberedTests])
  have hshape : checkShape numberedTests (.part 0) = .ok () := rfl
  have hempty : ∃ p, RawForm.read [] numberedTests (.part 1) = .ok p :=
    ⟨_, (RawForm.read_of_items rfl rfl).trans rfl⟩
  have hadults : ∃ p, RawForm.read [] numberedTests (.part 3) = .ok p :=
    ⟨_, (RawForm.read_of_items rfl rfl).trans rfl⟩
  have hseven : numberedTests.text? (.lit (.integer 7)) = some "7" := by decide +kernel
  obtain ⟨table, G, names, hrun, hrows, hnames, _, hbodies⟩ :=
    (ofTextBy_record (fun _ _ => (.ok (.part 0), numberedTests)) "<string>" numberedText
      hsafe rfl hdata rfl hshape).2 (List.forall_mem_cons.2 ⟨⟨⟨"7", hseven⟩, hempty⟩,
        List.forall_mem_singleton.2 ⟨⟨"adults", rfl⟩, hadults⟩⟩)
  refine ⟨hsafe, hdata, hshape, table, G, hrun, ?_, ?_, ?_⟩
  · obtain ⟨first, rest, hfirst, hrest, rfl⟩ := List.forall₂_cons_left_iff.1 hrows
    obtain ⟨second, rest, hsecond, hnil, rfl⟩ := List.forall₂_cons_left_iff.1 hrest
    obtain rfl := List.forall₂_nil_left_iff.1 hnil
    obtain rfl : "7" = first := Option.some.inj (hseven.symm.trans hfirst)
    obtain rfl : "adults" = second := Option.some.inj hsecond
    exact hnames
  · exact hbodies [] _ _ rfl "7" hseven (by simp; decide)
  · exact hbodies [_] _ [] rfl "adults" rfl (by simp)

/-- A record of two field references whose keys are the number 42 and its text. -/
def twinKeys : Graph :=
  ⟨#[.record [(.lit (.integer 42), .part 1), (.lit (.text "42"), .part 2)],
    .list [.lit (.text "field"), .lit (.integer 1)],
    .list [.lit (.text "field"), .lit (.integer 2)]]⟩

def twinText : String := "42: [field, 1]\n\"42\": [field, 2]\n"

/-- Of the two conditions only the later one is loaded. -/
theorem twinKeys_lose_body :
    checkSafety twinText.toList = .ok () ∧ twinKeys.IsData (.part 0) ∧
      checkShape twinKeys (.part 0) = .ok () ∧
      twinKeys.entries? (.part 0) =
        some [(.lit (.integer 42), .part 1), (.lit (.text "42"), .part 2)] ∧
      (∃ G, RawForm.read [] twinKeys (.part 1) = .ok (.part 3, G) ∧
        G.Builds (.part 3) (.field 1)) ∧
      ∃ G, ofTextBy (fun _ _ => (.ok (.part 0), twinKeys)) "<string>" {} twinText =
          .ok ([("42", .part 4)], G) ∧
        G.Builds (.part 4) (.field 2) := by
  have hname (g : Graph) : nameOf g (.lit (.integer 42)) = .ok "42" := by
    have htext : Literal.plain? (.integer 42) = some "42" := by decide +kernel
    rw [nameOf, Graph.text?, htext]
  have hload : ofTextBy (fun _ _ => (.ok (.part 0), twinKeys)) "<string>" {} twinText =
      .ok ([("42", .part 4)], ((twinKeys.add (.node (.field (.lit (.integer 1))))).2.add
        (.node (.field (.lit (.integer 2))))).2) := by
    have hrun : ofTextBy (fun _ _ => (.ok (.part 0), twinKeys)) "<string>" {} twinText =
        readBodies "<string>" [] twinKeys
          [(.lit (.integer 42), .part 1), (.lit (.text "42"), .part 2)] := rfl
    rw [hrun, readBodies, RawForm.read_field rfl]
    dsimp only
    rw [hname, ok_bind, readBodies, RawForm.read_field rfl]
    rfl
  exact ⟨rfl, .of_no_tuple (by decide) (by decide) (by simp [twinKeys]), rfl, rfl,
    ⟨_, RawForm.read_field rfl, .field rfl⟩, _, hload, .field rfl⟩

end DefinitionFile

end FilterCompiler
