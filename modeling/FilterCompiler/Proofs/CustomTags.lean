import FilterCompiler.Proofs.SelfContainment

/-! Readings with custom tags beside plain ones. A table of custom tags says how rows are read whose
tag is not built in; its readers may do anything. Proved here, for data of any shape: a reading
with a table goes on as the plain one does until that meets a tag of the table as an unknown one. So
what is read plainly is read as the same node of the same graph, with no reader of the table called,
and what is refused for another reason is refused for the same one at the same place. -/

namespace FilterCompiler

namespace RawForm

/-- A reader that ends with a fault. -/
def TagReader.raising (alarm : Fault) : TagReader := fun _ _ _ => throw alarm

/-- The table with the same tags in which every reader raises an alarm. -/
def Extensions.alarmed (ext : Extensions) (alarm : Fault) : Extensions :=
  ext.map fun entry => (entry.1, .raising alarm)

/-- A fault that names a tag of a table as an unknown one. -/
def Extensions.Names (ext : Extensions) (e : Fault) : Prop :=
  ∃ tag place, head? tag = none ∧ (ext.find? tag).isSome ∧
    e = .malformed (.unknownTag (Text.Escaped.text tag)) place

/-- From every memory two readings end alike, unless the first one refuses a tag of a table. -/
def Keeps {α : Type} (ext : Extensions) (plain r : Reading α) : Prop :=
  ∀ m, r m = plain m ∨ ∃ e, plain m = .error e ∧ ext.Names e

theorem Extensions.find?_alarmed (ext : Extensions) (alarm : Fault) (tag : String) :
    (ext.alarmed alarm).find? tag = (ext.find? tag).map fun _ => .raising alarm :=
  NameTable.find?_map (fun _ => TagReader.raising alarm) tag ext

theorem Extensions.names_alarmed {ext : Extensions} {alarm e : Fault} :
    (ext.alarmed alarm).Names e ↔ ext.Names e := by
  simp only [Names, find?_alarmed, Option.isSome_map]

namespace Keeps

variable {α β : Type} {ext : Extensions} {plain r : Reading α}

theorem refl (r : Reading α) : Keeps ext r r := fun _ => .inl rfl

/-- Two readings in a row: where the first ones end alike, the second ones go on from the same. -/
theorem bind {plain' r' : α → Reading β} (h : Keeps ext plain r)
    (h' : ∀ a, Keeps ext (plain' a) (r' a)) : Keeps ext (plain >>= plain') (r >>= r') := by
  intro m
  have hbind (r : Reading α) (r' : α → Reading β) : (r >>= r') m = r m >>= fun p => r' p.1 p.2 :=
    rfl
  rw [hbind, hbind]
  rcases h m with heq | ⟨e, hplain, he⟩
  · rw [heq]
    cases plain m with
    | error e => exact .inl rfl
    | ok p => exact h' p.1 p.2
  · exact .inr ⟨e, by rw [hplain, error_bind], he⟩

/-- Procedures differ only through their readings of conditions. -/
theorem run {condition condition' value : Step → Operand → Reading Operand}
    (h : ∀ step raw, Keeps ext (condition step raw) (condition' step raw)) (p : Procedure)
    (place : Place) : Keeps ext (p.run condition value place) (p.run condition' value place) := by
  induction p with
  | give x | fail fault => exact .refl _
  | condition step raw next ih => exact (h step raw).bind ih
  | value step raw next ih => exact (Keeps.refl (value step raw)).bind ih
  | add part next ih => exact (Keeps.refl (addPart part)).bind ih
  | look next ih => exact (Keeps.refl (RawForm.look Memory.graph)).bind ih

theorem readTagged {condition condition' : Place → Operand → Reading Operand}
    (h : ∀ place raw, Keeps ext (condition place raw) (condition' place raw)) (tag : String)
    (arguments : List Operand) (place : Place) :
    Keeps ext (RawForm.readTagged [] condition tag arguments place)
      (RawForm.readTagged ext condition' tag arguments place) := by
  cases hhead : head? tag with
  | some head =>
    obtain rfl := head?_eq_some_iff.1 hhead
    rw [readTagged_tag, readTagged_tag, Head.read_eq_run, Head.read_eq_run]
    exact .run (fun step => h (place ++ [step])) _ place
  | none =>
    rw [readTagged_unknown hhead, readTagged_of_head?_eq_none hhead]
    cases hfind : ext.find? tag with
    | none => exact .refl _
    | some reader =>
      exact fun m => .inr ⟨_, rfl, tag, place.text, hhead, by rw [hfind]; rfl, rfl⟩

theorem readCondition (room : Nat) (above : List Operand) (place : Place) (raw : Operand) :
    Keeps ext (RawForm.readCondition [] room above place raw)
      (RawForm.readCondition ext room above place raw) := by
  induction room generalizing above place raw with
  | zero => exact .refl _
  | succ room ih =>
    rw [RawForm.readCondition, RawForm.readCondition]
    refine (Keeps.refl (RawForm.look _)).bind fun items => ?_
    split
    · exact .refl _
    · exact .refl _
    · split
      · exact .refl _
      · refine (Keeps.refl (RawForm.look _)).bind fun known => ?_
        split
        · exact .refl _
        · split
          · exact (readTagged (ih _) _ _ place).bind fun _ => .refl _
          · exact .refl _

end Keeps

/-- Whole readings are the same, unless the plain one refuses a tag of the table. -/
theorem readBy_eq_of_not_names {ext : Extensions} {limit : Nat} {g : Graph} {raw : Operand}
    (h : ∀ e, readBy (readCondition [] limit) g raw = .error e → ¬ ext.Names e) :
    readBy (readCondition ext limit) g raw = readBy (readCondition [] limit) g raw := by
  have hrun (ext : Extensions) : readBy (readCondition ext limit) g raw =
      readCondition ext limit [] [] raw ⟨g, {}⟩ >>= fun p => .ok (p.1, p.2.graph) := rfl
  have hkeeps : Keeps ext (readCondition [] limit [] [] raw) (readCondition ext limit [] [] raw) :=
    .readCondition limit [] [] raw
  rcases hkeeps ⟨g, {}⟩ with heq | ⟨e, hplain, he⟩
  · rw [hrun, hrun, heq]
  · exact absurd he (h e (by rw [hrun, hplain, error_bind]))

/-- What is read without custom tags is read with any table of them as the same node of the same
graph, and what is refused is refused for the same, unless that is a tag of the table. No reader of
the table is called then: all of them might as well raise an alarm. -/
theorem readBy_extended (ext : Extensions) (limit : Nat) (g : Graph) (raw : Operand) :
    (∀ x G, readBy (readCondition [] limit) g raw = .ok (x, G) →
      readBy (readCondition ext limit) g raw = .ok (x, G) ∧
        ∀ alarm, readBy (readCondition (ext.alarmed alarm) limit) g raw = .ok (x, G)) ∧
    ∀ e, readBy (readCondition [] limit) g raw = .error e → ¬ ext.Names e →
      readBy (readCondition ext limit) g raw = .error e ∧
        ∀ alarm, readBy (readCondition (ext.alarmed alarm) limit) g raw = .error e := by
  have hsame (h : ∀ e, readBy (readCondition [] limit) g raw = .error e → ¬ ext.Names e) :
      readBy (readCondition ext limit) g raw = readBy (readCondition [] limit) g raw ∧
        ∀ alarm, readBy (readCondition (ext.alarmed alarm) limit) g raw =
          readBy (readCondition [] limit) g raw :=
    ⟨readBy_eq_of_not_names h, fun alarm => readBy_eq_of_not_names fun e he hnames =>
      h e he (Extensions.names_alarmed.1 hnames)⟩
  refine ⟨fun x G hread => ?_, fun e hread hnames => ?_⟩
  · rw [← hread]
    exact hsame fun e he => nomatch hread.symm.trans he
  · rw [← hread]
    exact hsame fun e' he' => Except.error.inj (hread.symm.trans he') ▸ hnames

/-- A pair of one field twice, and a pair of a field that is not one and a row with a custom tag. -/
def pairs : Graph :=
  ⟨#[.list [.lit (.text "field"), .lit (.integer 1)], .list [.lit (.text "and"), .part 0, .part 0],
    .list [.lit (.text "field"), .lit (.text "one")], .list [.lit (.text "Both")],
    .list [.lit (.text "and"), .part 2, .part 3]]⟩

/-- A built-in tag in the table changes nothing, and neither does a custom one behind what is
refused. -/
theorem pairs_extended :
    (∃ x G, read [] pairs (.part 1) = .ok (x, G) ∧
      read [("and", pairReader), ("Both", pairReader)] pairs (.part 1) = .ok (x, G)) ∧
    read [("and", pairReader), ("Both", pairReader)] pairs (.part 4) =
      .error (.malformed .numberNotInteger "[1]") := by
  have hg : pairs.IsClosed := by decide
  have hroom : pairs.parts.size < 6 := by decide
  have hlimit : pairs.parts.size < nestingLimit := by decide
  have hfirst : pairs.Has (.part 1) := by decide
  have hsecond : pairs.Has (.part 4) := by decide
  have hread (n : Nat) := readBy_extended [("and", pairReader), ("Both", pairReader)]
    nestingLimit pairs (.part n)
  constructor
  · have hok := isOk_readBy_eq hg hfirst hroom hlimit
    rw [show (readBy (readPlainly 6) pairs (.part 1)).isOk = true by rfl] at hok
    cases hplain : readBy (readCondition [] nestingLimit) pairs (.part 1) with
    | error e =>
      rw [hplain] at hok
      cases hok
    | ok result => exact ⟨_, _, hplain, ((hread 1).1 _ _ hplain).1⟩
  · have hplain := (readBy_eq_error_iff hg hsecond hroom hlimit).2 rfl
    refine ((hread 4).2 _ hplain ?_).1
    rintro ⟨tag, place, _, _, he⟩
    cases he

end RawForm

end FilterCompiler
