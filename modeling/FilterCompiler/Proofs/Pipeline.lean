import FilterCompiler.Proofs.Circularity
import FilterCompiler.Proofs.Compilation
import FilterCompiler.Proofs.Expansion
import FilterCompiler.Proofs.Parsing

/-! Reading and then compiling. Whatever is read from raw forms without custom tags holds a
condition that every built-in dialect can write, so only what the condition looks up can be
missing. Proved here: where the condition and all named ones were read, compiling succeeds exactly
if the condition is complete and not nested too deep, and else reports an unknown field, a name
that is not defined or a circular dependency. -/

namespace FilterCompiler

theorem Literal.isCommon_of_isScalar {v : Literal} (h : RawForm.isScalar v = true)
    (hshort : ∀ n, v = integer n → n.natAbs < Integer.textBound) : v.IsCommon := by
  cases v with
  | integer n => exact hshort n rfl
  | null | truth _ | float _ | text _ => trivial
  | decimal _ | bytes _ | day _ | moment _ => cases h

namespace Graph

/-- An operand was read from a raw form without custom tags, none of whose integers is too long to
be shown. Parts may have been added since. -/
def Parsed (g : Graph) (x : Operand) : Prop :=
  ∃ before raw after, RawForm.read [] before raw = .ok (x, after) ∧ after.Extends g ∧
    ∀ n, after.Inside raw (.lit (.integer n)) → n.natAbs < Integer.textBound

theorem Parsed.holdsShowable {g : Graph} {x : Operand} (h : g.Parsed x) : g.HoldsShowable x := by
  obtain ⟨before, raw, after, hread, hg, hshort⟩ := h
  obtain ⟨_, c, hc, hsupplies⟩ := RawForm.read_eq_ok hread
  refine ⟨c, hg.holds hc, fun v hv => ?_, fun n hn => ?_⟩
  · obtain ⟨hscalar, raw', hraw, hin⟩ := hsupplies.literals v hv
    obtain rfl := List.mem_singleton.1 hraw
    exact Literal.isCommon_of_isScalar hscalar fun n hn => hshort n (hn ▸ hin)
  · obtain ⟨raw', hraw, hin⟩ := hsupplies.numbers n hn
    obtain rfl := List.mem_singleton.1 hraw
    exact hshort n hin

theorem HoldsShowable.ne_null {g : Graph} {x : Operand} (h : g.HoldsShowable x) :
    x ≠ .lit .null := by
  rintro rfl
  obtain ⟨c, hc, _⟩ := h
  exact not_holds_lit hc

theorem Extends.holdsShowable {g g' : Graph} (h : g.Extends g') {x : Operand}
    (hx : g.HoldsShowable x) : g'.HoldsShowable x :=
  have ⟨c, hc, hshow⟩ := hx
  ⟨c, h.holds hc, hshow⟩

end Graph

namespace Compiler

variable {c : Compiler} {g : Graph} {fields : Fields} {q : Query} {b : BuiltIn}
  {table : Option String} {limit : Option Nat}

/-- What compiling a condition comes to if all its literals and numbers can be shown, and those of
what the names stand for: a statement of what is complete, giving up at the end of a long way, or a
report of what keeps the condition from being complete. -/
theorem compile_cases (hregistry : c.registry = .builtin) (htable : c.table = tableOperand table)
    (hlimit : q.limit = limitOperand limit) (hbound : ∀ n ∈ limit, n < Integer.textBound)
    (hfields : fields.IsHashed) (hs : (c.scope g fields q).IsDefinedWell)
    (hcondition : q.condition = .lit .null ∨
      (c.scope g fields q).graph.HoldsShowable q.condition) :
    ((∃ sql, c.compile g b.name fields q = .ok sql) ∧
        (c.scope g fields q).IsComplete q.condition) ∨
      (c.compile g b.name fields q = .failed (Fault.nestedTooDeep.within b.name) ∧
        ∃ trail, (c.scope g fields q).IsTrail q.condition trail ∧ c.room ≤ trail.length) ∨
      ∃ e, c.compile g b.name fields q = .failed e ∧ ¬ (c.scope g fields q).IsComplete q.condition ∧
        e.code? ∈ [some "UNKNOWN_FIELD", some "MACRO_NOT_FOUND", some "CIRCULAR_DEPENDENCY"] := by
  rcases hcondition with hnull | hx
  · have hmeans : (c.scope g fields q).Means q.condition none := hnull ▸ .absent
    have hcompile := compile_of_means hregistry htable hlimit hbound (b := b) hmeans
    rw [if_pos (by simp)] at hcompile
    exact .inl ⟨⟨_, hcompile⟩, hnull ▸ Scope.isComplete_null _⟩
  cases h : b.dialect.express (c.scope g fields q) c.room [] q.condition with
  | ok text =>
    obtain ⟨f, hf, hdepth, _⟩ := Scope.express_eq_ok_iff.1 h
    have hcompile := compile_of_means hregistry htable hlimit hbound (b := b) (.formula hf)
    rw [if_pos (by simpa using hdepth)] at hcompile
    exact .inl ⟨⟨_, hcompile⟩, hf.isComplete⟩
  | error e =>
    have hcompile := compile_of_error hregistry htable hlimit hbound hx.ne_null h
    rcases Scope.code?_of_express hfields hs hx h with rfl | hcode
    · refine .inr (.inl ⟨hcompile, ?_⟩)
      rcases Scope.exists_way_of_express_eq_nestedTooDeep (.nil _ _) h with
        ⟨y, hy, hshape⟩ | ⟨trail, y, hway, hlength⟩
      · have hcode := Scope.code?_of_shape hfields (Scope.holdsShowable_of_reaches hs hx hy) hshape
        simp [Fault.code?] at hcode
      · by_cases hempty : trail = []
        · have hroom : c.room = 0 := by simpa [hempty] using hlength.symm
          exact ⟨[q.condition], (Scope.IsWay.nil _ _).isTrail_cons (by simp), by simp [hroom]⟩
        · exact ⟨trail, hway.isTrail hempty, hlength.ge⟩
    · have hown : e.within b.name = e := by
        refine Fault.within_of_isOwn ((Fault.code?_isSome_iff e).1 ?_)
        simp only [List.mem_cons, List.not_mem_nil, or_false] at hcode
        rcases hcode with hcode | hcode | hcode <;> rw [hcode] <;> rfl
      refine .inr (.inr ⟨e, hown ▸ hcompile, fun hcomplete => ?_, hcode⟩)
      obtain ⟨f, hf⟩ := (Scope.exists_stands_iff hs hx).2 hcomplete
      rw [hf.express b c.room [] (by simp)] at h
      split at h
      · cases h
      · cases h
        simp [Fault.code?] at hcode

/-- Compiling what was read succeeds exactly if nothing is missing, and reports what is missing. -/
theorem compile_parsed (b : BuiltIn) (hregistry : c.registry = .builtin)
    (htable : c.table = tableOperand table) (hlimit : q.limit = limitOperand limit)
    (hbound : ∀ n ∈ limit, n < Integer.textBound) (hfields : fields.IsHashed)
    (hcondition : q.condition = .lit .null ∨ g.Parsed q.condition)
    (hdefinitions : ∀ name body, c.definitions.find? name = some body → g.Parsed body) :
    (c.compile g b.name fields q ≠ .failed (Fault.nestedTooDeep.within b.name) →
      ((∃ sql, c.compile g b.name fields q = .ok sql) ↔
        (c.scope g fields q).IsComplete q.condition) ∧
      ((∃ sql, c.compile g b.name fields q = .ok sql) ∨
        ∃ e, c.compile g b.name fields q = .failed e ∧ e.code? ∈
          [some "UNKNOWN_FIELD", some "MACRO_NOT_FOUND", some "CIRCULAR_DEPENDENCY"])) ∧
    (c.compile g b.name fields q = .failed (Fault.nestedTooDeep.within b.name) →
      ∃ trail, (c.scope g fields q).IsTrail q.condition trail ∧ c.room ≤ trail.length) := by
  have hextends : g.Extends (c.scope g fields q).graph := g.extends_add _
  have hs : (c.scope g fields q).IsDefinedWell := fun name body hfound =>
    hextends.holdsShowable (hdefinitions name body hfound).holdsShowable
  rcases compile_cases (b := b) hregistry htable hlimit hbound hfields hs
    (hcondition.imp_right fun h => hextends.holdsShowable h.holdsShowable) with
    ⟨⟨sql, h⟩, hcomplete⟩ | ⟨h, htrail⟩ | ⟨e, h, hcomplete, hcode⟩
  · rw [h]
    exact ⟨fun _ => ⟨⟨fun _ => hcomplete, fun _ => ⟨sql, rfl⟩⟩, .inl ⟨sql, rfl⟩⟩,
      fun he => absurd he Outcome.ok_ne_failed⟩
  · exact ⟨fun hn => absurd h hn, fun _ => htrail⟩
  · rw [h]
    refine ⟨fun _ => ⟨⟨?_, fun hc => absurd hc hcomplete⟩, .inr ⟨e, rfl, hcode⟩⟩, ?_⟩
    · rintro ⟨sql, hsql⟩
      exact absurd hsql Outcome.failed_ne_ok
    · intro he
      cases he
      simp [Fault.within, Fault.category?, Fault.code?] at hcode

/-- Raw forms of a null check and of a reference. -/
def unsetForms : Graph :=
  ⟨#[.list [.lit (.text "field"), .lit (.integer 1)], .list [.lit (.text "is-empty"), .part 0],
    .list [.lit (.text "macro"), .lit (.text "unset")]]⟩

/-- What reading the null check makes of them. -/
def unsetCheck : Graph :=
  ((unsetForms.add (.node (.field (.lit (.integer 1))))).2.add (.node (.isEmpty (.part 3)))).2

/-- What reading the reference makes of that. -/
def unsetReference : Graph := (unsetCheck.add (.node (.reference (.lit (.text "unset"))))).2

theorem parsed_unsetReference :
    unsetReference.Parsed (.part 4) ∧ unsetReference.Parsed (.part 5) := by
  have hextends : unsetCheck.Extends unsetReference := unsetCheck.extends_add _
  have hroom : nestingLimit = 399 + 1 := rfl
  have hcheck : unsetForms.items? (.part 1) = some [.lit (.text "is-empty"), .part 0] := rfl
  have hreference : unsetCheck.items? (.part 2) =
      some [.lit (.text "macro"), .lit (.text "unset")] := rfl
  have hread : RawForm.read [] unsetForms (.part 1) = .ok (.part 4, unsetCheck) := by
    rw [RawForm.read_of_items hroom hcheck]
    rfl
  have hread' : RawForm.read [] unsetCheck (.part 2) = .ok (.part 5, unsetReference) := by
    rw [RawForm.read_of_items hroom hreference]
    rfl
  have hshort {k : Nat} {n : Int} (h : unsetReference.Inside (.part k) (.lit (.integer n))) :
      n.natAbs < Integer.textBound := by
    obtain h | ⟨x, _, items, hitems, hn⟩ := Relation.ReflTransGen.cases_tail h
    · cases h
    · have hone : n = 1 := by
        rcases unsetReference.mem_parts_of_items? hitems with hmem | hmem <;>
          simp [unsetReference, unsetCheck, unsetForms, Graph.add] at hmem
        rcases hmem with rfl | rfl | rfl
        · simpa using hn
        · simp at hn
        · simp at hn
      rw [hone]
      exact Integer.lt_textBound (by decide)
  exact ⟨⟨_, _, _, hread, hextends, fun n hn => hshort (hextends.inside hn)⟩,
    ⟨_, _, _, hread', .refl _, fun n hn => hshort hn⟩⟩

theorem unsetReference_compiles :
    (∃ sql, compile { definitions := [("unset", .part 4)] } unsetReference "postgres"
        [(.lit (.integer 1), some "name")] ⟨.part 5, .lit .null⟩ = .ok sql) ∧
      (scope { definitions := [("unset", .part 4)] } unsetReference
        [(.lit (.integer 1), some "name")] ⟨.part 5, .lit .null⟩).IsComplete (.part 5) := by
  have hmeans : (scope { definitions := [("unset", .part 4)] } unsetReference
      [(.lit (.integer 1), some "name")] ⟨.part 5, .lit .null⟩).Means (.part 5)
      (some (.named (.atom (.isNull false (.column "name"))))) :=
    .formula (.named rfl (.atom rfl))
  have htable : Operand.lit .null = tableOperand none := rfl
  have hlimit : Operand.lit .null = limitOperand none := rfl
  have hcompile := compile_of_means (b := .postgres) rfl htable hlimit (by simp) hmeans
  rw [if_pos (by decide)] at hcompile
  have hfields : Fields.IsHashed [(.lit (.integer 1), some "name")] := by
    rintro e he v hv
    obtain rfl := List.mem_singleton.1 he
    cases hv
    rfl
  have hdefinitions : ∀ name body, NameTable.find? name [("unset", Operand.part 4)] = some body →
      unsetReference.Parsed body := by
    intro name body h
    rw [NameTable.find?, List.lookup_cons, List.lookup_nil] at h
    split at h
    · cases h
      exact parsed_unsetReference.1
    · cases h
  have hiff := ((compile_parsed (q := ⟨.part 5, .lit .null⟩) .postgres rfl htable hlimit (by simp)
    hfields (.inr parsed_unsetReference.2) hdefinitions).1
    (by rw [hcompile]; exact Outcome.ok_ne_failed)).1
  exact ⟨⟨_, hcompile⟩, hiff.1 ⟨_, hcompile⟩⟩

end Compiler

end FilterCompiler
