import FilterCompiler.Registry
import Mathlib.Data.List.Induction

/-! Registries that come from one another. Any of those that there are can be extended, some of
them more than once, so that they form a tree with the first one at its root. Proved here: each
answers by what was added last on the way to it, its views agree on what names it has, and it
answers in the same way whatever is extended later. -/

namespace FilterCompiler

theorem NameTable.isSome_find?_iff {α : Type} {name : String} {t : NameTable α} :
    (t.find? name).isSome = true ↔ name ∈ t.names := by
  rw [find?, List.lookup_isSome_iff, names, List.mem_map]
  constructor
  · rintro ⟨e, he, hname⟩
    exact ⟨e, he, (eq_of_beq hname).symm⟩
  · rintro ⟨e, he, rfl⟩
    exact ⟨e, he, beq_self_eq_true _⟩

/-- Texts are ordered by the code points of their characters. -/
theorem lt_iff_codePoints_lt {a b : String} :
    a < b ↔ a.toList.map Char.toNat < b.toList.map Char.toNat := by
  have hchars (s t : List Char) : s < t ↔ s.map Char.toNat < t.map Char.toNat := by
    induction s generalizing t with
    | nil => cases t <;> simp
    | cons c s ih =>
      cases t with
      | nil => simp
      | cons d t =>
        have hlt : c < d ↔ c.toNat < d.toNat := Iff.rfl
        simp only [List.map_cons, List.cons_lt_cons_iff, hlt, ih, Char.toNat_inj]
  exact String.lt_iff.trans (hchars _ _)

namespace Registry

variable {α : Type}

/-- The views of a registry agree with one another and with what names stand for. -/
structure Views (r : Registry α) (meaning : String → Option α) : Prop where
  get : ∀ name, r.get name =
    match meaning name with
    | some x => .ok x
    | none => .error (.unknownDialect name r.available)
  contains : ∀ name, r.contains name = true ↔ ∃ x, r.get name = .ok x
  available : ∀ name, name ∈ r.available ↔ r.contains name = true
  ascending : r.available.Pairwise fun a b =>
    a.toList.map Char.toNat < b.toList.map Char.toNat
  toList : r.toList = r.available
  size : r.size = r.available.length

theorem mem_available_iff {r : Registry α} {name : String} :
    name ∈ r.available ↔ r.contains name = true := by
  rw [available, (List.mergeSort_perm _ _).mem_iff, contains, NameTable.isSome_find?_iff]

/-- No name is listed twice, so that the order of the list is strict. -/
theorem available_ascending {r : Registry α} (h : r.entries.names.Nodup) :
    r.available.Pairwise (· < ·) := by
  have htrans (a b c : String) (hab : decide (a ≤ b) = true) (hbc : decide (b ≤ c) = true) :
      decide (a ≤ c) = true :=
    decide_eq_true (String.le_trans (of_decide_eq_true hab) (of_decide_eq_true hbc))
  have htotal (a b : String) : (decide (a ≤ b) || decide (b ≤ a)) = true := by
    simpa using String.le_total a b
  have hsorted : r.available.Pairwise (· ≤ ·) :=
    (List.pairwise_mergeSort htrans htotal r.entries.names).imp of_decide_eq_true
  have hnodup : r.available.Nodup := (List.mergeSort_perm _ _).nodup_iff.2 h
  exact hsorted.imp₂ (fun a b hle hne => String.not_le.1 fun hge =>
    hne (String.le_antisymm hle hge)) hnodup

theorem views {r : Registry α} (h : r.entries.names.Nodup) : r.Views r.entries.find? where
  get name := by
    unfold get
    cases r.entries.find? name <;> rfl
  contains name := by
    unfold contains get
    cases r.entries.find? name <;> simp
  available _ := mem_available_iff
  ascending := (available_ascending h).imp fun hlt => lt_iff_codePoints_lt.1 hlt
  toList := rfl
  size := by rw [available, List.length_mergeSort, NameTable.names, List.length_map, size]

/-! ### One registry from another -/

/-- The registry with entries added in turn. -/
def extendAll (r : Registry α) (way : List (String × α)) : Registry α :=
  way.foldl (fun r e => r.extend e.1 e.2) r

theorem extendAll_concat (r : Registry α) (way : List (String × α)) (e : String × α) :
    r.extendAll (way ++ [e]) = (r.extendAll way).extend e.1 e.2 := by
  simp [extendAll, List.foldl_append]

theorem nodup_extendAll {r : Registry α} (h : r.entries.names.Nodup)
    (way : List (String × α)) : (r.extendAll way).entries.names.Nodup := by
  induction way using List.reverseRecOn with
  | nil => exact h
  | append_singleton way e ih =>
    rw [extendAll_concat]
    exact NameTable.nodup_names_insert ih

/-- What was added last for a name is what it stands for. -/
theorem find?_extendAll (r : Registry α) (way : List (String × α)) (name : String) :
    (r.extendAll way).entries.find? name =
      (way.reverse.lookup name).or (r.entries.find? name) := by
  induction way using List.reverseRecOn with
  | nil => rfl
  | append_singleton way e ih =>
    rw [extendAll_concat, get_extend, ih, List.reverse_append, List.reverse_singleton,
      List.singleton_append, List.lookup_cons]
    by_cases h : name = e.1
    · simp [h]
    · rw [if_neg h, beq_eq_false_iff_ne.2 h]

/-! ### A family of registries -/

/-- Something to add to one of several registries, under a name. -/
structure Addition (α : Type) where
  origin : Nat
  name : String
  value : α

/-- One thing more, if there is the one that it is made from. -/
def grow {β : Type} (add : β → Addition α → β) (made : List β) (a : Addition α) : List β :=
  made ++ (made[a.origin]?.map fun x => add x a).toList

/-- All registries that come from one by additions, in the order in which they were made. -/
def family (start : Registry α) (additions : List (Addition α)) : List (Registry α) :=
  additions.foldl (grow fun r a => r.extend a.name a.value) [start]

/-- What was added on the way from the first registry to each. -/
def ways (additions : List (Addition α)) : List (List (String × α)) :=
  additions.foldl (grow fun way a => way ++ [(a.name, a.value)]) [[]]

theorem map_foldl_grow {β γ : Type} {f : β → γ} {add : β → Addition α → β}
    {add' : γ → Addition α → γ} (h : ∀ x a, f (add x a) = add' (f x) a) (made : List β)
    (additions : List (Addition α)) :
    (additions.foldl (grow add) made).map f = additions.foldl (grow add') (made.map f) := by
  induction additions generalizing made with
  | nil => rfl
  | cons a additions ih =>
    have hgrow : (grow add made a).map f = grow add' (made.map f) a := by
      rw [grow, grow, List.map_append, List.getElem?_map]
      cases made[a.origin]? with
      | none => rfl
      | some x => simp [h]
    rw [List.foldl_cons, ih, hgrow, List.foldl_cons]

/-- What was made stays as it is while more is made. -/
theorem prefix_foldl_grow {β : Type} (add : β → Addition α → β) (made : List β)
    (additions : List (Addition α)) : made <+: additions.foldl (grow add) made := by
  induction additions generalizing made with
  | nil => exact List.prefix_rfl
  | cons a additions ih => exact (List.prefix_append made _).trans (ih (grow add made a))

/-- Each registry is the first one with what was added on the way. -/
theorem family_eq (start : Registry α) (additions : List (Addition α)) :
    family start additions = (ways additions).map start.extendAll := by
  have hadd (way : List (String × α)) (a : Addition α) : start.extendAll
      (way ++ [(a.name, a.value)]) = (start.extendAll way).extend a.name a.value :=
    extendAll_concat start way (a.name, a.value)
  exact .symm (map_foldl_grow hadd [[]] additions)

/-- Wherever a registry stands in the tree of those that come from one: it gives a name what was
added for it last on the way, else what the first registry has; all its views tell the same names,
and so does the fault of a name that it does not have. Registries are values: an addition makes
another one, so after any further additions it is the same as before. -/
theorem family_views {start : Registry α} (hstart : start.entries.names.Nodup)
    (additions further : List (Addition α)) {n : Nat} {r : Registry α}
    (hr : (family start additions)[n]? = some r) :
    (∃ way, (ways additions)[n]? = some way ∧
      r.Views fun name => (way.reverse.lookup name).or (start.entries.find? name)) ∧
    (family start (additions ++ further))[n]? = some r := by
  constructor
  · rw [family_eq, List.getElem?_map, Option.map_eq_some_iff] at hr
    obtain ⟨way, hway, rfl⟩ := hr
    refine ⟨way, hway, ?_⟩
    have hmeaning : (start.extendAll way).entries.find? = fun name =>
        (way.reverse.lookup name).or (start.entries.find? name) :=
      funext (find?_extendAll start way)
    rw [← hmeaning]
    exact views (nodup_extendAll hstart way)
  · obtain ⟨made, hmade⟩ := prefix_foldl_grow _ (family start additions) further
    rw [family, List.foldl_append, ← family, ← hmade, List.getElem?_append_left, hr]
    exact (List.getElem?_eq_some_iff.1 hr).1

/-- A registry of numbers under two names. -/
def twoNames : Registry Nat := ⟨[("postgres", 1), ("mysql", 2)]⟩

/-- Two registries made from the first one, one of them under a name that it has, and a way of two
more from there. -/
def branching : List (Addition Nat) :=
  [⟨0, "mysql", 5⟩, ⟨0, "ansi", 6⟩, ⟨1, "mysql", 7⟩, ⟨3, "Ansi", 8⟩]

/-- The registry that was made last. -/
def lastMade : Registry Nat := ⟨[("postgres", 1), ("mysql", 7), ("Ansi", 8)]⟩

/-- The last registry has what was added last for a name and nothing of the other branch. It lists
capitals first, and an addition to it is none of its own. -/
theorem branching_views :
    twoNames.entries.names.Nodup ∧ (family twoNames branching)[4]? = some lastMade ∧
      lastMade.get "mysql" = .ok 7 ∧ lastMade.get "postgres" = .ok 1 ∧
      lastMade.get "ansi" = .error (.unknownDialect "ansi" ["Ansi", "mysql", "postgres"]) ∧
      lastMade.toList = ["Ansi", "mysql", "postgres"] ∧ lastMade.size = 3 ∧
      (family twoNames (branching ++ [⟨4, "mysql", 9⟩]))[4]? = some lastMade := by
  have hstart : twoNames.entries.names.Nodup := by decide
  have hmade : (family twoNames branching)[4]? = some lastMade := rfl
  have havailable : lastMade.available = ["Ansi", "mysql", "postgres"] := by
    simp [available, lastMade, NameTable.names, List.mergeSort,
      List.MergeSort.Internal.splitInTwo]
  obtain ⟨⟨way, hway, hviews⟩, hlater⟩ :=
    family_views hstart branching [⟨4, "mysql", 9⟩] hmade
  obtain rfl : [("mysql", 5), ("mysql", 7), ("Ansi", 8)] = way := Option.some.inj hway
  refine ⟨hstart, hmade, hviews.get _, hviews.get _, ?_, hviews.toList.trans havailable, ?_,
    hlater⟩
  · rw [← havailable]
    exact hviews.get _
  · rw [hviews.size, havailable]
    rfl

end Registry

end FilterCompiler
