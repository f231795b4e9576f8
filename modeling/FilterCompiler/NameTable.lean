/-! Tables by name that keep the order in which their names first came. Setting a name
again replaces what it stands for and leaves it in its place. -/

namespace FilterCompiler

abbrev NameTable (α : Type) := List (String × α)

namespace NameTable

variable {α : Type}

def find? (name : String) (t : NameTable α) : Option α := t.lookup name

def insert (name : String) (x : α) : NameTable α → NameTable α
  | [] => [(name, x)]
  | (other, y) :: rest =>
    if other = name then (other, x) :: rest else (other, y) :: insert name x rest

/-- Sets every name of a list in turn. -/
def ofList (entries : List (String × α)) : NameTable α :=
  entries.foldl (fun t (name, x) => insert name x t) []

def names (t : NameTable α) : List String := t.map Prod.fst

theorem find?_insert (name other : String) (x : α) (t : NameTable α) :
    (insert name x t).find? other = if other = name then some x else t.find? other := by
  induction t with
  | nil => simp only [insert, find?, List.lookup_cons, List.lookup_nil]; grind
  | cons e rest ih =>
    obtain ⟨key, y⟩ := e
    simp only [find?] at ih ⊢
    unfold insert
    split <;> simp only [List.lookup_cons] <;> grind

theorem find?_map {β : Type} (f : α → β) (name : String) (t : NameTable α) :
    find? name (t.map fun e => (e.1, f e.2)) = (t.find? name).map f := by
  induction t with
  | nil => rfl
  | cons e rest ih =>
    simp only [find?] at ih ⊢
    rw [List.map_cons, List.lookup_cons, List.lookup_cons, ih]
    cases name == e.1 <;> rfl

theorem names_insert (name : String) (x : α) (t : NameTable α) :
    (insert name x t).names = if name ∈ t.names then t.names else t.names ++ [name] := by
  induction t with
  | nil => simp [insert, names]
  | cons e rest ih =>
    obtain ⟨key, y⟩ := e
    simp only [names] at ih ⊢
    unfold insert
    split
    · next h => simp [h]
    · next h => simp [ih]; grind

theorem nodup_names_insert {name : String} {x : α} {t : NameTable α} (h : t.names.Nodup) :
    (insert name x t).names.Nodup := by
  rw [names_insert]
  split
  · exact h
  · next hn => simp [List.nodup_append, h]; grind

end NameTable

end FilterCompiler
