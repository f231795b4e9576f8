import FilterCompiler.Dialect

/-! Registries: dialects by name. A registry never changes; extending one gives another.
Its names are listed in ascending order of their code points. -/

namespace FilterCompiler

structure Registry (α : Type) where
  entries : NameTable α

namespace Registry

variable {α : Type}

/-- The registered names, ascending. -/
def available (r : Registry α) : List String :=
  r.entries.names.mergeSort fun a b => decide (a ≤ b)

/-- The registered names in the order in which one goes through them. -/
def toList (r : Registry α) : List String := r.available

def get (r : Registry α) (name : String) : Except Fault α :=
  match r.entries.find? name with
  | some x => .ok x
  | none => .error (.unknownDialect name r.available)

/-- The registry with a name added or replaced. -/
def extend (r : Registry α) (name : String) (x : α) : Registry α := ⟨r.entries.insert name x⟩

def contains (r : Registry α) (name : String) : Bool := (r.entries.find? name).isSome

def size (r : Registry α) : Nat := r.entries.length

theorem get_extend (r : Registry α) (name other : String) (x : α) :
    (r.extend name x).entries.find? other =
      if other = name then some x else r.entries.find? other :=
  NameTable.find?_insert name other x r.entries

end Registry

def Registry.builtin : Registry Dialect := ⟨Dialect.builtin⟩

end FilterCompiler
