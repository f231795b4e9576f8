import FilterCompiler.Fault
import Mathlib.Data.List.Forall2

/-! Computations that stop at the first fault, taken apart: what a sequence of two steps comes
to, and what going through a list comes to. -/

namespace FilterCompiler

variable {ε α β : Type} {x : Except ε α} {e : ε}

@[simp] theorem pure_eq_ok (a : α) : (pure a : Except ε α) = .ok a := rfl

@[simp] theorem throw_eq_error (e : ε) : (throw e : Except ε α) = .error e := rfl

@[simp] theorem ok_bind (a : α) (f : α → Except ε β) : (Except.ok a >>= f) = f a := rfl

@[simp] theorem error_bind (e : ε) (f : α → Except ε β) :
    (Except.error e >>= f) = Except.error e := rfl

@[simp] theorem map_ok (a : α) (f : α → β) : (Except.ok a : Except ε α).map f = .ok (f a) := rfl

@[simp] theorem map_error (e : ε) (f : α → β) :
    (Except.error e : Except ε α).map f = .error e := rfl

theorem bind_eq_ok_iff {f : α → Except ε β} {b : β} :
    x >>= f = .ok b ↔ ∃ a, x = .ok a ∧ f a = .ok b := by
  cases x <;> simp

theorem bind_eq_error_iff {f : α → Except ε β} :
    x >>= f = .error e ↔ x = .error e ∨ ∃ a, x = .ok a ∧ f a = .error e := by
  cases x <;> simp

theorem map_eq_ok_iff {f : α → β} {b : β} : x.map f = .ok b ↔ ∃ a, x = .ok a ∧ f a = b := by
  cases x <;> simp

theorem map_eq_error_iff {f : α → β} : x.map f = .error e ↔ x = .error e := by
  cases x <;> simp

theorem map_map {γ : Type} (f : α → β) (g : β → γ) : (x.map f).map g = x.map (g ∘ f) := by
  cases x <;> rfl

theorem mapM_eq_ok_iff {f : α → Except ε β} {xs : List α} {ys : List β} :
    xs.mapM f = .ok ys ↔ List.Forall₂ (fun x y => f x = .ok y) xs ys := by
  induction xs generalizing ys with
  | nil => cases ys <;> simp
  | cons x rest ih =>
    rw [List.mapM_cons, bind_eq_ok_iff]
    simp only [bind_eq_ok_iff, ih, List.forall₂_cons_left_iff]
    constructor
    · rintro ⟨y, hx, ys, hrest, h⟩
      cases h
      exact ⟨y, ys, hx, hrest, rfl⟩
    · rintro ⟨y, ys, hx, hrest, rfl⟩
      exact ⟨y, hx, ys, hrest, rfl⟩

theorem mapM_congr {m : Type → Type} [Monad m] [LawfulMonad m] {f f' : α → m β} {xs : List α}
    (h : ∀ x ∈ xs, f x = f' x) : xs.mapM f = xs.mapM f' := by
  induction xs with
  | nil => rfl
  | cons x rest ih =>
    rw [List.forall_mem_cons] at h
    rw [List.mapM_cons, List.mapM_cons, h.1, ih h.2]

theorem exists_getElem?_of_forall₂ {R : α → β → Prop} {xs : List α} {ys : List β}
    (h : List.Forall₂ R xs ys) {n : Nat} {a : α} (ha : xs[n]? = some a) :
    ∃ b, ys[n]? = some b ∧ R a b := by
  induction h generalizing n with
  | nil => simp at ha
  | @cons x y _ _ hxy _ ih =>
    cases n with
    | zero =>
      obtain rfl : x = a := by simpa using ha
      exact ⟨y, by simp, hxy⟩
    | succ n => simpa using ih (by simpa using ha)

theorem exists_of_forall₂ {R : α → β → Prop} {xs : List α} {ys : List β}
    (h : List.Forall₂ R xs ys) {a : α} (ha : a ∈ xs) : ∃ b ∈ ys, R a b := by
  obtain ⟨n, hn⟩ := List.mem_iff_getElem?.1 ha
  obtain ⟨b, hb, hab⟩ := exists_getElem?_of_forall₂ h hn
  exact ⟨b, List.mem_of_getElem? hb, hab⟩

/-- Going through a list fails where one of its elements does. -/
theorem exists_of_mapM_eq_error {f : α → Except ε β} {xs : List α}
    (h : xs.mapM f = .error e) : ∃ x ∈ xs, f x = .error e := by
  induction xs with
  | nil => cases h
  | cons x rest ih =>
    rw [List.mapM_cons, bind_eq_error_iff] at h
    rcases h with h | ⟨y, _, h⟩
    · exact ⟨x, by simp, h⟩
    · rw [bind_eq_error_iff] at h
      rcases h with h | ⟨ys, _, h⟩
      · obtain ⟨z, hz, hf⟩ := ih h
        exact ⟨z, by simp [hz], hf⟩
      · cases h

theorem exists_mapM_eq_ok_iff {f : α → Except ε β} {xs : List α} :
    (∃ ys, xs.mapM f = .ok ys) ↔ ∀ x ∈ xs, ∃ y, f x = .ok y := by
  constructor
  · rintro ⟨ys, h⟩ x hx
    obtain ⟨y, _, hy⟩ := exists_of_forall₂ (mapM_eq_ok_iff.1 h) hx
    exact ⟨y, hy⟩
  · intro h
    cases hrun : xs.mapM f with
    | ok ys => exact ⟨ys, rfl⟩
    | error e =>
      obtain ⟨x, hx, hfault⟩ := exists_of_mapM_eq_error hrun
      obtain ⟨y, hy⟩ := h x hx
      cases hfault.symm.trans hy

end FilterCompiler
