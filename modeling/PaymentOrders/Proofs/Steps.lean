import Mathlib.Data.List.Forall2
/-!
# Steps that can fail

A sequence of steps that can fail, taken apart: it succeeds exactly when each step does. For
the same step taken with every element of a list, the results stand beside the elements. Where
the steps change a state, the next step starts from the state that the one before it left.
-/

namespace PaymentOrders.Steps

variable {ε ε' α β : Type}

@[simp] theorem bind_ok (a : α) (f : α → Except ε β) : (Except.ok a >>= f) = f a := rfl

@[simp] theorem bind_error (e : ε) (f : α → Except ε β) :
    (Except.error e >>= f) = Except.error e := rfl

theorem bind_eq_ok {x : Except ε α} {f : α → Except ε β} {b : β} :
    (x >>= f) = .ok b ↔ ∃ a, x = .ok a ∧ f a = .ok b := by
  cases x <;> simp

theorem bind_eq_error {x : Except ε α} {f : α → Except ε β} {e : ε} :
    (x >>= f) = .error e ↔ x = .error e ∨ ∃ a, x = .ok a ∧ f a = .error e := by
  cases x <;> simp

theorem mapM_eq_ok {f : α → Except ε β} {xs : List α} {ys : List β} :
    xs.mapM f = .ok ys ↔ List.Forall₂ (fun x y => f x = .ok y) xs ys := by
  induction xs generalizing ys with
  | nil =>
      rw [List.mapM_nil, List.forall₂_nil_left_iff]
      exact ⟨fun h => (Except.ok.inj h).symm, fun h => congrArg Except.ok h.symm⟩
  | cons x xs ih =>
      rw [List.mapM_cons, bind_eq_ok, List.forall₂_cons_left_iff]
      constructor
      · rintro ⟨y, hy, hrest⟩
        obtain ⟨zs, hzs, heq⟩ := bind_eq_ok.mp hrest
        exact ⟨y, zs, hy, ih.mp hzs, (Except.ok.inj heq).symm⟩
      · rintro ⟨y, zs, hy, hzs, rfl⟩
        exact ⟨y, hy, bind_eq_ok.mpr ⟨zs, ih.mpr hzs, rfl⟩⟩

theorem exists_of_forall₂ {r : α → β → Prop} {xs : List α} {ys : List β}
    (h : List.Forall₂ r xs ys) {x : α} (hx : x ∈ xs) : ∃ y ∈ ys, r x y := by
  induction h with
  | nil => cases hx
  | cons hfirst _ ih =>
      rcases List.mem_cons.mp hx with rfl | hx
      · exact ⟨_, List.mem_cons_self .., hfirst⟩
      · obtain ⟨y, hy, hrel⟩ := ih hx
        exact ⟨y, List.mem_cons_of_mem _ hy, hrel⟩

def error? : Except ε α → Option ε
  | .ok _ => none
  | .error e => some e

@[simp] theorem error?_eq_some {x : Except ε α} {e : ε} : error? x = some e ↔ x = .error e := by
  cases x <;> simp [error?]

@[simp] theorem error?_eq_none {x : Except ε α} : error? x = none ↔ ∃ a, x = .ok a := by
  cases x <;> simp [error?]

/-- The first step that fails decides the error. -/
theorem error?_mapM (f : α → Except ε β) (xs : List α) :
    error? (xs.mapM f) = xs.findSome? fun x => error? (f x) := by
  induction xs with
  | nil => rfl
  | cons x xs ih =>
      rw [List.mapM_cons, List.findSome?_cons, ← ih]
      cases f x with
      | error e => rfl
      | ok y => cases xs.mapM f <;> rfl

/-! ## Steps that change a state -/

section State

variable {σ : Type} {s s' : σ} {first : ExceptT ε (StateM σ) α}

@[simp] theorem pure_apply (a : α) (s : σ) : (pure a : ExceptT ε (StateM σ) α) s = (.ok a, s) :=
  rfl

theorem bind_of_ok {next : α → ExceptT ε (StateM σ) β} {a : α} (h : first s = (.ok a, s')) :
    (first >>= next) s = next a s' := by
  simp only [bind, ExceptT.bind, ExceptT.mk, StateT.bind, h]
  rfl

theorem bind_of_error {next : α → ExceptT ε (StateM σ) β} {e : ε}
    (h : first s = (.error e, s')) : (first >>= next) s = (.error e, s') := by
  simp only [bind, ExceptT.bind, ExceptT.mk, StateT.bind, h]
  rfl

theorem bind_apply_eq_ok {next : α → ExceptT ε (StateM σ) β} {b : β} :
    (first >>= next) s = (.ok b, s') ↔
      ∃ a between, first s = (.ok a, between) ∧ next a between = (.ok b, s') := by
  constructor
  · intro h
    rcases hfirst : first s with ⟨answer, between⟩
    cases answer with
    | error e =>
        rw [bind_of_error hfirst] at h
        cases h
    | ok a =>
        rw [bind_of_ok hfirst] at h
        exact ⟨a, between, rfl, h⟩
  · rintro ⟨a, between, hfirst, hnext⟩
    rwa [bind_of_ok hfirst]

theorem map_of_ok {f : α → β} {a : α} (h : first s = (.ok a, s')) :
    (f <$> first) s = (.ok (f a), s') := by
  rw [← bind_pure_comp, bind_of_ok h, pure_apply]

theorem map_of_error {f : α → β} {e : ε} (h : first s = (.error e, s')) :
    (f <$> first) s = (.error e, s') := by
  rw [← bind_pure_comp, bind_of_error h]

theorem map_apply (f : α → β) (first : ExceptT ε (StateM σ) α) (s : σ) :
    (f <$> first) s = ((first s).1.map f, (first s).2) := by
  rcases h : first s with ⟨answer, after⟩
  cases answer with
  | ok a => exact map_of_ok h
  | error e => exact map_of_error h

theorem map_apply_eq_ok {f : α → β} {b : β} :
    (f <$> first) s = (.ok b, s') ↔ ∃ a, first s = (.ok a, s') ∧ f a = b := by
  constructor
  · intro h
    rcases hfirst : first s with ⟨answer, after⟩
    cases answer with
    | error e =>
        rw [map_of_error hfirst] at h
        cases h
    | ok a =>
        rw [map_of_ok hfirst] at h
        cases h
        exact ⟨a, rfl, rfl⟩
  · rintro ⟨a, hfirst, rfl⟩
    exact map_of_ok hfirst

end State

end PaymentOrders.Steps
