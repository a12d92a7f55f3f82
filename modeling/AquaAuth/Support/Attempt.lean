import AquaAuth.Support.Result
set_option autoImplicit false
/-!
# Computations that may panic

A fallible computation with slices in it.  An error is a value, the panic is `none`.
-/

namespace AquaAuth.Support

/-- A computation that returns a value or an error, or panics. -/
abbrev Attempt (ε α : Type) := ExceptT ε Option α

namespace Attempt

variable {ε α β : Type}

/-- A step that cannot panic. -/
def of (x : Except ε α) : Attempt ε α := ExceptT.mk (some x)

/-- A slice, which panics out of range. -/
def slice (x : Option α) : Attempt ε α := ExceptT.lift x

/-- The computation returns what the total one does. -/
def Agrees (x : Attempt ε α) (y : Except ε α) : Prop := x.run = some y

/-- The computation does not panic. -/
def Returns (x : Attempt ε α) : Prop := ∃ y, Agrees x y

theorem agrees_of (x : Except ε α) : Agrees (of x) x := rfl

theorem agrees_pure (a : α) : Agrees (pure a : Attempt ε α) (pure a) := rfl

theorem agrees_slice_bind {x : Option α} {a : α} {f : α → Attempt ε β} {y : Except ε β}
    (hx : x = some a)
    (hf : Agrees (f a) y) : Agrees (slice x >>= f) y := by
  rw [hx]
  exact hf

theorem Agrees.bind {x : Attempt ε α} {y : Except ε α} {f : α → Attempt ε β} {g : α → Except ε β}
    (hx : Agrees x y) (hf : ∀ a, y = .ok a → Agrees (f a) (g a)) : Agrees (x >>= f) (y >>= g) := by
  have hrun : (x >>= f).run = x.run >>= ExceptT.bindCont f := rfl
  rw [Agrees, hrun, hx]
  cases y with
  | error e => rfl
  | ok a => exact hf a rfl

theorem Agrees.returns {x : Attempt ε α} {y : Except ε α} (h : Agrees x y) : Returns x := ⟨y, h⟩

/-- A slice in front returns when it is in range and the rest returns. -/
theorem returns_slice_bind {x : Option α} {f : α → Attempt ε β} :
    Returns (slice x >>= f) ↔ ∃ a, x = some a ∧ Returns (f a) := by
  cases x with
  | none =>
      constructor
      · rintro ⟨y, hy⟩
        cases hy
      · rintro ⟨a, ha, _⟩
        cases ha
  | some a =>
      constructor
      · intro h
        exact ⟨a, rfl, h⟩
      · rintro ⟨a', ha, h⟩
        obtain rfl : a = a' := Option.some.inj ha
        exact h

/-- A computation behind one that returns. -/
theorem Agrees.returns_bind {x : Attempt ε α} {y : Except ε α} {f : α → Attempt ε β}
    (hx : Agrees x y) : Returns (x >>= f) ↔ ∀ a, y = .ok a → Returns (f a) := by
  have hrun : (x >>= f).run = x.run >>= ExceptT.bindCont f := rfl
  have hbind : ∀ z, Agrees (x >>= f) z ↔ (some y >>= ExceptT.bindCont f) = some z := by
    intro z
    rw [Agrees, hrun, hx]
  cases y with
  | error e =>
      constructor
      · intro _ a ha
        cases ha
      · intro _
        exact ⟨.error e, (hbind _).mpr rfl⟩
  | ok a =>
      constructor
      · rintro ⟨z, hz⟩ a' ha
        obtain rfl : a = a' := Except.ok.inj ha
        exact ⟨z, (hbind z).mp hz⟩
      · intro h
        obtain ⟨z, hz⟩ := h a rfl
        exact ⟨z, (hbind z).mpr hz⟩

/-- A lookup in either of two registries. -/
theorem Agrees.okOr_bind {α' : Type} {R : α → α' → Prop} {x : Option α} {y : Option α'} {e : ε}
    {f : α → Attempt ε β} {g : α' → Except ε β} (hx : Option.Rel R x y)
    (hf : ∀ a b, R a b → Agrees (f a) (g b)) :
    Agrees (of (Result.okOr e x) >>= f) (Result.okOr e y >>= g) := by
  cases hx with
  | none => rfl
  | some h => exact hf _ _ h

/-- Steps over a list, none of which panics. -/
theorem mapM_eq_map {f : α → Option β} {g : α → β} {xs : List α} (h : ∀ x ∈ xs, f x = some (g x)) :
    xs.mapM f = some (xs.map g) := by
  induction xs with
  | nil => rfl
  | cons x xs ih =>
      rw [List.mapM_cons, h x List.mem_cons_self, ih fun y hy => h y (List.mem_cons_of_mem x hy)]
      rfl

/-- The first of the related entries. -/
theorem find?_rel {α' : Type} {R : α → α' → Prop} {xs : List α} {ys : List α'} {p : α → Bool}
    {q : α' → Bool} (h : List.Forall₂ R xs ys) (hpq : ∀ x y, R x y → p x = q y) :
    Option.Rel R (xs.find? p) (ys.find? q) := by
  induction h with
  | nil => exact .none
  | cons hxy _ ih =>
      rw [List.find?_cons, List.find?_cons, hpq _ _ hxy]
      cases q _ with
      | true => exact .some hxy
      | false => exact ih

end Attempt

end AquaAuth.Support
