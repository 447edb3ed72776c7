/-
**Steps that may fail, one after the other.**

Two steps succeed together exactly if the first one does and the second one does with what the first
one gave.

Main result:

* `bind_eq_ok` — when two steps succeed.
-/

set_option relaxedAutoImplicit false
set_option autoImplicit false

namespace Compliance

variable {ε α β : Type}

@[simp] theorem ok_bind (x : α) (f : α → Except ε β) : (Except.ok x >>= f) = f x := rfl

@[simp] theorem error_bind (e : ε) (f : α → Except ε β) : (Except.error e >>= f) = .error e := rfl

/-- Two steps succeed if the first one does, and the second one with what the first one gave. -/
theorem bind_eq_ok {x : Except ε α} {f : α → Except ε β} {y : β} :
    (x >>= f) = .ok y ↔ ∃ a, x = .ok a ∧ f a = .ok y := by
  cases x with
  | error e =>
      rw [error_bind]
      constructor
      · intro h
        cases h
      · rintro ⟨a, h, _⟩
        cases h
  | ok a =>
      rw [ok_bind]
      constructor
      · intro h
        exact ⟨a, rfl, h⟩
      · rintro ⟨b, h, h'⟩
        cases h
        exact h'

end Compliance
