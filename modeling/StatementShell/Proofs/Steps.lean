import Mathlib.Tactic.Common
/-!
# Steps with failures and a state

How a sequence of steps ends, said without running it.  Parsers, dispatches and runs are all
sequences of such steps.
-/

namespace StatementShell.Steps

variable {ε σ α β : Type} {s s' : σ}

theorem bind_apply (x : EStateM ε σ α) (f : α → EStateM ε σ β) (s : σ) :
    (x >>= f) s =
      match x s with
      | .ok a s' => f a s'
      | .error e s' => .error e s' := rfl

@[simp] theorem pure_apply (a : α) (s : σ) : (pure a : EStateM ε σ α) s = .ok a s := rfl

@[simp] theorem get_apply (s : σ) : (get : EStateM ε σ σ) s = .ok s s := rfl

@[simp] theorem modify_apply (f : σ → σ) (s : σ) :
    (modify f : EStateM ε σ PUnit) s = .ok ⟨⟩ (f s) := rfl

theorem bind_of_ok {x : EStateM ε σ α} {f : α → EStateM ε σ β} {a : α} (h : x s = .ok a s') :
    (x >>= f) s = f a s' := by
  rw [bind_apply, h]

theorem bind_of_error {x : EStateM ε σ α} {f : α → EStateM ε σ β} {e : ε}
    (h : x s = .error e s') : (x >>= f) s = .error e s' := by
  rw [bind_apply, h]

theorem ite_bind_of_ok {c : Prop} [Decidable c] {x : EStateM ε σ PUnit} {k : EStateM ε σ β}
    (h : x s = .ok ⟨⟩ s') : (if c then x >>= fun _ => k else k) s = k (if c then s' else s) := by
  split
  · exact bind_of_ok h
  · rfl

theorem bind_eq_ok_iff {x : EStateM ε σ α} {f : α → EStateM ε σ β} {b : β} :
    (x >>= f) s = .ok b s' ↔ ∃ a t, x s = .ok a t ∧ f a t = .ok b s' := by
  rw [bind_apply]
  constructor
  · intro h
    cases hx : x s with
    | ok a t =>
      rw [hx] at h
      exact ⟨a, t, rfl, h⟩
    | error e t =>
      rw [hx] at h
      cases h
  · rintro ⟨a, t, hx, hf⟩
    rw [hx]
    exact hf

end StatementShell.Steps
