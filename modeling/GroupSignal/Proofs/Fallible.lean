/-!
# Steps that may fail

When a chain of steps gives a value: each step does, and the value is that of the last one. A step
that words its refusal anew gives a value whenever the step itself does.

What a chain of steps can refuse with: with what one of its steps can refuse with.

## Main definitions

* `RefusesOnly`: every refusal of a step has a property
* `Fails`: a step is refused, with a property
-/

namespace GroupSignal

variable {ε ε' α β γ : Type}

/-- A step that may fail, and what follows it. -/
theorem bind_eq_ok_iff {x : Except ε α} {f : α → Except ε β} {b : β} :
    (x >>= f) = .ok b ↔ ∃ a, x = .ok a ∧ f a = .ok b := by
  cases x with
  | error e => exact iff_of_false (fun h => by cases h) fun ⟨_, h, _⟩ => by cases h
  | ok a => exact ⟨fun h => ⟨a, rfl, h⟩, fun ⟨_, h, hf⟩ => Except.ok.inj h ▸ hf⟩

theorem mapError_eq_ok_iff {x : Except ε α} {word : ε → ε'} {a : α} :
    x.mapError word = .ok a ↔ x = .ok a := by
  cases x with
  | error e => exact iff_of_false (fun h => by cases h) fun h => by cases h
  | ok a' =>
    show Except.ok a' = .ok a ↔ _
    rw [Except.ok.injEq, Except.ok.injEq]

theorem mapError_eq_error_iff {x : Except ε α} {word : ε → ε'} {e' : ε'} :
    x.mapError word = .error e' ↔ ∃ e, x = .error e ∧ word e = e' := by
  cases x with
  | error e =>
    show Except.error (word e) = .error e' ↔ _
    simp
  | ok a => exact iff_of_false nofun (by simp)

/-- Every refusal of a step has a property. -/
def RefusesOnly (P : ε → Prop) (x : Except ε α) : Prop := ∀ e, x = .error e → P e

section Refusals

variable {P : ε → Prop} {x : Except ε α} {f : α → Except ε β}

theorem refusesOnly_ok (a : α) : RefusesOnly P (.ok a) := nofun

theorem refusesOnly_error {e : ε} (h : P e) : RefusesOnly P (.error e : Except ε α) := by
  intro e' heq
  cases heq
  exact h

theorem RefusesOnly.bind (h : RefusesOnly P x) (hf : ∀ a, x = .ok a → RefusesOnly P (f a)) :
    RefusesOnly P (x >>= f) := by
  cases x with
  | error e => exact refusesOnly_error (h e rfl)
  | ok a => exact hf a rfl

theorem RefusesOnly.mapError {x : Except ε' α} {word : ε' → ε}
    (h : RefusesOnly (fun e => P (word e)) x) : RefusesOnly P (x.mapError word) := by
  cases x with
  | error e => exact refusesOnly_error (h e rfl)
  | ok a => exact refusesOnly_ok a

end Refusals

end GroupSignal
