import Mathlib.Control.Monad.Basic

/-!
When a computation that may fail succeeds. Reading a `do` block from its result back to its parts
needs one rule for each way the parts are put together.
-/
namespace Schematron

variable {α β ε ε' : Type}

@[simp] theorem bind_eq_ok_iff {result : Except ε α} {next : α → Except ε β} {b : β} :
    (result >>= next) = .ok b ↔ ∃ a, result = .ok a ∧ next a = .ok b := by
  cases result <;> simp [bind, Except.bind]

@[simp] theorem pure_eq_ok_iff {a b : α} : (pure a : Except ε α) = .ok b ↔ a = b := by
  simp [pure, Except.pure]

@[simp] theorem map_eq_ok_iff {result : Except ε α} {f : α → β} {b : β} :
    result.map f = .ok b ↔ ∃ a, result = .ok a ∧ f a = b := by
  cases result <;> simp [Except.map]

@[simp] theorem fmap_eq_ok_iff {result : Except ε α} {f : α → β} {b : β} :
    f <$> result = .ok b ↔ ∃ a, result = .ok a ∧ f a = b :=
  map_eq_ok_iff

@[simp] theorem mapError_ok {a : α} {f : ε → ε'} : (Except.ok a).mapError f = .ok a :=
  rfl

@[simp] theorem mapError_error {fault : ε} {f : ε → ε'} :
    (Except.error fault : Except ε α).mapError f = .error (f fault) :=
  rfl

@[simp] theorem mapError_eq_ok_iff {result : Except ε α} {f : ε → ε'} {a : α} :
    result.mapError f = .ok a ↔ result = .ok a := by
  cases result <;> simp

theorem toOption_eq_some_iff {result : Except ε α} {a : α} :
    result.toOption = some a ↔ result = .ok a := by
  cases result <;> simp [Except.toOption]

@[simp] theorem exists_unit_iff {p : Unit → Prop} : (∃ done, p done) ↔ p () :=
  ⟨fun ⟨_, h⟩ => h, fun h => ⟨(), h⟩⟩

theorem ok_unique {result : Except ε α} {a b : α} (h : result = .ok a) (h' : result = .ok b) :
    a = b := by
  rw [h] at h'
  exact Except.ok.inj h'

end Schematron
