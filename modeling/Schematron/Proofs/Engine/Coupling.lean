import Schematron.Engine.Journal
import Schematron.Proofs.Outcome

/-!
Two actions side by side. They are coupled if, started in related states, they end alike: with
related results and states, or both with the same error. What relates the states may be more than
their equality, so that a coupling of an action with itself is an invariant of the action. Every way
of putting actions together keeps couplings.
-/
namespace Schematron

variable {ε ε' α α' β β' σ τ : Type}

/-- How two actions end that are coupled; the states are related in one way where the actions can
go on and in another one, which may depend on the error, where they cannot. -/
inductive Coupled (going : σ → τ → Prop) (ended : ε → σ → τ → Prop) (results : α → β → Prop) :
    Except ε α × σ → Except ε β × τ → Prop
  | ok {a : α} {b : β} {s : σ} {t : τ} :
      results a b → going s t → Coupled going ended results (.ok a, s) (.ok b, t)
  | error {fault : ε} {s : σ} {t : τ} :
      ended fault s t → Coupled going ended results (.error fault, s) (.error fault, t)

def Couples (going : σ → τ → Prop) (ended : ε → σ → τ → Prop) (results : α → β → Prop)
    (first : ExceptT ε (StateM σ) α) (second : ExceptT ε (StateM τ) β) : Prop :=
  ∀ s t, going s t → Coupled going ended results (first.run.run s) (second.run.run t)

theorem run_bind (action : ExceptT ε (StateM σ) α) (next : α → ExceptT ε (StateM σ) β) (s : σ) :
    (action >>= next).run.run s =
      match action.run.run s with
      | (.ok a, s) => (next a).run.run s
      | (.error fault, s) => (.error fault, s) := by
  simp only [bind, ExceptT.bind, ExceptT.mk, ExceptT.run, StateT.bind, StateT.run]
  generalize action s = ended
  obtain ⟨⟨⟩ | ⟨⟩, _⟩ := ended <;> rfl

theorem run_adapt (action : ExceptT ε (StateM σ) α) (change : ε → ε') (s : σ) :
    (action.adapt change).run.run s =
      ((action.run.run s).1.mapError change, (action.run.run s).2) :=
  rfl

theorem run_ext {action action' : ExceptT ε (StateM σ) α}
    (h : ∀ s, action.run.run s = action'.run.run s) : action = action' :=
  funext h

theorem adapt_pure (a : α) (change : ε → ε') :
    (pure a : ExceptT ε (StateM σ) α).adapt change = pure a :=
  rfl

theorem adapt_bind (action : ExceptT ε (StateM σ) α) (next : α → ExceptT ε (StateM σ) β)
    (change : ε → ε') :
    (action >>= next).adapt change = action.adapt change >>= fun a => (next a).adapt change := by
  apply run_ext
  intro s
  rw [run_adapt, run_bind, run_bind, run_adapt]
  generalize action.run.run s = ended
  obtain ⟨⟨⟩ | ⟨⟩, _⟩ := ended <;> rfl

@[simp] theorem run_liftM (action : StateM σ α) (s : σ) :
    (liftM action : ExceptT ε (StateM σ) α).run.run s = (.ok (action.run s).1, (action.run s).2) :=
  rfl

@[simp] theorem run_pure (a : α) (s : σ) :
    (pure a : ExceptT ε (StateM σ) α).run.run s = (.ok a, s) :=
  rfl

@[simp] theorem run_throw (fault : ε) (s : σ) :
    (throw fault : ExceptT ε (StateM σ) α).run.run s = (.error fault, s) :=
  rfl

namespace Couples

variable {going : σ → τ → Prop} {ended : ε → σ → τ → Prop} {results : α → β → Prop}
  {results' : α' → β' → Prop}

theorem pure {a : α} {b : β} (h : results a b) :
    Couples going ended results (pure a) (pure b) :=
  fun _ _ related => .ok h related

theorem throw {fault : ε} (h : ∀ s t, going s t → ended fault s t) :
    Couples going ended results (throw fault) (throw fault) :=
  fun s t related => .error (h s t related)

theorem bind {first : ExceptT ε (StateM σ) α} {second : ExceptT ε (StateM τ) β}
    {next : α → ExceptT ε (StateM σ) α'} {next' : β → ExceptT ε (StateM τ) β'}
    (h : Couples going ended results first second)
    (later : ∀ a b, results a b → Couples going ended results' (next a) (next' b)) :
    Couples going ended results' (first >>= next) (second >>= next') := by
  intro s t related
  rw [run_bind, run_bind]
  have coupled := h s t related
  generalize first.run.run s = x, second.run.run t = y at coupled ⊢
  cases coupled with
  | ok same related => exact later _ _ same _ _ related
  | error stopped => exact .error stopped

theorem adapt {first : ExceptT ε (StateM σ) α} {second : ExceptT ε (StateM τ) β}
    {ended' : ε' → σ → τ → Prop} {change : ε → ε'} (h : Couples going ended results first second)
    (changed : ∀ fault s t, ended fault s t → ended' (change fault) s t) :
    Couples going ended' results (first.adapt change) (second.adapt change) := by
  intro s t related
  rw [run_adapt, run_adapt]
  have coupled := h s t related
  generalize first.run.run s = x, second.run.run t = y at coupled ⊢
  cases coupled with
  | ok same related => exact .ok same related
  | error stopped => exact .error (changed _ _ _ stopped)

theorem modify {change : σ → σ} {change' : τ → τ}
    (h : ∀ s t, going s t → going (change s) (change' t)) :
    Couples going ended (fun _ _ => True) (modify change) (modify change') :=
  fun s t related => .ok trivial (h s t related)

theorem mono {weaker : α → β → Prop} {first : ExceptT ε (StateM σ) α}
    {second : ExceptT ε (StateM τ) β} (h : Couples going ended results first second)
    (implied : ∀ a b, results a b → weaker a b) : Couples going ended weaker first second := by
  intro s t related
  have coupled := h s t related
  generalize first.run.run s = x, second.run.run t = y at coupled ⊢
  cases coupled with
  | ok same related => exact .ok (implied _ _ same) related
  | error stopped => exact .error stopped

end Couples
end Schematron
