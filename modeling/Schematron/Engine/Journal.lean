import Schematron.Engine.Basic

/-!
What an engine did, and errors put in its way. An engine with faults counts its calls, each kind
apart, and a call that a fault is planned for fails before the engine sees it. The journal may be
a part of the state only, so a resolver can keep something of its own beside it.
-/
namespace Schematron

inductive Call
  | newTransformation
  | transform
  | newExecutable
  | apply
  deriving DecidableEq, Repr

structure Journal where
  factories : Nat
  /-- The system ids of the stylesheets that were applied, first one first. -/
  applied : List String
  /-- All calls, failed ones included, first one first. -/
  calls : List Call
  deriving DecidableEq, Repr

def Journal.empty : Journal :=
  ⟨0, [], []⟩

class Journaled (σ : Type) where
  journal : σ → Journal
  amend : (Journal → Journal) → σ → σ

instance : Journaled Journal where
  journal := id
  amend change := change

/-- An error planned for one call, calls of its kind being numbered from 0. -/
structure PlannedFault where
  call : Call
  number : Nat
  error : EngineError
  deriving DecidableEq, Repr

variable {σ : Type} [Journaled σ]

namespace PlannedFault

def planned? (faults : List PlannedFault) (call : Call) (number : Nat) : Option EngineError :=
  (faults.find? fun fault => fault.call = call ∧ fault.number = number).map PlannedFault.error

def guarded {α : Type} (faults : List PlannedFault) (call : Call)
    (action : EngineM σ α) : EngineM σ α := do
  let before := Journaled.journal (← get)
  modify (Journaled.amend fun journal => { journal with calls := journal.calls ++ [call] })
  match planned? faults call (before.calls.count call) with
  | some error => throw error
  | none => action

end PlannedFault

def Factory.withFaults (factory : Factory σ) (faults : List PlannedFault) : Factory σ where
  transformation stylesheet := do
    let transform ←
      PlannedFault.guarded faults .newTransformation (factory.transformation stylesheet)
    return fun source => PlannedFault.guarded faults .transform (transform source)
  executable stylesheet := do
    let apply ← PlannedFault.guarded faults .newExecutable (factory.executable stylesheet)
    return fun source => PlannedFault.guarded faults .apply (apply source)

def Engine.withFaults (engine : Engine σ) (faults : List PlannedFault) : Engine σ where
  newFactory configuration resolver := do
    let factory ← engine.newFactory configuration resolver
    return factory.withFaults faults

end Schematron
