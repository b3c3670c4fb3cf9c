import Schematron.Compiler.Basic
import Schematron.Engine.Journal

namespace Schematron

structure Request where
  rules : Stream
  /-- Whether an observer watches. -/
  observed : Bool
  deriving DecidableEq, Repr

structure Run where
  outcome : Except CompileError (Template Journal)
  /-- What the observer saw; nothing where there was none. -/
  trace : Trace
  /-- The stylesheets that were applied in this compile. -/
  applied : List String

namespace Compiler

def serve (compiler : Compiler Journal) (id : Nat) (request : Request) : StateM Journal Run := do
  let before := (← get).applied.length
  if request.observed then
    let (outcome, trace) ← compiler.compileObserved id request.rules
    return ⟨outcome, trace, (← get).applied.drop before⟩
  else
    let outcome ← compiler.compile id request.rules
    return ⟨outcome, Trace.empty, (← get).applied.drop before⟩

/-- Compiles the requests of a session; every compile has an id of its own, counted from `id`. -/
def serveAll (compiler : Compiler Journal) (id : Nat) : List Request → StateM Journal (List Run)
  | [] => return []
  | request :: rest => do
    let run ← compiler.serve id request
    return run :: (← compiler.serveAll (id + 1) rest)

end Compiler

def templatesOf (runs : List Run) : List (Template Journal) :=
  runs.filterMap (·.outcome.toOption)

structure Application where
  template : Nat
  document : Xml.Document
  deriving DecidableEq

def applyAll (templates : List (Template Journal)) :
    List Application → StateM Journal (List (Option (Except EngineError Xml.Document)))
  | [] => return []
  | application :: rest => do
    let report ← match templates[application.template]? with
      | none => pure none
      | some template => do
        let result ← (template.apply application.document).run
        pure (some result)
    return report :: (← applyAll templates rest)

end Schematron
