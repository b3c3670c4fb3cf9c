import Schematron.Engine.Error
import Schematron.Stage

/-!
Why a compile fails: the step it failed in and the cause, under which the error of the failed call
stands unchanged. A resource that is not found is a cause of its own, whichever call reported it;
one that is found and cannot be read counts for the call.
-/
namespace Schematron

inductive CompileStep
  | stage (running : Stage)
  /-- The compilation of the generated stylesheet. -/
  | templates
  deriving DecidableEq, Repr

def CompileStep.describe : CompileStep → String
  | .stage running => "stage " ++ running.name
  | .templates => "template compilation"

inductive StageError
  | resourceNotFound (error : ResolveError)
  | stylesheetCompilation (error : EngineError)
  | transformation (error : EngineError)
  | templateCompilation (error : EngineError)
  deriving DecidableEq, Repr

namespace StageError

def message : StageError → String
  | .resourceNotFound _ => "Resource not found"
  | .stylesheetCompilation _ => "Stylesheet compilation failed"
  | .transformation _ => "Transformation failed"
  | .templateCompilation _ => "Template compilation failed"

def behind : StageError → List String
  | .resourceNotFound error => error.chain
  | .stylesheetCompilation error => error.chain
  | .transformation error => error.chain
  | .templateCompilation error => error.chain

/-- The cause for an error of an engine, `kind` being the one of the failed call. -/
def ofEngine (kind : EngineError → StageError) : EngineError → StageError
  | .resolve (.notFound path) => .resourceNotFound (.notFound path)
  | error => kind error

end StageError

structure CompileError where
  step : CompileStep
  cause : StageError
  deriving DecidableEq, Repr

namespace CompileError

def message (error : CompileError) : String :=
  "Schematron configuration error in " ++ error.step.describe

def stage? (error : CompileError) : Option Stage :=
  match error.step with
  | .stage running => some running
  | .templates => none

def isResourceNotFound (error : CompileError) : Bool :=
  match error.cause with
  | .resourceNotFound _ => true
  | _ => false

/-- The messages of the error, its cause and all errors behind it, outermost first. -/
def chain (error : CompileError) : String :=
  ": ".intercalate (error.message :: error.cause.message :: error.cause.behind)

end CompileError
end Schematron
