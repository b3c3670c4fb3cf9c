import Schematron.Compiler.Error
import Schematron.Compiler.Template
import Schematron.Compiler.Trace
import Schematron.Fingerprint

/-!
The compiler. Rules are read and parsed, then every stage transforms what the stage before left,
and the last result is compiled into a template. The first failure ends the compile.
-/
namespace Schematron

structure Compiler (σ : Type) where
  engine : Engine σ
  resolver : Resolver σ
  configuration : Configuration

/-- An action of a compile: what it did to the trace and the state stays where it fails. -/
abbrev CompileM (σ : Type) := ExceptT CompileError (StateT Trace (StateM σ))

namespace Compiler

variable {σ : Type}

def readRules (compiler : Compiler σ) (rules : Stream) : Except EngineError Xml.Document := do
  let bytes ← rules.readAll.mapError .io
  (Xml.Document.parseBytes bytes compiler.configuration.sourceLineNumbering).mapError .parse

def loadStylesheet (compiler : Compiler σ) (stage : Stage) :
    ExceptT StageError (StateM σ) Stylesheet := do
  match ← liftM (compiler.resolver.load stage.stylesheet none) with
  | .error error => throw (.ofEngine .stylesheetCompilation (.resolve error))
  | .ok (systemId, bytes) =>
    match Xml.Document.parseBytes bytes compiler.configuration.sourceLineNumbering with
    | .error error => throw (.stylesheetCompilation (.parse error))
    | .ok document => return ⟨systemId, document.withBase systemId⟩

def runStage (compiler : Compiler σ) (factory : Factory σ) (stage : Stage)
    (source : Xml.Document) : ExceptT StageError (StateM σ) Xml.Document := do
  let stylesheet ← compiler.loadStylesheet stage
  let transform ← (factory.transformation stylesheet).adapt (.ofEngine .stylesheetCompilation)
  (transform source).adapt (.ofEngine .transformation)

def inStep {α : Type} (step : CompileStep) (action : ExceptT StageError (StateM σ) α) :
    CompileM σ α :=
  ExceptT.mk (liftM (action.adapt (CompileError.mk step)).run)

def observedStage (compiler : Compiler σ) (factory : Factory σ) (source : Xml.Document)
    (stage : Stage) : CompileM σ Xml.Document := do
  modify (·.start stage)
  let result ← inStep (.stage stage) (compiler.runStage factory stage source)
  modify (·.complete stage result)
  return result

/-- One compile. Rules that cannot be read or parsed count for the first stage. -/
def run (compiler : Compiler σ) (id : Nat) (rules : Stream) : CompileM σ (Template σ) := do
  let factory ← liftM (compiler.engine.newFactory compiler.configuration compiler.resolver)
  match compiler.readRules rules with
  | .error error => throw ⟨.stage .includeExpand, .transformation error⟩
  | .ok source =>
    let stylesheet ← Stage.all.foldlM (compiler.observedStage factory) source
    let apply ← inStep .templates
      ((factory.executable stylesheet).adapt (.ofEngine .templateCompilation))
    return ⟨id, fingerprint compiler.configuration stylesheet.root, stylesheet, apply⟩

def compileObserved (compiler : Compiler σ) (id : Nat) (rules : Stream) :
    StateM σ (Except CompileError (Template σ) × Trace) :=
  (compiler.run id rules).run.run Trace.empty

def compile (compiler : Compiler σ) (id : Nat) (rules : Stream) :
    StateM σ (Except CompileError (Template σ)) :=
  return (← compiler.compileObserved id rules).1

end Compiler
end Schematron
