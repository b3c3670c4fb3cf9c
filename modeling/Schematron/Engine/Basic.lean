import Schematron.Configuration
import Schematron.Engine.Error
import Schematron.Resource.Resolver
import Schematron.Xml.Document

/-!
Transformation engines. An engine makes a factory for every compile; the factory turns stylesheets
into transformations. All of them may change a state `σ`, which the resolver shares.
-/
namespace Schematron

/-- An action of an engine: it may change the state even where it fails. -/
abbrev EngineM (σ : Type) := ExceptT EngineError (StateM σ)

structure Stylesheet where
  systemId : String
  document : Xml.Document
  deriving DecidableEq

abbrev Transformation (σ : Type) := Xml.Document → EngineM σ Xml.Document

structure Factory (σ : Type) where
  /-- Makes the transformation of a stage. -/
  transformation : Stylesheet → EngineM σ (Transformation σ)
  /-- Makes the transformation of a generated stylesheet, which is applied many times. -/
  executable : Xml.Document → EngineM σ (Transformation σ)

structure Engine (σ : Type) where
  newFactory : Configuration → Resolver σ → StateM σ (Factory σ)

/-- Finds, reads and parses a document; its base is the system id it was found under. -/
def Resolver.loadDocument {σ : Type} (resolver : Resolver σ) (numbered : Bool) (reference : String)
    (base : Option String) : EngineM σ Xml.Document := do
  match ← liftM (resolver.load reference base) with
  | .error error => throw (.resolve error)
  | .ok (systemId, bytes) =>
    match Xml.Document.parseBytes bytes numbered with
    | .error error => throw (.parse error)
    | .ok document => return document.withBase systemId

end Schematron
