import Schematron.Resource.Basic
import Schematron.Xml.ParseError

namespace Schematron

inductive EngineError
  /-- A resource was not found or not read. -/
  | resolve (error : ResolveError)
  | parse (error : Xml.ParseError)
  /-- Input other than a resource broke off. -/
  | io (cause : String)
  | stylesheet (reason : String)
  | transform (reason : String)
  deriving DecidableEq, Repr

namespace EngineError

/-- Errors of resources and of reading speak for themselves. -/
def message : EngineError → String
  | .resolve error => error.message
  | .parse error => error.message
  | .io cause => "IO error: " ++ cause
  | .stylesheet reason => "Stylesheet rejected: " ++ reason
  | .transform reason => "XSLT error: " ++ reason

def chain (error : EngineError) : List String :=
  match error with
  | .resolve inner => inner.chain
  | .io cause => [error.message, cause]
  | _ => [error.message]

end EngineError
end Schematron
