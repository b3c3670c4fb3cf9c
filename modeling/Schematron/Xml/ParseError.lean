import Schematron.Encoding.Detect
import Schematron.Xml.Attribute
import Schematron.Xml.Reference
import Schematron.Xml.Token
import Schematron.Xml.WellFormed

namespace Schematron.Xml

inductive Cause
  | encoding (fault : EncodingFault)
  | markup (fault : MarkupFault)
  | attributes (fault : AttributeFault)
  | reference (fault : ReferenceFault)
  | violation (broken : Violation)
  | misplacedDeclaration
  | misplacedDoctype
  | multipleRoots
  | unexpectedEnd
  | textOutsideRoot
  | cdataOutsideRoot
  | unclosedElement (name : String)
  | noRoot
  /-- A fault found by an engine's own reader, in its own words. -/
  | reported (message : String)
  deriving DecidableEq, Repr

def Cause.message : Cause → String
  | .encoding fault => fault.message
  | .markup fault => fault.message
  | .attributes fault => fault.message
  | .reference fault => fault.message
  | .violation broken => broken.message
  | .misplacedDeclaration => Violation.reservedTarget.message
  | .misplacedDoctype => "DOCTYPE only allowed once, before the root element"
  | .multipleRoots => "multiple root elements"
  | .unexpectedEnd => "unexpected end tag"
  | .textOutsideRoot => "text outside the root element"
  | .cdataOutsideRoot => "CDATA outside the root element"
  | .unclosedElement name => "unclosed element <" ++ name ++ ">"
  | .noRoot => "no root element"
  | .reported message => message

/-- A cause with its line; input that cannot be decoded has no lines. -/
structure ParseError where
  line : Option Nat
  cause : Cause
  deriving DecidableEq, Repr

def ParseError.message (error : ParseError) : String :=
  match error.line with
  | some line => s!"XML parse error at line {line}: " ++ error.cause.message
  | none => "XML parse error: " ++ error.cause.message

end Schematron.Xml
