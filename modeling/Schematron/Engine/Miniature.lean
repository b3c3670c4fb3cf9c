import Schematron.Engine.Journal
import Schematron.Text.Quoted

/-!
A miniature engine. A stylesheet says by the `mode` of its root what it does: expand the includes
of a schema, mark it as free of abstract patterns, or wrap it into a stylesheet whose application
reports the patterns. Each stage leaves a stamp on the root by which the next one knows it, so
stages out of order fail.
-/
namespace Schematron.Miniature

open Xml

variable {σ : Type} [Journaled σ]

def noteApplied (systemId : String) : EngineM σ Unit :=
  modify (Journaled.amend fun journal =>
    { journal with applied := journal.applied ++ [systemId] })

def isInclude (element : Element) : Bool :=
  element.localName == "include"

mutual

def replaceIncludes (replacement : Element → EngineM σ Element) :
    Element → EngineM σ Element
  | ⟨name, attributes, children, line⟩ => do
    let children ← replaceInNodes replacement children
    return ⟨name, attributes, children, line⟩

def replaceInNode (replacement : Element → EngineM σ Element) : Node → EngineM σ Node
  | .element inner => do
    if isInclude inner then return .element (← replacement inner)
    else return .element (← replaceIncludes replacement inner)
  | .text content => return .text content
  | .comment content => return .comment content

def replaceInNodes (replacement : Element → EngineM σ Element) :
    List Node → EngineM σ (List Node)
  | [] => return []
  | node :: rest => do
    let node ← replaceInNode replacement node
    return node :: (← replaceInNodes replacement rest)

end

/-- The element with its includes expanded, those of the included documents too, down to a given
depth. `base` is the system id of the document that the element stands in. -/
def expandIncludes (resolver : Resolver σ) (numbered : Bool) :
    Nat → Option String → Element → EngineM σ Element
  | depth, base, element =>
    replaceIncludes (fun marker => do
      match marker.attribute? "href" with
      | none => throw (.transform "sch:include without href")
      | some reference =>
        let document ← resolver.loadDocument numbered reference base
        match depth with
        | 0 => throw (.transform ("sch:include of " ++ reference ++ " never ends"))
        | depth + 1 => expandIncludes resolver numbered depth document.baseUri document.root)
      element

def stampName : String := "stage"

def requireStamp (source : Document) (expected : String) : EngineM σ Unit :=
  match source.root.attribute? stampName with
  | none => throw (.transform ("expected input from " ++ expected ++ ", got None"))
  | some stamp =>
    if stamp = expected then pure ()
    else throw (.transform ("expected input from " ++ expected ++ ", got Some(" ++
      Text.quoted stamp.toList ++ ")"))

def wrapper : Element :=
  ((Element.named "xsl:stylesheet").setAttribute "xmlns:xsl"
    "http://www.w3.org/1999/XSL/Transform").setAttribute "version" "2.0"

def applyMode (resolver : Resolver σ) (numbered : Bool) (systemId mode : String)
    (source : Document) : EngineM σ Document :=
  match mode with
  | "include" =>
    if source.root.localName = "schema" then do
      let root ← expandIncludes resolver numbered resolver.nesting source.baseUri source.root
      return .ofRoot (root.setAttribute stampName "include")
    else throw (.transform ("<" ++ source.root.name ++ "> is not a Schematron schema"))
  | "abstract" => do
    requireStamp source "include"
    return { source with root := source.root.setAttribute stampName "abstract" }
  | "svrl" => do
    requireStamp source "abstract"
    return .ofRoot (wrapper.addChild (.element source.root))
  | "not-a-stylesheet" => return .ofRoot (.named "svrl:garbage")
  | "fail" => throw (.transform (systemId ++ " aborted"))
  | other => throw (.transform ("unknown mode " ++ other))

/-- Checks that what a stylesheet includes can be read; only its own includes count. -/
def checkIncludes (resolver : Resolver σ) (numbered : Bool) (systemId : String) :
    List Element → EngineM σ Unit
  | [] => return ()
  | marker :: rest => do
    match marker.attribute? "href" with
    | none => throw (.stylesheet "xsl:include without href")
    | some reference =>
      let _ ← resolver.loadDocument numbered reference (some systemId)
      checkIncludes resolver numbered systemId rest

def transformation (resolver : Resolver σ) (numbered : Bool) (stylesheet : Stylesheet) :
    EngineM σ (Transformation σ) := do
  let root := stylesheet.document.root
  if root.localName ≠ "stylesheet" then
    throw (.stylesheet (stylesheet.systemId ++ " is not a stylesheet"))
  checkIncludes resolver numbered stylesheet.systemId (root.childElements.filter isInclude)
  match root.attribute? "mode" with
  | none => throw (.stylesheet "missing mode")
  | some mode =>
    return fun source => do
      noteApplied stylesheet.systemId
      applyMode resolver numbered stylesheet.systemId mode source

def patternIds (root : Element) : List String :=
  (root.descendants.filter (·.localName == "pattern")).filterMap (·.attribute? "id")

def report (ids : List String) : Document :=
  let output := (Element.named "svrl:schematron-output").setAttribute "xmlns:svrl"
    "http://purl.oclc.org/dsdl/svrl"
  .ofRoot (ids.foldl (fun output id =>
    output.addChild (.element ((Element.named "svrl:active-pattern").setAttribute "id" id))) output)

/-- The transformation of a generated stylesheet: whatever it is applied to, it reports the
patterns. -/
def executable (stylesheet : Document) : EngineM σ (Transformation σ) :=
  if stylesheet.root.localName = "stylesheet" then
    return fun _ => return report (patternIds stylesheet.root)
  else throw (.stylesheet ("<" ++ stylesheet.root.name ++ "> is not a stylesheet"))

def engine : Engine σ where
  newFactory configuration resolver := do
    modify (Journaled.amend fun journal => { journal with factories := journal.factories + 1 })
    return ⟨transformation resolver configuration.sourceLineNumbering, executable⟩

def openingTag (mode : String) : String :=
  "<xsl:stylesheet xmlns:xsl=\"http://www.w3.org/1999/XSL/Transform\" version=\"2.0\" mode=\"" ++
    mode ++ "\""

def pipeline : List (String × String) :=
  [("iso_dsdl_include.xsl", openingTag "include" ++ "/>"),
    ("iso_abstract_expand.xsl", openingTag "abstract" ++ "/>"),
    ("iso_svrl_for_xslt2.xsl",
      openingTag "svrl" ++ ">\n  <xsl:include href=\"lib/skeleton.xsl\"/>\n</xsl:stylesheet>"),
    ("lib/skeleton.xsl", openingTag "fragment" ++ "/>")]

def pipelineStore : Store :=
  ⟨pipeline.map fun (path, content) => (path, Utf8.encode content.toList)⟩

end Schematron.Miniature
